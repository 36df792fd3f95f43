import Browserd.Core.NavigationCompleteness

/-!
# Soundness of navigations

A waiter takes any page that it recognizes for the one it waits for: the page that was in the tab
before, and the pages of other navigations.
-/

namespace Browserd

/-- The other navigations that commit as pages of the primary main frame do so at `urls`. -/
def OthersCommitAt (urls : List GURL) (events : List TabEvent) : Prop :=
  ∀ navigation, .finishNavigation navigation ∈ events → navigation.requested = false →
    navigation.handle.commitsPage = true → navigation.handle.url ∈ urls

/-- `Navigate` reports success only after its own navigation has committed, whatever happens to
the tab while other navigations commit at `urls`. -/
def ReportsOnlyCommits (chromium : Chromium) (urls : List GURL) : Started BrowserStatus Unit → Prop
  | .reported status => status.isOk = false
  | .waiting page waiter _ =>
      ∀ events, OthersCommitAt urls events →
        let tab := (WaitingTab.start page waiter).run chromium events
        (∃ status ∈ tab.statuses, status.isOk = true) → tab.committed = true

namespace WaitingTab

variable (chromium : Chromium) {tab : WaitingTab} {targetUrl : GURL} {urls : List GURL}

/-- Nothing the waiter recognizes has been shown to it; or it has failed. -/
private def Unseen (targetUrl : GURL) (tab : WaitingTab) : Prop :=
  (∃ status, tab.Finished status ∧ status.isOk = false) ∨
    ∃ w, tab.Pending targetUrl w ∧ w.seenRequestedNavigation = false ∧
      isRequestedNavigation targetUrl tab.page.lastCommittedURL = false

private theorem unseen_step {event : TabEvent}
    (hurls : ∀ url ∈ urls, isRequestedNavigation targetUrl url = false)
    (hothers : ∀ navigation, event = .finishNavigation navigation → navigation.requested = false →
      navigation.handle.commitsPage = true → navigation.handle.url ∈ urls)
    (hown : event.commitsRequested = false) (h : Unseen targetUrl tab) :
    Unseen targetUrl (tab.step chromium event) := by
  rcases h with ⟨status, hfinished, hstatus⟩ | ⟨w, h, hseen, hpage⟩
  · exact .inl ⟨status, hfinished.step chromium event, hstatus⟩
  -- A page that commits and is recognized would be the navigation's own, or an error page.
  have hrecognized : ∀ waiterEvent, event.waiterEvent (event.applyTo tab.page) = some waiterEvent →
      w.Recognizes waiterEvent → w.Fails waiterEvent := by
    intro waiterEvent hevent hrecognizes
    cases event with
    | finishNavigation navigation =>
        obtain rfl := (Option.some.inj hevent).symm
        refine ⟨hrecognizes, ?_⟩
        by_contra herror
        obtain ⟨hmain, hcommitted, hurl⟩ := hrecognizes
        have hcommits : navigation.handle.commitsPage = true := by
          simpa [NavigationHandle.commitsPage, NavigationHandle.commits, hmain, hcommitted]
            using herror
        have hrequested : navigation.requested = false := by
          simpa [TabEvent.commitsRequested, hcommits] using hown
        have := hurls _ (hothers navigation rfl hrequested hcommits)
        rw [h.targetUrl] at hurl
        simp [this] at hurl
    | stopLoading =>
        obtain rfl := (Option.some.inj hevent).symm
        simp [NavigationWaiter.Recognizes, TabEvent.applyTo, h.targetUrl, hpage] at hrecognizes
    | checkCurrentState =>
        obtain rfl := (Option.some.inj hevent).symm
        simp [NavigationWaiter.Recognizes, TabEvent.applyTo, h.targetUrl, hpage] at hrecognizes
    | startLoading => simp [TabEvent.waiterEvent] at hevent
    | failLoad isPrimaryMainFrame validatedUrl errorCode =>
        obtain rfl := (Option.some.inj hevent).symm
        exact hrecognizes.elim
    | timeout =>
        obtain rfl := (Option.some.inj hevent).symm
        exact hrecognizes.elim
    | destroyed =>
        obtain rfl := (Option.some.inj hevent).symm
        exact hrecognizes.elim
  rcases h.step chromium event with ⟨rfl, hstep⟩ |
    ⟨waiterEvent, hevent, ⟨status, -, hstatus, hstep⟩ | ⟨hsettles, -⟩ |
      ⟨w', hfails, -, hseen', hstep⟩⟩
  · exact .inr ⟨w, hstep, hseen, hpage⟩
  · exact .inl ⟨status, hstep, hstatus⟩
  · have hshown : w.Recognizes waiterEvent := hsettles.seen.resolve_left (by simp [hseen])
    exact absurd (hrecognized _ hevent hshown) hsettles.not_fails
  · have hshown : ¬ w.Recognizes waiterEvent := fun h => hfails (hrecognized _ hevent h)
    refine .inr ⟨w', hstep, by simpa [hseen, hshown] using hseen', ?_⟩
    rw [step_page]
    cases event with
    | finishNavigation navigation =>
        obtain rfl := (Option.some.inj hevent).symm
        simp only [TabEvent.applyTo]
        split
        · rename_i hcommits
          simp only [NavigationHandle.commits, Bool.and_eq_true] at hcommits
          by_contra hurl
          exact hshown ⟨hcommits.1, hcommits.2, by rw [h.targetUrl]; simpa using hurl⟩
        · exact hpage
    | _ => exact hpage

/-- Until its own navigation commits, the waiter has recognized nothing. -/
private theorem run_unseen (page : WebContents) {events : List TabEvent}
    (hpage : isRequestedNavigation targetUrl page.lastCommittedURL = false)
    (hurls : ∀ url ∈ urls, isRequestedNavigation targetUrl url = false)
    (hothers : OthersCommitAt urls events) :
    let tab := (start page (.navigation (.start targetUrl))).run chromium events
    tab.committed = true ∨ Unseen targetUrl tab := by
  refine run_invariant (I := fun tab => tab.committed = true ∨ Unseen targetUrl tab) events ?_
    (.inr (.inr ⟨_, start_pending page targetUrl, rfl, hpage⟩))
  rintro tab event hevent (hcommitted | hunseen)
  · exact .inl (by simp [hcommitted])
  · cases hown : event.commitsRequested with
    | true => exact .inl (by simp [hown])
    | false =>
        refine .inr (unseen_step chromium hurls ?_ hown hunseen)
        rintro navigation rfl
        exact hothers navigation hevent

/-- The tab stops loading a page that the waiter takes for its own. -/
private theorem statuses_of_recognized (page : WebContents)
    (hpage : isRequestedNavigation targetUrl page.lastCommittedURL = true) :
    ((start page (.navigation (.start targetUrl))).run chromium [.stopLoading]).statuses =
      [.ok] := by
  simp [start, step, TabEvent.waiterEvent, TabEvent.applyTo, Waiter.deliver,
    NavigationWaiter.deliver, NavigationWaiter.start, NavigationWaiter.didStopLoading,
    NavigationWaiter.complete, hpage]

/-- Another navigation commits at `url`, and the tab stops loading. -/
def otherCommitsAt (url : GURL) : List TabEvent :=
  [.finishNavigation ⟨⟨url, true, true, false, 0⟩, false⟩, .stopLoading]

private theorem statuses_of_other (page : WebContents) {url : GURL}
    (hurl : isRequestedNavigation targetUrl url = true) :
    ((start page (.navigation (.start targetUrl))).run chromium
      (otherCommitsAt url)).statuses = [.ok] := by
  rw [otherCommitsAt]
  by_cases hloading : page.isLoading = true
  · simp [start, step, TabEvent.waiterEvent, TabEvent.applyTo, Waiter.deliver,
      NavigationWaiter.deliver, NavigationWaiter.start, NavigationWaiter.didStopLoading,
      NavigationWaiter.didFinishNavigation, NavigationWaiter.complete, NavigationHandle.commits,
      hurl, hloading]
  · simp [start, step, TabEvent.waiterEvent, TabEvent.applyTo, Waiter.deliver,
      NavigationWaiter.deliver, NavigationWaiter.start, NavigationWaiter.didFinishNavigation,
      NavigationWaiter.complete, NavigationHandle.commits, hurl, hloading]

end WaitingTab

/-- `Navigate` reports only its own success exactly when it fails at once, or neither the page in
the tab nor a page that another navigation commits there is one that its waiter recognizes. -/
theorem navigate_reportsOnlyCommits_iff {ρ : Type} [BrowserRuntime ρ] (chromium : Chromium)
    (rt : ρ) (targetId : Option String) (targetUrl : GURL) (urls : List GURL) :
    ReportsOnlyCommits chromium urls (BrowserController.navigate targetId targetUrl rt) ↔
      ∀ page, targetUrl.isValid = true →
        BrowserController.resolveWebContents rt targetId = some page →
          isRequestedNavigation targetUrl page.lastCommittedURL = false ∧
            ∀ url ∈ urls, isRequestedNavigation targetUrl url = false := by
  simp only [BrowserController.navigate]
  by_cases hvalid : targetUrl.isValid = true
  · simp only [hvalid, Bool.not_true, Bool.false_eq_true, if_false, forall_const]
    cases hresolve : BrowserController.resolveWebContents rt targetId with
    | none => simp [ReportsOnlyCommits, tabNotFound, BrowserStatus.error, BrowserStatus.isOk]
    | some page =>
        simp only [ReportsOnlyCommits, Option.some.injEq, forall_eq']
        constructor
        · intro hsound
          refine ⟨?_, ?_⟩
          · by_contra hpage
            have hstatuses := WaitingTab.statuses_of_recognized chromium page
              (by simpa using hpage)
            have hcommitted := hsound [.stopLoading] (by simp [OthersCommitAt])
              ⟨.ok, hstatuses ▸ List.mem_singleton_self _, rfl⟩
            simp [WaitingTab.start, TabEvent.commitsRequested] at hcommitted
          · intro url hmem
            by_contra hurl
            have hstatuses := WaitingTab.statuses_of_other chromium page (by simpa using hurl)
            have hcommitted := hsound (WaitingTab.otherCommitsAt url)
              (by simp [OthersCommitAt, WaitingTab.otherCommitsAt, hmem])
              ⟨.ok, hstatuses ▸ List.mem_singleton_self _, rfl⟩
            simp [WaitingTab.start, WaitingTab.otherCommitsAt,
              TabEvent.commitsRequested] at hcommitted
        · rintro ⟨hpage, hurls⟩ events hothers ⟨status, hmem, hok⟩
          rcases WaitingTab.run_unseen chromium page hpage hurls hothers with
            hcommitted | ⟨status', hfinished, hfailed⟩ | ⟨w, hpending, -⟩
          · exact hcommitted
          · have hstatus : status = status' := by simpa [hfinished.statuses] using hmem
            simp [← hstatus, hok] at hfailed
          · rw [hpending.statuses] at hmem
            simp at hmem
  · simp [hvalid, ReportsOnlyCommits, BrowserStatus.error, BrowserStatus.isOk]

/-- From a page of the same host, the end of that page's loading is reported as success. -/
theorem navigate_reports_stale_page :
    ¬ ∀ (chromium : Chromium) (rt : HeadlessRuntime) (targetId : Option String) (targetUrl : GURL)
        (urls : List GURL),
        ReportsOnlyCommits chromium urls (BrowserController.navigate targetId targetUrl rt) := by
  intro h
  have hsound : ReportsOnlyCommits shopChromium []
      (.waiting shopPage (.navigation (.start shopURL)) ()) :=
    h shopChromium shopRuntime none shopURL []
  have hpage : isRequestedNavigation shopURL shopPage.lastCommittedURL = true := by decide
  have hstatuses := WaitingTab.statuses_of_recognized shopChromium shopPage hpage
  have hcommitted := hsound [.stopLoading] (by simp [OthersCommitAt])
    ⟨.ok, hstatuses ▸ List.mem_singleton_self _, rfl⟩
  cases hcommitted

end Browserd
