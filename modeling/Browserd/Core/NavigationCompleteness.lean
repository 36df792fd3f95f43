import Browserd.Core.BrowserController
import Browserd.Core.PendingNavigation
import Mathlib.Data.List.Induction

/-!
# Completeness of navigations

A waiter knows its navigation only by URL and host, so it misses a success whose final URL it does
not recognize, and takes the failure of any navigation that it recognizes for its own.
-/

namespace Browserd

/-- What the events make of the page. -/
def pageAfter (page : WebContents) (events : List TabEvent) : WebContents :=
  events.foldl TabEvent.applyTo page

/-- The event ends the wait with an error: a navigation that is taken for the one to `targetUrl`
fails, the timer fires, or the tab is gone. -/
def TabEvent.FailsAt (targetUrl : GURL) : TabEvent → Prop
  | .finishNavigation navigation =>
      navigation.handle.commits = true ∧ navigation.handle.isErrorPage = true ∧
        isRequestedNavigation targetUrl navigation.handle.url = true
  | .failLoad isPrimaryMainFrame validatedUrl _ =>
      isPrimaryMainFrame = true ∧ isRequestedNavigation targetUrl validatedUrl = true
  | .timeout => True
  | .destroyed => True
  | _ => False

/-- The event, which comes after `before`, shows a page that is taken for the one at `targetUrl`:
it commits, or is found in the tab when loading stops or by the check, which is posted once. -/
def TabEvent.Shows (targetUrl : GURL) (page : WebContents) (before : List TabEvent) :
    TabEvent → Prop
  | .finishNavigation navigation =>
      navigation.handle.commitsPage = true ∧
        isRequestedNavigation targetUrl navigation.handle.url = true
  | .stopLoading =>
      isRequestedNavigation targetUrl (pageAfter page before).lastCommittedURL = true
  | .checkCurrentState =>
      .checkCurrentState ∉ before ∧
        isRequestedNavigation targetUrl (pageAfter page before).lastCommittedURL = true
  | _ => False

/-- Some event of `past` has shown such a page. -/
def Shown (targetUrl : GURL) (page : WebContents) (past : List TabEvent) : Prop :=
  ∃ before event after, past = before ++ event :: after ∧ event.Shows targetUrl page before

/-- There is a moment at which such a page has been shown, the tab is not loading, and nothing has
failed. -/
def ShownBeforeFailure (targetUrl : GURL) (page : WebContents) (events : List TabEvent) : Prop :=
  ∃ past later, events = past ++ later ∧ Shown targetUrl page past ∧
    (pageAfter page past).isLoading = false ∧ ∀ event ∈ past, ¬ event.FailsAt targetUrl

/-- The navigation that was started commits at `finalUrl` as a page of the primary main frame, and
then the tab stops loading, before the timer fires and while there is a tab. Whatever else the tab
does comes in between. -/
structure CommitsAndStops (page : WebContents) (finalUrl : GURL) (events : List TabEvent) :
    Prop where
  inTime : .timeout ∉ events
  tab : .destroyed ∉ events
  commits : ∃ navigation, .finishNavigation navigation ∈ events ∧ navigation.requested = true ∧
    navigation.handle.commitsPage = true ∧ navigation.handle.url = finalUrl
  stops : (pageAfter page events).isLoading = false

section Schedules

variable {targetUrl : GURL} {page : WebContents} {past : List TabEvent} {event : TabEvent}

theorem pageAfter_snoc (page : WebContents) (past : List TabEvent) (event : TabEvent) :
    pageAfter page (past ++ [event]) = event.applyTo (pageAfter page past) :=
  List.foldl_append

theorem shown_snoc :
    Shown targetUrl page (past ++ [event]) ↔
      Shown targetUrl page past ∨ event.Shows targetUrl page past := by
  constructor
  · rintro ⟨before, shown, after, heq, hshows⟩
    rcases List.eq_nil_or_concat after with rfl | ⟨init, last, rfl⟩
    · obtain ⟨rfl, rfl⟩ := List.append_singleton_inj.mp heq
      exact .inr hshows
    · rw [List.concat_eq_append, ← List.cons_append, ← List.append_assoc] at heq
      obtain ⟨rfl, -⟩ := List.append_singleton_inj.mp heq
      exact .inl ⟨before, shown, init, rfl, hshows⟩
  · rintro (⟨before, shown, after, rfl, hshows⟩ | hshows)
    · exact ⟨before, shown, after ++ [event], by simp, hshows⟩
    · exact ⟨past, event, [], rfl, hshows⟩

theorem ShownBeforeFailure.snoc (h : ShownBeforeFailure targetUrl page past) (event : TabEvent) :
    ShownBeforeFailure targetUrl page (past ++ [event]) := by
  obtain ⟨first, later, rfl, hshown⟩ := h
  exact ⟨first, later ++ [event], List.append_assoc .., hshown⟩

end Schedules

namespace NavigationWaiter

variable {w : NavigationWaiter}

/-- The posted check runs once. -/
theorem deliver_checkPosted (chromium : Chromium) (w : NavigationWaiter) (event : WaiterEvent) :
    (w.deliver chromium event).1.checkPosted =
      match event with
      | .checkCurrentState _ => false
      | _ => w.checkPosted := by
  have hcomplete (v : NavigationWaiter) (status : BrowserStatus) :
      (v.complete status).1.checkPosted = v.checkPosted := by
    rw [complete]
    split <;> rfl
  cases event with
  | didFinishNavigation handle page =>
      simp only [deliver, didFinishNavigation]
      split
      · split
        · rfl
        split
        · rfl
        split
        · exact hcomplete _ _
        split
        · exact hcomplete _ _
        · rfl
      · rfl
  | didStopLoading page =>
      simp only [deliver, didStopLoading]
      split
      · split
        · split
          · rfl
          · exact hcomplete _ _
        · exact hcomplete _ _
      · rfl
  | didFailLoad isPrimaryMainFrame validatedUrl errorCode =>
      simp only [deliver, didFailLoad]
      split
      · split
        · rfl
        split
        · rfl
        · exact hcomplete _ _
      · rfl
  | webContentsDestroyed =>
      simp only [deliver, webContentsDestroyed]
      split
      · exact hcomplete _ _
      · rfl
  | checkCurrentState page =>
      simp only [deliver, checkCurrentState]
      split
      · split
        · rfl
        split
        · exact hcomplete _ _
        · rfl
      · rename_i hposted
        simpa using hposted
  | timeout =>
      simp only [deliver, onTimeout]
      split
      · exact hcomplete _ _
      · rfl

end NavigationWaiter

namespace WaitingTab

variable (chromium : Chromium) {tab : WaitingTab} {targetUrl : GURL} {page : WebContents}
  {past : List TabEvent} {w : NavigationWaiter}

/-- After `past` the waiter waits: it has seen its navigation exactly if that was shown, and then
the tab is still loading. -/
private structure Watches (targetUrl : GURL) (page : WebContents) (past : List TabEvent)
    (tab : WaitingTab) (w : NavigationWaiter) : Prop where
  pending : tab.Pending targetUrl w
  page_eq : tab.page = pageAfter page past
  checkPosted : w.checkPosted = true ↔ .checkCurrentState ∉ past
  seen : w.seenRequestedNavigation = true ↔ Shown targetUrl page past
  loading : w.seenRequestedNavigation = true → tab.page.isLoading = true
  calm : ∀ event ∈ past, ¬ event.FailsAt targetUrl

section Notifications

variable {event : TabEvent} {waiterEvent : WaiterEvent}

private theorem Watches.fails_iff (h : Watches targetUrl page past tab w)
    (hevent : event.waiterEvent (event.applyTo tab.page) = some waiterEvent) :
    w.Fails waiterEvent ↔ event.FailsAt targetUrl := by
  have htarget := h.pending.targetUrl
  cases event with
  | startLoading => cases hevent
  | finishNavigation navigation =>
      obtain rfl := (Option.some.inj hevent).symm
      simp only [NavigationWaiter.Fails, NavigationWaiter.Recognizes, TabEvent.FailsAt,
        NavigationHandle.commits, Bool.and_eq_true, htarget]
      tauto
  | failLoad isPrimaryMainFrame validatedUrl errorCode =>
      obtain rfl := (Option.some.inj hevent).symm
      simp only [NavigationWaiter.Fails, TabEvent.FailsAt, htarget]
  | _ =>
      obtain rfl := (Option.some.inj hevent).symm
      exact Iff.rfl

private theorem Watches.recognizes_iff (h : Watches targetUrl page past tab w)
    (hcalm : ¬ event.FailsAt targetUrl)
    (hevent : event.waiterEvent (event.applyTo tab.page) = some waiterEvent) :
    w.Recognizes waiterEvent ↔ event.Shows targetUrl page past := by
  have htarget := h.pending.targetUrl
  cases event with
  | startLoading => cases hevent
  | finishNavigation navigation =>
      obtain rfl := (Option.some.inj hevent).symm
      simp only [TabEvent.FailsAt, NavigationHandle.commits, Bool.and_eq_true] at hcalm
      simp only [NavigationWaiter.Recognizes, TabEvent.Shows, NavigationHandle.commitsPage,
        NavigationHandle.commits, Bool.and_eq_true, Bool.not_eq_true', htarget]
      constructor
      · rintro ⟨hmain, hcommitted, hurl⟩
        refine ⟨⟨⟨hmain, hcommitted⟩, ?_⟩, hurl⟩
        by_contra herror
        exact hcalm ⟨⟨hmain, hcommitted⟩, by simpa using herror, hurl⟩
      · rintro ⟨⟨⟨hmain, hcommitted⟩, -⟩, hurl⟩
        exact ⟨hmain, hcommitted, hurl⟩
  | stopLoading =>
      obtain rfl := (Option.some.inj hevent).symm
      simp only [NavigationWaiter.Recognizes, TabEvent.Shows, TabEvent.applyTo, htarget, h.page_eq]
  | checkCurrentState =>
      obtain rfl := (Option.some.inj hevent).symm
      simp only [NavigationWaiter.Recognizes, TabEvent.Shows, TabEvent.applyTo, htarget, h.page_eq,
        h.checkPosted]
  | _ =>
      obtain rfl := (Option.some.inj hevent).symm
      exact Iff.rfl

/-- Only the end of loading finishes the wait for a navigation that was seen before. -/
private theorem Watches.settles_iff (h : Watches targetUrl page past tab w)
    (hcalm : ¬ event.FailsAt targetUrl)
    (hevent : event.waiterEvent (event.applyTo tab.page) = some waiterEvent) :
    w.Settles waiterEvent ↔
      (w.seenRequestedNavigation = true ∨ w.Recognizes waiterEvent) ∧
        (event.applyTo tab.page).isLoading = false := by
  have hidle (hloading : tab.page.isLoading = false) : ¬ w.seenRequestedNavigation = true := by
    intro hseen
    simp [h.loading hseen] at hloading
  cases event with
  | startLoading => cases hevent
  | finishNavigation navigation =>
      obtain rfl := (Option.some.inj hevent).symm
      have hpage : (TabEvent.applyTo tab.page (.finishNavigation navigation)).isLoading =
          tab.page.isLoading := by
        rw [TabEvent.applyTo]
        split <;> rfl
      have hfails := (h.fails_iff hevent).not.mpr hcalm
      constructor
      · rintro ⟨hrecognizes, -, hloading⟩
        exact ⟨.inr hrecognizes, hloading⟩
      · rintro ⟨hseen | hrecognizes, hloading⟩
        · exact absurd hseen (hidle (hpage ▸ hloading))
        · refine ⟨hrecognizes, ?_, hloading⟩
          by_contra herror
          exact hfails ⟨hrecognizes, by simpa using herror⟩
  | stopLoading =>
      obtain rfl := (Option.some.inj hevent).symm
      exact (and_iff_left rfl).symm
  | checkCurrentState =>
      obtain rfl := (Option.some.inj hevent).symm
      constructor
      · rintro ⟨hrecognizes, hloading⟩
        exact ⟨.inr hrecognizes, hloading⟩
      · rintro ⟨hseen | hrecognizes, hloading⟩
        · exact absurd hseen (hidle hloading)
        · exact ⟨hrecognizes, hloading⟩
  | failLoad isPrimaryMainFrame validatedUrl errorCode =>
      obtain rfl := (Option.some.inj hevent).symm
      constructor
      · exact False.elim
      · rintro ⟨hseen | hrecognizes, hloading⟩
        · exact hidle hloading hseen
        · exact hrecognizes
  | timeout => exact absurd trivial hcalm
  | destroyed => exact absurd trivial hcalm

end Notifications

/-- An event at a waiting tab makes the waiter report a failure, or success at a moment of the kind
that it waits for, or leaves it waiting. -/
private theorem Watches.step (h : Watches targetUrl page past tab w) (event : TabEvent) :
    (event.FailsAt targetUrl ∧
        ∃ status, status.isOk = false ∧ (tab.step chromium event).Finished status) ∨
      (¬ event.FailsAt targetUrl ∧ (tab.step chromium event).Finished .ok ∧
        ShownBeforeFailure targetUrl page (past ++ [event])) ∨
      ∃ w', Watches targetUrl page (past ++ [event]) (tab.step chromium event) w' := by
  have hpage : (tab.step chromium event).page = pageAfter page (past ++ [event]) := by
    rw [step_page, pageAfter_snoc, h.page_eq]
  have hcalm (hevent : ¬ event.FailsAt targetUrl) :
      ∀ e ∈ past ++ [event], ¬ e.FailsAt targetUrl := by
    intro e he
    rcases List.mem_append.mp he with hpast | hlast
    · exact h.calm e hpast
    · rwa [List.mem_singleton.mp hlast]
  rcases h.pending.step chromium event with ⟨rfl, hstep⟩ |
    ⟨waiterEvent, hevent, ⟨status, hfails, hstatus, hstep⟩ | ⟨hsettles, hstep⟩ |
      ⟨w', hfails, hsettles, hseen, hstep⟩⟩
  · refine .inr (.inr ⟨w, hstep, hpage, ?_, ?_, fun _ => rfl, hcalm id⟩)
    · rw [h.checkPosted]
      simp
    · rw [h.seen, shown_snoc]
      exact (or_iff_left id).symm
  · exact .inl ⟨(h.fails_iff hevent).mp hfails, status, hstatus, hstep⟩
  · have hnot : ¬ event.FailsAt targetUrl := by
      rw [← h.fails_iff hevent]
      exact hsettles.not_fails
    obtain ⟨hshown, hloading⟩ := (h.settles_iff hnot hevent).mp hsettles
    rw [h.seen, h.recognizes_iff hnot hevent, ← shown_snoc] at hshown
    refine .inr (.inl ⟨hnot, hstep, past ++ [event], [], (List.append_nil _).symm, hshown, ?_,
      hcalm hnot⟩)
    rwa [← hpage]
  · have hnot : ¬ event.FailsAt targetUrl := (h.fails_iff hevent).not.mp hfails
    have hshown : w'.seenRequestedNavigation = true ↔ Shown targetUrl page (past ++ [event]) := by
      rw [hseen, h.seen, h.recognizes_iff hnot hevent, shown_snoc]
    refine .inr (.inr ⟨w', hstep, hpage, ?_, hshown, ?_, hcalm hnot⟩)
    · have hw' : w' = (w.deliver chromium waiterEvent).1 := by
        have hwaiter := hstep.waiter
        simp only [WaitingTab.step, hevent, h.pending.waiter, Waiter.deliver] at hwaiter
        exact (Waiter.navigation.inj hwaiter).symm
      rw [hw', NavigationWaiter.deliver_checkPosted]
      cases event with
      | startLoading => cases hevent
      | checkCurrentState =>
          obtain rfl := (Option.some.inj hevent).symm
          simp
      | _ =>
          obtain rfl := (Option.some.inj hevent).symm
          simp [h.checkPosted]
    · intro hw
      by_contra hloading
      apply hsettles
      rw [h.settles_iff hnot hevent]
      exact ⟨hseen.mp hw, by simpa using hloading⟩

private theorem start_watches (page : WebContents) (targetUrl : GURL) :
    Watches targetUrl page [] (start page (.navigation (.start targetUrl))) (.start targetUrl) where
  pending := start_pending page targetUrl
  page_eq := rfl
  checkPosted := by simp [NavigationWaiter.start]
  seen := by simp [NavigationWaiter.start, Shown]
  loading := by simp [NavigationWaiter.start]
  calm := by simp

/-- While nothing fails, the waiter waits or has succeeded. -/
private theorem run_calm (page : WebContents) (targetUrl : GURL) (past : List TabEvent)
    (hcalm : ∀ event ∈ past, ¬ event.FailsAt targetUrl) :
    ((start page (.navigation (.start targetUrl))).run chromium past).Finished .ok ∨
      ∃ w, Watches targetUrl page past
        ((start page (.navigation (.start targetUrl))).run chromium past) w := by
  induction past using List.reverseRecOn with
  | nil => exact .inr ⟨_, start_watches page targetUrl⟩
  | append_singleton past event ih =>
      rw [run_append, run_cons, run_nil]
      rcases ih fun e he => hcalm e (List.mem_append_left _ he) with hfinished | ⟨w, hwatches⟩
      · exact .inl (hfinished.step chromium event)
      · rcases hwatches.step chromium event with ⟨hfails, -⟩ | ⟨-, hfinished, -⟩ | hwatches'
        · exact absurd hfails (hcalm event (by simp))
        · exact .inl hfinished
        · exact .inr hwatches'

/-- Success is reported at a moment of the kind that the waiter waits for. -/
private theorem run_cases (page : WebContents) (targetUrl : GURL) (past : List TabEvent) :
    (((start page (.navigation (.start targetUrl))).run chromium past).Finished .ok ∧
        ShownBeforeFailure targetUrl page past) ∨
      (∃ status, status.isOk = false ∧
        ((start page (.navigation (.start targetUrl))).run chromium past).Finished status) ∨
      ∃ w, Watches targetUrl page past
        ((start page (.navigation (.start targetUrl))).run chromium past) w := by
  induction past using List.reverseRecOn with
  | nil => exact .inr (.inr ⟨_, start_watches page targetUrl⟩)
  | append_singleton past event ih =>
      rw [run_append, run_cons, run_nil]
      rcases ih with ⟨hfinished, hshown⟩ | ⟨status, hstatus, hfinished⟩ | ⟨w, hwatches⟩
      · exact .inl ⟨hfinished.step chromium event, hshown.snoc event⟩
      · exact .inr (.inl ⟨status, hstatus, hfinished.step chromium event⟩)
      · rcases hwatches.step chromium event with ⟨-, hfailed⟩ | ⟨-, hfinished⟩ | hwatches'
        · exact .inr (.inl hfailed)
        · exact .inl hfinished
        · exact .inr (.inr hwatches')

/-- A waiter reports success alone exactly if its navigation was shown, and loading over, before
anything failed. -/
theorem run_statuses_iff (page : WebContents) (targetUrl : GURL) (events : List TabEvent) :
    ((start page (.navigation (.start targetUrl))).run chromium events).statuses = [.ok] ↔
      ShownBeforeFailure targetUrl page events := by
  constructor
  · intro hstatuses
    rcases run_cases chromium page targetUrl events with
      ⟨-, hshown⟩ | ⟨status, hstatus, hfinished⟩ | ⟨w, hwatches⟩
    · exact hshown
    · rw [hfinished.statuses] at hstatuses
      obtain rfl := List.singleton_inj.mp hstatuses
      cases hstatus
    · rw [hwatches.pending.statuses] at hstatuses
      cases hstatuses
  · rintro ⟨past, later, rfl, hshown, hloading, hcalm⟩
    rw [run_append]
    have hpast :
        ((start page (.navigation (.start targetUrl))).run chromium past).Finished .ok := by
      rcases run_calm chromium page targetUrl past hcalm with hfinished | ⟨w, hwatches⟩
      · exact hfinished
      · have hloads := hwatches.loading (hwatches.seen.mpr hshown)
        rw [hwatches.page_eq] at hloads
        simp [hloads] at hloading
    have hrun := run_invariant (I := fun tab => tab.Finished .ok) later
      (fun _ event _ h => h.step chromium event) hpast
    exact hrun.statuses

/-- The navigation commits at `finalUrl`, the tab stops loading, and the posted check comes last. -/
def commitsAt (finalUrl : GURL) : List TabEvent :=
  [.finishNavigation ⟨⟨finalUrl, true, true, false, 0⟩, true⟩, .stopLoading, .checkCurrentState]

theorem commitsAt_schedule (page : WebContents) (finalUrl : GURL) :
    CommitsAndStops page finalUrl (commitsAt finalUrl) where
  inTime := by simp [commitsAt]
  tab := by simp [commitsAt]
  commits := ⟨_, List.mem_cons_self .., rfl, rfl, rfl⟩
  stops := rfl

theorem commitsAt_calm (targetUrl finalUrl : GURL) :
    ∀ event ∈ commitsAt finalUrl, ¬ event.FailsAt targetUrl := by
  simp [commitsAt, TabEvent.FailsAt]

/-- On that schedule a waiter that does not recognize the final URL never reports. -/
theorem commitsAt_unrecognized (chromium : Chromium) (page : WebContents)
    {targetUrl finalUrl : GURL} (hurl : isRequestedNavigation targetUrl finalUrl = false) :
    ((start page (.navigation (.start targetUrl))).run chromium (commitsAt finalUrl)).statuses =
      [] := by
  simp [commitsAt, start, step, TabEvent.waiterEvent, TabEvent.applyTo, NavigationHandle.commits,
    Waiter.deliver, NavigationWaiter.deliver, NavigationWaiter.start,
    NavigationWaiter.didFinishNavigation, NavigationWaiter.didStopLoading,
    NavigationWaiter.checkCurrentState, hurl]

end WaitingTab

/-- What the waiter of a navigation reports in the schedule. -/
def navigationStatuses (chromium : Chromium) (page : WebContents) (targetUrl : GURL)
    (events : List TabEvent) : List BrowserStatus :=
  ((WaitingTab.start page (.navigation (.start targetUrl))).run chromium events).statuses

/-- The waiter of a navigation completes with success whenever the navigation commits at
`finalUrl` and the tab then stops loading. -/
def NavigationCompletes (chromium : Chromium) (page : WebContents) (targetUrl finalUrl : GURL) :
    Prop :=
  ∀ events, CommitsAndStops page finalUrl events →
    navigationStatuses chromium page targetUrl events = [.ok]

/-- `Navigate` and `CreateTab` wait with the same waiter. In every schedule it completes with
success exactly if, at some moment, a page that it recognizes has been shown, the tab is not
loading, and nothing that it recognizes has failed. So the schedules in which a navigation commits
at `finalUrl` and the tab stops loading, and nothing recognized fails, all end with success exactly
if it recognizes `finalUrl`. -/
theorem navigation_completes_iff {ρ : Type} [BrowserRuntime ρ] (chromium : Chromium) (rt : ρ)
    (targetUrl : GURL) :
    (∀ targetId page waiter kept,
        BrowserController.navigate targetId targetUrl rt = .waiting page waiter kept →
          waiter = .navigation (.start targetUrl)) ∧
      (∀ builder page waiter kept,
        (BrowserController.createTab builder targetUrl rt).2 = .waiting page waiter kept →
          waiter = .navigation (.start targetUrl)) ∧
      (∀ page events, navigationStatuses chromium page targetUrl events = [.ok] ↔
        ShownBeforeFailure targetUrl page events) ∧
      ∀ page finalUrl,
        (∀ events, CommitsAndStops page finalUrl events →
          (∀ event ∈ events, ¬ event.FailsAt targetUrl) →
            navigationStatuses chromium page targetUrl events = [.ok]) ↔
          isRequestedNavigation targetUrl finalUrl = true := by
  refine ⟨?_, ?_, ?_, ?_⟩
  · intro targetId page waiter kept hnavigate
    exact BrowserController.navigate_waiter hnavigate
  · intro builder page waiter kept hcreate
    exact BrowserController.createTab_waiter hcreate
  · intro page events
    exact WaitingTab.run_statuses_iff chromium page targetUrl events
  · intro page finalUrl
    constructor
    · intro hcompletes
      by_contra hurl
      have hunrecognized : isRequestedNavigation targetUrl finalUrl = false := by simpa using hurl
      have hstatuses := hcompletes _ (WaitingTab.commitsAt_schedule page finalUrl)
        (WaitingTab.commitsAt_calm targetUrl finalUrl)
      rw [navigationStatuses, WaitingTab.commitsAt_unrecognized chromium page hunrecognized]
        at hstatuses
      cases hstatuses
    · intro hurl events hevents hcalm
      obtain ⟨navigation, hmem, -, hcommits, rfl⟩ := hevents.commits
      obtain ⟨before, after, rfl⟩ := List.append_of_mem hmem
      refine (WaitingTab.run_statuses_iff chromium page targetUrl _).mpr ?_
      exact ⟨_, [], (List.append_nil _).symm, ⟨before, _, after, rfl, hcommits, hurl⟩,
        hevents.stops, hcalm⟩

/-- A tab at a page of `shop.test`. -/
def shopPage : WebContents where
  address := 1
  title := "Shop"
  lastCommittedURL := ⟨"https://shop.test/", true, "https", "shop.test"⟩
  isLoading := false
  canGoBack := false
  canGoForward := false

def shopChromium : Chromium where
  parseURL spec := ⟨spec, true, "https", "shop.test"⟩
  errorToString _ := "net::ERR_FAILED"
  writeJSON _ := "null"
  base64Decode _ := none

/-- A navigation to `about:blank` is never reported as done. -/
theorem navigation_incomplete :
    ¬ ∀ (chromium : Chromium) (page : WebContents) (targetUrl finalUrl : GURL),
        targetUrl.isValid = true → NavigationCompletes chromium page targetUrl finalUrl := by
  intro h
  have hblank := h shopChromium shopPage .aboutBlank .aboutBlank rfl _
    (WaitingTab.commitsAt_schedule shopPage _)
  rw [navigationStatuses, WaitingTab.commitsAt_unrecognized shopChromium shopPage (by decide)]
    at hblank
  cases hblank

def shopRuntime : HeadlessRuntime where
  contents := [⟨100, shopPage⟩]
  activeWebContents := some 1
  isShutdown := false

def shopURL : GURL := ⟨"https://shop.test/old", true, "https", "shop.test"⟩

def movedURL : GURL := ⟨"http://shop.test/new", true, "http", "shop.test"⟩

def bankURL : GURL := ⟨"https://bank.test/", true, "https", "bank.test"⟩

/-- Before the navigation that was started commits, another one ends with an error page. -/
def errorPageFirst (errorUrl finalUrl : GURL) : List TabEvent :=
  .finishNavigation ⟨⟨errorUrl, true, true, true, -105⟩, false⟩ :: WaitingTab.commitsAt finalUrl

theorem navigation_completes_sample :
    BrowserController.navigate none shopURL shopRuntime =
        .waiting shopPage (.navigation (.start shopURL)) () ∧
      navigationStatuses shopChromium shopPage shopURL (WaitingTab.commitsAt movedURL) = [.ok] ∧
      navigationStatuses shopChromium shopPage shopURL (errorPageFirst bankURL movedURL) = [.ok] ∧
      navigationStatuses shopChromium shopPage shopURL (errorPageFirst shopURL movedURL) ≠
        [.ok] := by
  obtain ⟨-, -, hstatuses, hcompletes⟩ :=
    navigation_completes_iff shopChromium shopRuntime shopURL
  refine ⟨rfl, ?_, ?_, ?_⟩
  · exact (hcompletes shopPage movedURL).mpr (by decide) _
      (WaitingTab.commitsAt_schedule shopPage movedURL) (WaitingTab.commitsAt_calm _ _)
  · refine (hcompletes shopPage movedURL).mpr (by decide) _ ?_ ?_
    · exact ⟨by simp [errorPageFirst, WaitingTab.commitsAt],
        by simp [errorPageFirst, WaitingTab.commitsAt],
        ⟨_, List.mem_cons_of_mem _ (List.mem_cons_self ..), rfl, rfl, rfl⟩, rfl⟩
    · intro event hevent
      rcases List.mem_cons.mp hevent with rfl | hevent
      · rintro ⟨-, -, hurl⟩
        exact absurd hurl (by decide)
      · exact WaitingTab.commitsAt_calm _ _ event hevent
  · rw [ne_eq, hstatuses shopPage]
    rintro ⟨past, later, heq, ⟨before, event, after, rfl, hshows⟩, -, hcalm⟩
    rw [List.append_assoc] at heq
    -- The error page comes first, so any moment after an event is after the failure.
    have hfirst : .finishNavigation ⟨⟨shopURL, true, true, true, -105⟩, false⟩ ∈
        before ++ event :: after := by
      cases before with
      | nil => exact (List.cons.inj heq).1 ▸ List.mem_cons_self ..
      | cons first before => exact (List.cons.inj heq).1 ▸ List.mem_cons_self ..
    exact hcalm _ hfirst ⟨rfl, rfl, by decide⟩

end Browserd
