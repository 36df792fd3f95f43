import Browserd.Core.BrowserController
import Browserd.Core.PendingNavigation

/-!
# Operations whose tab is destroyed

The waiter of a navigation completes when its tab is destroyed. The waiter of a reload is not
told, and what it has not reported by then it never reports.
-/

namespace Browserd

/-- An operation that leaves `waiter` on the tab `page`. -/
inductive WaitingOperation {ρ : Type} [BrowserRuntime ρ] (rt : ρ) (page : WebContents) :
    Waiter → Prop
  | navigate (targetId : Option String) (targetUrl : GURL) (waiter : Waiter)
      (starts : BrowserController.navigate targetId targetUrl rt = .waiting page waiter ()) :
      WaitingOperation rt page waiter
  | createTab (builder : BrowserRuntime.Builder ρ) (targetUrl : GURL) (waiter : Waiter)
      (targetId : String)
      (starts : (BrowserController.createTab builder targetUrl rt).2 =
        .waiting page waiter targetId) :
      WaitingOperation rt page waiter
  | reload (targetId : Option String) (waiter : Waiter)
      (starts : BrowserController.reload targetId rt = .waiting page waiter ()) :
      WaitingOperation rt page waiter

theorem WaitingOperation.waiter_cases {ρ : Type} [BrowserRuntime ρ] {rt : ρ} {page : WebContents}
    {waiter : Waiter} (h : WaitingOperation rt page waiter) :
    (∃ targetUrl, waiter = .navigation (.start targetUrl)) ∨ waiter = .reload .start := by
  cases h with
  | navigate targetId targetUrl _ starts =>
      exact .inl ⟨targetUrl, BrowserController.navigate_waiter starts⟩
  | createTab builder targetUrl _ targetId starts =>
      exact .inl ⟨targetUrl, BrowserController.createTab_waiter starts⟩
  | reload targetId _ starts => exact .inr (BrowserController.reload_waiter starts)

/-- After the run, in which the tab is destroyed, the callback has been run exactly once. -/
def CompletedOnce (chromium : Chromium) (page : WebContents) (waiter : Waiter)
    (before after : List TabEvent) : Prop :=
  ((WaitingTab.start page waiter).run chromium (before ++ .destroyed :: after)).statuses.length = 1

namespace WaitingTab

variable (chromium : Chromium) {tab : WaitingTab}

private theorem navigation_completedOnce (page : WebContents) (targetUrl : GURL)
    (before after : List TabEvent) :
    CompletedOnce chromium page (.navigation (.start targetUrl)) before after := by
  have hbefore : (∃ w, ((start page (.navigation (.start targetUrl))).run chromium before).Pending
      targetUrl w) ∨
      ∃ status, ((start page (.navigation (.start targetUrl))).run chromium before).Finished
        status := by
    apply run_invariant (I := fun tab =>
      (∃ w, tab.Pending targetUrl w) ∨ ∃ status, tab.Finished status) before
    · intro tab event _ htab
      rcases htab with ⟨w, hpending⟩ | ⟨status, hfinished⟩
      · rcases hpending.step chromium event with ⟨-, hstep⟩ |
          ⟨-, -, ⟨status, -, -, hstep⟩ | ⟨-, hstep⟩ | ⟨w', -, -, -, hstep⟩⟩
        · exact .inl ⟨w, hstep⟩
        · exact .inr ⟨status, hstep⟩
        · exact .inr ⟨.ok, hstep⟩
        · exact .inl ⟨w', hstep⟩
      · exact .inr ⟨status, hfinished.step chromium event⟩
    · exact .inl ⟨_, start_pending page targetUrl⟩
  rw [CompletedOnce, run_append, run_cons]
  generalize (start page (.navigation (.start targetUrl))).run chromium before = tab at hbefore ⊢
  -- The destruction is a failure for a waiter that still waits.
  have hdestroyed : ∃ status, (tab.step chromium .destroyed).Finished status := by
    rcases hbefore with ⟨w, hpending⟩ | ⟨status, hfinished⟩
    · rcases hpending.step chromium .destroyed with ⟨heq, -⟩ |
        ⟨waiterEvent, hevent, ⟨status, -, -, hstep⟩ | ⟨-, hstep⟩ | ⟨w', hfails, -, -, -⟩⟩
      · cases heq
      · exact ⟨status, hstep⟩
      · exact ⟨.ok, hstep⟩
      · obtain rfl := (Option.some.inj hevent).symm
        exact absurd trivial hfails
    · exact ⟨status, hfinished.step chromium .destroyed⟩
  obtain ⟨status, hfinished⟩ := hdestroyed
  have hafter := run_invariant (I := fun tab => tab.Finished status) after
    (fun tab event _ htab => htab.step chromium event) hfinished
  simp [hafter.statuses]

/-- The tab is reloading and nothing has been reported. -/
private structure Reloading (tab : WaitingTab) : Prop where
  waiter : tab.waiter = .reload .start
  statuses : tab.statuses = []

/-- The reload waiter observes no tab, and has reported `statuses`. -/
private structure Deaf (tab : WaitingTab) (statuses : List BrowserStatus) : Prop where
  waiter : ∃ w, tab.waiter = .reload w ∧ w.observing = false
  statuses : tab.statuses = statuses

private theorem Deaf.step {statuses : List BrowserStatus} (h : tab.Deaf statuses)
    (event : TabEvent) : (tab.step chromium event).Deaf statuses := by
  obtain ⟨⟨w, hwaiter, hobserving⟩, hstatuses⟩ := h
  simp only [WaitingTab.step, hwaiter]
  cases event.waiterEvent (event.applyTo tab.page) with
  | none => exact ⟨⟨w, rfl, hobserving⟩, by simpa using hstatuses⟩
  | some waiterEvent =>
      obtain ⟨w', hobserving', hdeliver⟩ := ReloadWaiter.deliver_deaf hobserving waiterEvent
      simp only [Waiter.deliver, hdeliver]
      exact ⟨⟨w', rfl, hobserving'⟩, by simpa using hstatuses⟩

private theorem Reloading.step (h : tab.Reloading) {event : TabEvent}
    (hstop : event ≠ .stopLoading) (hdestroyed : event ≠ .destroyed) :
    (tab.step chromium event).Reloading := by
  obtain ⟨hwaiter, hstatuses⟩ := h
  cases event with
  | stopLoading => exact absurd rfl hstop
  | destroyed => exact absurd rfl hdestroyed
  | _ =>
      simp only [WaitingTab.step, TabEvent.waiterEvent, hwaiter, Waiter.deliver,
        ReloadWaiter.deliver]
      exact ⟨rfl, by simpa using hstatuses⟩

private theorem Reloading.stops (h : tab.Reloading) :
    (tab.step chromium .stopLoading).Deaf [.ok] := by
  obtain ⟨hwaiter, hstatuses⟩ := h
  simp only [WaitingTab.step, TabEvent.waiterEvent, hwaiter]
  exact ⟨⟨_, rfl, rfl⟩, by simp [hstatuses]; rfl⟩

private theorem Reloading.destroyed (h : tab.Reloading) :
    (tab.step chromium .destroyed).Deaf [] := by
  obtain ⟨hwaiter, hstatuses⟩ := h
  simp only [WaitingTab.step, TabEvent.waiterEvent, hwaiter, Waiter.deliver, ReloadWaiter.deliver]
  exact ⟨⟨_, rfl, rfl⟩, by simpa using hstatuses⟩

private theorem Deaf.run {statuses : List BrowserStatus} (h : tab.Deaf statuses)
    (events : List TabEvent) : (tab.run chromium events).Deaf statuses :=
  run_invariant (I := fun tab => tab.Deaf statuses) events
    (fun _ event _ htab => htab.step chromium event) h

private theorem Reloading.run (h : tab.Reloading) {events : List TabEvent}
    (hstop : .stopLoading ∉ events) (hdestroyed : .destroyed ∉ events) :
    (tab.run chromium events).Reloading := by
  apply run_invariant (I := Reloading) events _ h
  intro tab event hevent htab
  apply htab.step chromium
  · intro heq
    exact hstop (heq ▸ hevent)
  · intro heq
    exact hdestroyed (heq ▸ hevent)

private theorem reload_completedOnce_iff (page : WebContents) {before : List TabEvent}
    (after : List TabEvent) (hbefore : .destroyed ∉ before) :
    CompletedOnce chromium page (.reload .start) before after ↔ .stopLoading ∈ before := by
  have hstart : (start page (.reload .start)).Reloading := ⟨rfl, rfl⟩
  unfold CompletedOnce
  constructor
  · intro hcompleted
    by_contra hstop
    have hdeaf := ((hstart.run chromium hstop hbefore).destroyed chromium).run chromium after
    simp [run_append, run_cons, hdeaf.statuses] at hcompleted
  · intro hstop
    obtain ⟨calm, rest, rfl, hcalm⟩ := List.eq_append_cons_of_mem hstop
    have hreloading := hstart.run chromium hcalm (by simp_all)
    have hdeaf := (hreloading.stops chromium).run chromium (rest ++ .destroyed :: after)
    simp only [List.append_assoc, List.cons_append, run_append, run_cons] at hdeaf ⊢
    simp [hdeaf.statuses]

end WaitingTab

/-- Over every sequence of events of its tab, an operation has reported exactly once after the
tab is destroyed, unless it is a reload whose tab had not stopped loading. -/
theorem WaitingOperation.completedOnce_iff {ρ : Type} [BrowserRuntime ρ] (chromium : Chromium)
    {rt : ρ} {page : WebContents} {waiter : Waiter} (h : WaitingOperation rt page waiter)
    {before : List TabEvent} (after : List TabEvent) (hbefore : .destroyed ∉ before) :
    CompletedOnce chromium page waiter before after ↔
      (waiter = .reload .start → .stopLoading ∈ before) := by
  rcases h.waiter_cases with ⟨targetUrl, rfl⟩ | rfl
  · simp [WaitingTab.navigation_completedOnce]
  · simp [WaitingTab.reload_completedOnce_iff chromium page after hbefore]

end Browserd
