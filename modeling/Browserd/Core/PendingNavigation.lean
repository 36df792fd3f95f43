import Browserd.Core.NavigationRuns

/-!
# A tab under a navigation waiter

The wait for a navigation goes on until one event finishes it.
-/

namespace Browserd

namespace WaitingTab

/-- The waiter of a navigation to `targetUrl` is still waiting. -/
structure Pending (tab : WaitingTab) (targetUrl : GURL) (w : NavigationWaiter) : Prop where
  waiter : tab.waiter = .navigation w
  live : w.Live
  targetUrl : w.targetUrl = targetUrl
  statuses : tab.statuses = []

/-- The waiter has reported `status` and nothing else. -/
structure Finished (tab : WaitingTab) (status : BrowserStatus) : Prop where
  waiter : ∃ w, tab.waiter = .navigation w ∧ w.Done
  statuses : tab.statuses = [status]

variable (chromium : Chromium) {tab : WaitingTab} {targetUrl : GURL} {w : NavigationWaiter}

theorem Finished.step {status : BrowserStatus} (h : tab.Finished status) (event : TabEvent) :
    (tab.step chromium event).Finished status := by
  obtain ⟨⟨w, hwaiter, hdone⟩, hstatuses⟩ := h
  simp only [WaitingTab.step, hwaiter]
  cases event.waiterEvent (event.applyTo tab.page) with
  | none => exact ⟨⟨w, rfl, hdone⟩, by simpa using hstatuses⟩
  | some waiterEvent =>
      obtain ⟨w', hdone', hdeliver⟩ := NavigationWaiter.deliver_done chromium hdone waiterEvent
      simp only [Waiter.deliver, hdeliver]
      exact ⟨⟨w', rfl, hdone'⟩, by simpa using hstatuses⟩

/-- An event at a pending navigation, as the outcome at its waiter. -/
theorem Pending.step (h : tab.Pending targetUrl w) (event : TabEvent) :
    (event = .startLoading ∧ (tab.step chromium event).Pending targetUrl w) ∨
      ∃ waiterEvent, event.waiterEvent (event.applyTo tab.page) = some waiterEvent ∧
        ((∃ status, w.Fails waiterEvent ∧ status.isOk = false ∧
            (tab.step chromium event).Finished status) ∨
          (w.Settles waiterEvent ∧ (tab.step chromium event).Finished .ok) ∨
          ∃ w', ¬ w.Fails waiterEvent ∧ ¬ w.Settles waiterEvent ∧
            (w'.seenRequestedNavigation ↔
              w.seenRequestedNavigation ∨ w.Recognizes waiterEvent) ∧
            (tab.step chromium event).Pending targetUrl w') := by
  obtain ⟨hwaiter, hlive, htarget, hstatuses⟩ := h
  cases hevent : event.waiterEvent (event.applyTo tab.page) with
  | none =>
      refine .inl ⟨?_, ?_⟩
      · cases event <;> simp [TabEvent.waiterEvent] at hevent ⊢
      · simp only [WaitingTab.step, hevent]
        exact ⟨hwaiter, hlive, htarget, by simpa using hstatuses⟩
  | some waiterEvent =>
      refine .inr ⟨waiterEvent, rfl, ?_⟩
      simp only [WaitingTab.step, hevent, hwaiter, Waiter.deliver]
      have houtcome := NavigationWaiter.deliver_live chromium hlive waiterEvent
      generalize w.deliver chromium waiterEvent = result at houtcome
      cases houtcome with
      | failed w' status fails done isOk =>
          exact .inl ⟨status, fails, isOk, ⟨w', rfl, done⟩, by simp [hstatuses]⟩
      | settled w' settles done =>
          exact .inr (.inl ⟨settles, ⟨w', rfl, done⟩, by simp [hstatuses]⟩)
      | waits w' fails settles live targetUrl seen =>
          exact .inr (.inr ⟨w', fails, settles, seen,
            ⟨rfl, live, targetUrl.trans htarget, by simpa using hstatuses⟩⟩)

theorem start_pending (page : WebContents) (targetUrl : GURL) :
    (start page (.navigation (.start targetUrl))).Pending targetUrl (.start targetUrl) :=
  ⟨rfl, NavigationWaiter.start_live targetUrl, rfl, rfl⟩

end WaitingTab

end Browserd
