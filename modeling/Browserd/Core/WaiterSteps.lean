import Browserd.Core.Waiters

/-!
# What an event does to a waiter

A waiter is live until an event completes it; from then on nothing reaches its callback.
-/

namespace Browserd

namespace NavigationWaiter

/-- Still waiting: the callback has not run, and the tab and the timer can still reach it. -/
structure Live (w : NavigationWaiter) : Prop where
  callback : w.callback = true
  observing : w.observing = true
  timeoutTimer : w.timeoutTimer = true

/-- The callback has run. -/
structure Done (w : NavigationWaiter) : Prop where
  callback : w.callback = false
  observing : w.observing = false
  timeoutTimer : w.timeoutTimer = false

variable {w : NavigationWaiter}

theorem start_live (targetUrl : GURL) : (start targetUrl).Live := ⟨rfl, rfl, rfl⟩

/-- The waiter after its callback has run. -/
def completed (status : BrowserStatus) (w : NavigationWaiter) : NavigationWaiter :=
  { w with
    timeoutTimer := false
    observing := false
    callback := false
    completion := w.completion ++ [.ranCallback status, .postedDeletion] }

theorem completed_done (status : BrowserStatus) (w : NavigationWaiter) :
    (w.completed status).Done :=
  ⟨rfl, rfl, rfl⟩

theorem complete_eq (h : w.callback = true) (status : BrowserStatus) :
    w.complete status = (w.completed status, some status) := by
  simp [complete, completed, h]

/-- At most the posted check is used up after the callback has run. -/
theorem deliver_done_eq (chromium : Chromium) (h : w.Done) (event : WaiterEvent) :
    ∃ posted, w.deliver chromium event = ({ w with checkPosted := posted }, none) := by
  obtain ⟨hcallback, hobserving, htimer⟩ := h
  cases event with
  | checkCurrentState page =>
      by_cases hposted : w.checkPosted = true
      · exists false
        simp [deliver, hposted, checkCurrentState, hobserving]
      · exists w.checkPosted
        rw [deliver, if_neg hposted]
  | timeout =>
      exists w.checkPosted
      rw [deliver, if_neg (by simp [htimer])]
  | _ =>
      exists w.checkPosted
      rw [deliver, if_neg (by simp [hobserving])]

/-- Nothing completes a waiter twice. -/
theorem deliver_done (chromium : Chromium) (h : w.Done) (event : WaiterEvent) :
    ∃ w', w'.Done ∧ w.deliver chromium event = (w', none) := by
  obtain ⟨posted, heq⟩ := deliver_done_eq chromium h event
  exact ⟨{ w with checkPosted := posted }, ⟨h.callback, h.observing, h.timeoutTimer⟩, heq⟩

/-- The event shows the waiter a page that it takes for the requested one. -/
def Recognizes (w : NavigationWaiter) : WaiterEvent → Prop
  | .didFinishNavigation handle _ =>
      handle.isInPrimaryMainFrame ∧ handle.hasCommitted ∧
        isRequestedNavigation w.targetUrl handle.url
  | .didStopLoading page => isRequestedNavigation w.targetUrl page.lastCommittedURL
  | .checkCurrentState page =>
      w.checkPosted ∧ isRequestedNavigation w.targetUrl page.lastCommittedURL
  | _ => False

/-- The event makes a live waiter report an error. -/
def Fails (w : NavigationWaiter) : WaiterEvent → Prop
  | .didFinishNavigation handle page =>
      w.Recognizes (.didFinishNavigation handle page) ∧ handle.isErrorPage
  | .didFailLoad isPrimaryMainFrame validatedUrl _ =>
      isPrimaryMainFrame ∧ isRequestedNavigation w.targetUrl validatedUrl
  | .webContentsDestroyed => True
  | .timeout => True
  | _ => False

/-- The event makes a live waiter report success. -/
def Settles (w : NavigationWaiter) : WaiterEvent → Prop
  | .didFinishNavigation handle page =>
      w.Recognizes (.didFinishNavigation handle page) ∧ handle.isErrorPage = false ∧
        page.isLoading = false
  | .didStopLoading page => w.seenRequestedNavigation ∨ w.Recognizes (.didStopLoading page)
  | .checkCurrentState page => w.Recognizes (.checkCurrentState page) ∧ page.isLoading = false
  | _ => False

theorem Settles.seen {w : NavigationWaiter} {event : WaiterEvent} (h : w.Settles event) :
    w.seenRequestedNavigation = true ∨ w.Recognizes event := by
  cases event with
  | didFinishNavigation handle page => exact .inr h.1
  | didStopLoading page => exact h
  | checkCurrentState page => exact .inr h.1
  | _ => exact h.elim

theorem Settles.not_fails {w : NavigationWaiter} {event : WaiterEvent} (h : w.Settles event) :
    ¬ w.Fails event := by
  cases event with
  | didFinishNavigation handle page =>
      rintro ⟨-, herror⟩
      simp [h.2.1] at herror
  | _ => first | exact id | exact h.elim

/-- The outcomes of an event at a live waiter. -/
inductive LiveOutcome (w : NavigationWaiter) (event : WaiterEvent) :
    NavigationWaiter × Option BrowserStatus → Prop
  | failed (w' : NavigationWaiter) (status : BrowserStatus) (fails : w.Fails event)
      (done : w'.Done) (isOk : status.isOk = false) : LiveOutcome w event (w', some status)
  | settled (w' : NavigationWaiter) (settles : w.Settles event) (done : w'.Done) :
      LiveOutcome w event (w', some .ok)
  | waits (w' : NavigationWaiter) (fails : ¬ w.Fails event) (settles : ¬ w.Settles event)
      (live : w'.Live) (targetUrl : w'.targetUrl = w.targetUrl)
      (seen : w'.seenRequestedNavigation ↔ w.seenRequestedNavigation ∨ w.Recognizes event) :
      LiveOutcome w event (w', none)

section Outcomes

variable {event : WaiterEvent} {v : NavigationWaiter}

private theorem LiveOutcome.ofFails {status : BrowserStatus} (hv : v.callback = true)
    (hfails : w.Fails event) (hstatus : status.isOk = false) :
    LiveOutcome w event (v.complete status) := by
  rw [complete_eq hv]
  exact .failed _ _ hfails (completed_done _ v) hstatus

private theorem LiveOutcome.ofSettles (hv : v.callback = true) (hsettles : w.Settles event) :
    LiveOutcome w event (v.complete .ok) := by
  rw [complete_eq hv]
  exact .settled _ hsettles (completed_done _ v)

/-- An event that shows nothing of interest. -/
private theorem LiveOutcome.ofIgnored (h : w.Live) (hfails : ¬ w.Fails event)
    (hsettles : ¬ w.Settles event) (hrecognized : ¬ w.Recognizes event) :
    LiveOutcome w event (w, none) :=
  .waits w hfails hsettles h rfl (by simp [hrecognized])

end Outcomes

theorem deliver_live (chromium : Chromium) (h : w.Live) (event : WaiterEvent) :
    LiveOutcome w event (w.deliver chromium event) := by
  have hcallback := h.callback
  have hobserving := h.observing
  cases event with
  | didFinishNavigation handle page =>
      simp only [deliver, if_pos hobserving, didFinishNavigation]
      have hignored (hrecognized : ¬ w.Recognizes (.didFinishNavigation handle page)) :
          LiveOutcome w (.didFinishNavigation handle page) (w, none) :=
        .ofIgnored h (fun hfails => hrecognized hfails.1) (fun hsettles => hrecognized hsettles.1)
          hrecognized
      split
      · rename_i hhandle
        refine hignored fun hrecognized => ?_
        simp [hrecognized.1, hrecognized.2.1] at hhandle
      split
      · rename_i hurl
        refine hignored fun hrecognized => ?_
        simp [hrecognized.2.2] at hurl
      rename_i hhandle hurl
      have hrecognized : w.Recognizes (.didFinishNavigation handle page) := by
        simpa [Recognizes, and_assoc] using And.intro hhandle hurl
      split
      · rename_i herror
        exact .ofFails hcallback ⟨hrecognized, herror⟩ rfl
      split
      · rename_i herror hloading
        exact .ofSettles hcallback ⟨hrecognized, by simpa using herror,
          by simpa [hobserving] using hloading⟩
      · rename_i herror hloading
        refine .waits _ (fun hfails => herror hfails.2) (fun hsettles => ?_)
          ⟨hcallback, hobserving, h.timeoutTimer⟩ rfl (by simp [hrecognized])
        simp [hsettles.2.2] at hloading
  | didStopLoading page =>
      simp only [deliver, if_pos hobserving, didStopLoading]
      split
      · rename_i hseen
        split
        · rename_i hurl
          have hrecognized : ¬ w.Recognizes (.didStopLoading page) := by
            simpa [Recognizes, hobserving] using hurl
          exact .ofIgnored h (by simp [Fails]) (by simp_all [Settles]) hrecognized
        · rename_i hurl
          exact .ofSettles hcallback (.inr (by simpa [Recognizes, hobserving] using hurl))
      · rename_i hseen
        exact .ofSettles hcallback (.inl (by simpa using hseen))
  | didFailLoad isPrimaryMainFrame validatedUrl errorCode =>
      simp only [deliver, if_pos hobserving, didFailLoad]
      split
      · rename_i hframe
        exact .ofIgnored h (by simp_all [Fails]) (by simp [Settles]) (by simp [Recognizes])
      split
      · rename_i hurl
        exact .ofIgnored h (by simp_all [Fails]) (by simp [Settles]) (by simp [Recognizes])
      · rename_i hframe hurl
        exact .ofFails hcallback (by simp_all [Fails]) rfl
  | webContentsDestroyed =>
      simp only [deliver, if_pos hobserving, webContentsDestroyed]
      exact .ofFails hcallback trivial rfl
  | checkCurrentState page =>
      simp only [deliver]
      split
      · rename_i hposted
        have hlive : NavigationWaiter.Live { w with checkPosted := false } :=
          ⟨hcallback, hobserving, h.timeoutTimer⟩
        simp only [checkCurrentState]
        split
        · rename_i hurl
          have hrecognized : ¬ w.Recognizes (.checkCurrentState page) := by
            simpa [Recognizes, hobserving, hposted] using hurl
          exact .waits _ (by simp [Fails]) (fun hsettles => hrecognized hsettles.1) hlive rfl
            (by simp [hrecognized])
        · rename_i hurl
          have hrecognized : w.Recognizes (.checkCurrentState page) := by
            simpa [Recognizes, hobserving, hposted] using hurl
          split
          · rename_i hloading
            exact .ofSettles hcallback ⟨hrecognized, by simpa using hloading⟩
          · rename_i hloading
            refine .waits _ (by simp [Fails]) (fun hsettles => ?_)
              ⟨hcallback, hobserving, h.timeoutTimer⟩ rfl (by simp [hrecognized])
            simp [hsettles.2] at hloading
      · rename_i hposted
        have hrecognized : ¬ w.Recognizes (.checkCurrentState page) := by
          simp [Recognizes, hposted]
        exact .ofIgnored h (by simp [Fails]) (fun hsettles => hrecognized hsettles.1) hrecognized
  | timeout =>
      simp only [deliver, if_pos h.timeoutTimer, onTimeout]
      exact .ofFails hcallback trivial rfl

section Completion

variable {v : NavigationWaiter}

end Completion

end NavigationWaiter

namespace ReloadWaiter

/-- A reload waiter that observes no tab reports nothing. -/
theorem deliver_deaf {w : ReloadWaiter} (h : w.observing = false) (event : WaiterEvent) :
    ∃ w', w'.observing = false ∧ w.deliver event = (w', none) := by
  cases event with
  | didStopLoading page => exact ⟨w, h, by simp [deliver, h]⟩
  | webContentsDestroyed => exact ⟨_, rfl, rfl⟩
  | _ => exact ⟨w, h, rfl⟩

end ReloadWaiter

end Browserd
