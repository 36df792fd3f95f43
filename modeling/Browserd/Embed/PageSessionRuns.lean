import Browserd.Embed.PageSession
import Browserd.MCP.PageServer

/-!
# Runs of a session with all its operations

An accepted call is in one place at a time. Its callback is let go of only when its task finds the
session shutting down, and runs once where its operation ends, for which the operation needs no
more than a known number of answers.
-/

namespace Browserd

open Transition (Exec Step)

namespace ControllerOperation

/-- The answers that the operation still takes, at the most. -/
def answersLeft : ControllerOperation → Nat
  | .waiter _ _ => 1
  | .page operation => operation.answersLeft

/-- The answer is one that the operation waits for: its timer expires, or its tab has reloaded. -/
def awaits : ControllerOperation → ControllerAnswer → Bool
  | .waiter (.navigation _) _, .waiterEvent .timeout => true
  | .waiter (.reload w) _, .waiterEvent (.didStopLoading _) => w.observing
  | .page operation, .page answer => operation.awaits answer
  | _, _ => false

/-- A reload has no timer, and waits for nothing when its tab is gone. -/
def orphaned : ControllerOperation → Bool
  | .waiter (.reload w) _ => !w.observing
  | _ => false

variable {ρ : Type} [BrowserRuntime ρ] {κ : Type} {chromium : PageChromium κ}
  {c c' : ControllerState ρ κ} {operation operation' : ControllerOperation}
  {answer : ControllerAnswer} {controller : Bool}

theorem Pending.answersLeft_pos (h : operation.Pending) : 0 < operation.answersLeft := by
  cases operation with
  | waiter w createdTab => exact Nat.one_pos
  | page operation => exact PageOperation.Pending.answersLeft_pos h

/-- A waiter that has not been answered is answered by what it waits for. -/
theorem not_awaits_of_waits {w w' : Waiter} {createdTab : Option String} {event : WaiterEvent}
    (h : w.Unanswered) (hdeliver : w.deliver chromium.toChromium event = (w', none)) :
    awaits (.waiter w createdTab) (.waiterEvent event) = false := by
  cases w with
  | navigation w =>
      cases event with
      | timeout =>
          have hlive : w.Live := h
          simp [Waiter.deliver, NavigationWaiter.deliver, NavigationWaiter.onTimeout,
            NavigationWaiter.complete, hlive.timeoutTimer, hlive.callback] at hdeliver
      | _ => rfl
  | reload w =>
      cases event with
      | didStopLoading page =>
          have hcallback : w.callback = true := h
          by_contra hawaits
          have hobserving : w.observing = true := by simpa [awaits] using hawaits
          simp [Waiter.deliver, ReloadWaiter.deliver, ReloadWaiter.didStopLoading, hobserving,
            hcallback] at hdeliver
      | _ => rfl

/-- An operation that goes on waits for fewer answers if this was one of them. -/
theorem Pending.deliver_waits (h : operation.Pending)
    (hdeliver : operation.deliver chromium controller c answer = some (c', .waits operation')) :
    operation'.answersLeft + (if operation.awaits answer then 1 else 0) ≤
      operation.answersLeft := by
  cases operation with
  | waiter w createdTab =>
      cases answer with
      | waiterEvent event =>
          simp only [ControllerOperation.deliver] at hdeliver
          split at hdeliver
          · rename_i w' hwaits
            obtain ⟨-, hoperation⟩ := Prod.mk.inj (Option.some.inj hdeliver)
            obtain rfl := ControllerProgress.waits.inj hoperation
            rw [not_awaits_of_waits h hwaits]
            exact Nat.le_refl _
          · cases hdeliver
      | page answer => cases hdeliver
  | page operation =>
      cases answer with
      | waiterEvent event => cases hdeliver
      | page answer =>
          obtain ⟨⟨state, progress⟩, hpage, heq⟩ := Option.map_eq_some_iff.mp hdeliver
          obtain ⟨-, hprogress⟩ := Prod.mk.inj heq
          cases progress with
          | completed result => cases hprogress
          | waits next =>
              obtain rfl := ControllerProgress.waits.inj hprogress
              exact (PageOperation.deliver_waits h hpage).2

theorem deliver_isSome (chromium : PageChromium κ) (controller : Bool) (c : ControllerState ρ κ)
    (h : operation.awaits answer = true) :
    (operation.deliver chromium controller c answer).isSome = true := by
  cases operation with
  | waiter w createdTab =>
      cases answer with
      | waiterEvent event =>
          simp only [deliver]
          split <;> rfl
      | page answer => cases w <;> cases h
  | page operation =>
      cases answer with
      | waiterEvent event => cases h
      | page answer =>
          rw [deliver, Option.isSome_map]
          exact PageOperation.deliver_isSome h

theorem Pending.exists_awaited (h : operation.Pending) (horphaned : operation.orphaned = false) :
    ∃ answer, operation.awaits answer = true := by
  cases operation with
  | waiter w createdTab =>
      cases w with
      | navigation w => exact ⟨.waiterEvent .timeout, rfl⟩
      | reload w =>
          have page : WebContents := ⟨0, "", ⟨"", false, "", ""⟩, false, false, false⟩
          refine ⟨.waiterEvent (.didStopLoading page), ?_⟩
          show w.observing = true
          simpa [orphaned] using horphaned
  | page operation =>
      obtain ⟨answer, hawaits⟩ := PageOperation.Pending.exists_awaited h
      exact ⟨.page answer, hawaits⟩

end ControllerOperation

namespace PageSession

variable {ρ : Type} [BrowserRuntime ρ] {κ : Type} {chromium : PageChromium κ}
  {s t : PageSession ρ κ}

/-- What no later step takes back: a callback that the controller holds is held until it runs, none
starts to be held once the session shuts down, and only then is one let go of. -/
structure Continues (s t : EmbedSession) : Prop where
  ran : s.ran <+: t.ran
  held : ∀ call ∈ s.held, call ∈ t.held ∨ call ∈ t.ran
  shuttingDown : s.shuttingDown = true → t.shuttingDown = true
  closing : s.shuttingDown = true →
    ∀ call, call ∈ t.held ∨ call ∈ t.ran → call ∈ s.held ∨ call ∈ s.ran
  lost : t.lost = s.lost ∨ t.shuttingDown = true

namespace Continues

theorem same {s t : EmbedSession} (hran : t.ran = s.ran) (hheld : t.held = s.held)
    (hlost : t.lost = s.lost) (hdown : s.shuttingDown = true → t.shuttingDown = true) :
    Continues s t where
  ran := by rw [hran]
  held := by
    intro call hcall
    exact .inl (hheld ▸ hcall)
  shuttingDown := hdown
  closing := by
    intro _ call hcall
    rwa [← hheld, ← hran]
  lost := .inl hlost

theorem trans {s t u : EmbedSession} (h : Continues s t) (h' : Continues t u) :
    Continues s u where
  ran := h.ran.trans h'.ran
  held := by
    intro call hcall
    rcases h.held call hcall with hheld | hran
    · exact h'.held call hheld
    · exact .inr (h'.ran.subset hran)
  shuttingDown := fun hdown => h'.shuttingDown (h.shuttingDown hdown)
  closing := by
    intro hdown call hcall
    exact h.closing hdown call (h'.closing (h.shuttingDown hdown) call hcall)
  lost := by
    rcases h'.lost with hlost' | hdown
    · rcases h.lost with hlost | hdown
      · exact .inl (hlost'.trans hlost)
      · exact .inr (h'.shuttingDown hdown)
    · exact .inr hdown

theorem destroySessionController {s t : EmbedSession} (h : Continues s t) :
    Continues s t.destroySessionController := by
  rw [EmbedSession.destroySessionController]
  split
  · exact h
  · exact h.trans (same rfl rfl rfl fun _ => rfl)

theorem controllerTask {s : EmbedSession} (h : s.Inv) (call : Nat) (operation : EmbedOperation)
    (rest : List SessionTask) :
    Continues s (({ s with tasks := rest } : EmbedSession).controllerTask call operation) := by
  rw [EmbedSession.controllerTask]
  by_cases hdown : (s.shuttingDown || !s.controller) = true
  · rw [if_pos hdown]
    have hflag : s.shuttingDown = true := by
      rcases Bool.or_eq_true_iff.mp hdown with hflag | hnone
      · exact hflag
      · exact h.destroyed (by simpa using hnone)
    exact ⟨List.prefix_rfl, fun _ hcall => .inl hcall, id, fun _ _ hcall => hcall, .inr hflag⟩
  · rw [if_neg hdown]
    have hup : s.shuttingDown ≠ true := fun hflag => hdown (by simp [hflag])
    split
    · exact ⟨List.prefix_append _ _, fun _ hcall => .inl hcall, id, fun hflag => absurd hflag hup,
        .inl rfl⟩
    · refine ⟨List.prefix_rfl, ?_, id, fun hflag => absurd hflag hup, .inl rfl⟩
      intro other hother
      exact .inl (List.mem_append_left _ hother)

theorem complete {s : EmbedSession} {call : Nat} (hheld : call ∈ s.held) :
    Continues s { s with held := s.held.erase call, ran := s.ran ++ [call] } where
  ran := List.prefix_append _ _
  held := by
    intro other hother
    by_cases heq : other = call
    · exact .inr (by simp [heq])
    · exact .inl ((List.mem_erase_of_ne heq).mpr hother)
  shuttingDown := id
  closing := by
    intro _ other hother
    rcases hother with hleft | hran
    · exact .inl (List.mem_of_mem_erase hleft)
    · rcases List.mem_append.mp hran with hold | hnew
      · exact .inr hold
      · exact .inl (List.mem_singleton.mp hnew ▸ hheld)
  lost := .inl rfl

theorem step {s t : EmbedSession} {event : SessionEvent} (h : s.Inv)
    (hstep : s.step event = some t) : Continues s t := by
  cases event with
  | call c =>
      obtain rfl := Option.some.inj hstep
      rw [EmbedSession.schedule]
      split
      · exact same rfl rfl rfl id
      · exact same rfl rfl rfl id
  | postTask call =>
      simp only [EmbedSession.step] at hstep
      split at hstep
      · cases hstep
      · obtain rfl := Option.some.inj hstep
        exact same rfl rfl rfl id
  | shutdown onUIThread =>
      obtain rfl := Option.some.inj hstep
      have hflag : Continues s { s with shuttingDown := true } := same rfl rfl rfl fun _ => rfl
      simp only [EmbedSession.shutdown]
      split
      · exact same rfl rfl rfl id
      split
      · exact hflag
      split
      · exact hflag.destroySessionController
      · exact same rfl rfl rfl fun _ => rfl
  | runTask =>
      simp only [EmbedSession.step] at hstep
      split at hstep
      · cases hstep
      · rename_i call operation rest htasks
        obtain rfl := Option.some.inj hstep
        exact controllerTask h call operation rest
      · rename_i rest htasks
        obtain rfl := Option.some.inj hstep
        exact (same rfl rfl rfl id : Continues s { s with tasks := rest }).destroySessionController
  | complete call =>
      simp only [EmbedSession.step] at hstep
      split at hstep
      · rename_i hheld
        obtain rfl := Option.some.inj hstep
        exact complete hheld
      · cases hstep

theorem run {s t : EmbedSession} {events : List SessionEvent} (h : s.Inv)
    (hrun : Exec (Step EmbedSession.step) s events t) : Continues s t := by
  induction hrun with
  | nil s => exact same rfl rfl rfl id
  | cons head _ ih => exact (step h head).trans (ih (h.step head))

end Continues

/-- What holds between steps. -/
structure Invariant (s : PageSession ρ κ) : Prop where
  session : s.toEmbedSession.Inv
  pending : ∀ entry ∈ s.operations, entry.2.Pending
  consistent : ∀ report ∈ s.reports, report.2.Consistent

theorem start_invariant (taskRunner : Bool) (state : ControllerState ρ κ) :
    (start taskRunner state).Invariant where
  session := EmbedSession.start_inv taskRunner
  pending := by simp [start]
  consistent := by simp [start]

theorem Invariant.operations_nodup (h : s.Invariant) : (s.operations.map Prod.fst).Nodup := by
  apply List.nodup_iff_count_le_one.mpr
  intro call
  have hplaced := h.session.placed call
  have haccepted : s.toEmbedSession.acceptedCalls.count call ≤ 1 :=
    List.nodup_iff_count_le_one.mp h.session.accepted_nodup call
  have hheld : s.toEmbedSession.held = s.operations.map Prod.fst := rfl
  rw [← hheld]
  omega

/-- The operation of a call is the one that is found. -/
theorem Invariant.findOperation_eq (h : s.Invariant) {call : Nat}
    {operation : ControllerOperation} (hop : (call, operation) ∈ s.operations) :
    s.findOperation call = some (call, operation) := by
  have hsome : (s.findOperation call).isSome = true :=
    List.find?_isSome.mpr ⟨(call, operation), hop, beq_self_eq_true call⟩
  obtain ⟨found, hfound⟩ := Option.isSome_iff_exists.mp hsome
  have hcall : found.1 = call := by simpa using List.find?_some hfound
  have heq : found = (call, operation) :=
    List.inj_on_of_nodup_map h.operations_nodup (List.mem_of_find?_eq_some hfound) hop hcall
  rw [hfound, heq]

/-- What a call that has come to `progress` adds. -/
theorem Invariant.proceeds (h : s.Invariant) {progress : ControllerProgress}
    (hprogress : progress.Proper)
    (hoperations : ∀ entry ∈ t.operations, entry ∈ s.operations ∨ progress = .waits entry.2)
    (hreports : ∀ report ∈ t.reports, report ∈ s.reports ∨ progress = .completed report.2)
    (hsession : t.toEmbedSession.Inv) : t.Invariant where
  session := hsession
  pending := by
    intro entry hentry
    rcases hoperations entry hentry with hold | rfl
    · exact h.pending entry hold
    · cases hprogress with
      | waits pending => exact pending
  consistent := by
    intro report hreport
    rcases hreports report hreport with hold | rfl
    · exact h.consistent report hold
    · cases hprogress with
      | completed consistent => exact consistent

theorem Invariant.proceed (h : s.Invariant) {call : Nat} {progress : ControllerProgress}
    (hprogress : progress.Proper) (hoperations : t.operations = s.operations)
    (hreports : t.reports = s.reports) (hsession : (t.proceed call progress).toEmbedSession.Inv) :
    (t.proceed call progress).Invariant := by
  cases progress with
  | completed result =>
      apply h.proceeds hprogress _ _ hsession
      · intro entry hentry
        exact .inl (hoperations ▸ hentry)
      · intro report hreport
        rcases List.mem_append.mp hreport with hold | hnew
        · exact .inl (hreports ▸ hold)
        · obtain rfl := List.mem_singleton.mp hnew
          exact .inr rfl
  | waits operation =>
      apply h.proceeds hprogress _ _ hsession
      · intro entry hentry
        rcases List.mem_append.mp hentry with hold | hnew
        · exact .inl (hoperations ▸ hold)
        · obtain rfl := List.mem_singleton.mp hnew
          exact .inr rfl
      · intro report hreport
        exact .inl (hreports ▸ hreport)

theorem Invariant.answered (h : s.Invariant) {call : Nat} {progress : ControllerProgress}
    (hprogress : progress.Proper) (hoperations : t.operations = s.operations)
    (hreports : t.reports = s.reports) (hsession : (t.answered call progress).toEmbedSession.Inv) :
    (t.answered call progress).Invariant := by
  cases progress with
  | completed result =>
      apply h.proceeds hprogress _ _ hsession
      · intro entry hentry
        exact .inl (hoperations ▸ List.mem_of_mem_eraseP hentry)
      · intro report hreport
        rcases List.mem_append.mp hreport with hold | hnew
        · exact .inl (hreports ▸ hold)
        · obtain rfl := List.mem_singleton.mp hnew
          exact .inr rfl
  | waits operation =>
      apply h.proceeds hprogress _ _ hsession
      · intro entry hentry
        obtain ⟨old, hold, rfl⟩ := List.mem_map.mp hentry
        by_cases hcall : (old.1 == call) = true
        · exact .inr (by simp [hcall])
        · rw [if_neg hcall]
          exact .inl (hoperations ▸ hold)
      · intro report hreport
        exact .inl (hreports ▸ hreport)

/-- What a thread of the host does touches no operation. -/
theorem schedule_frame (c : BrowserdCall) (callback : Bool) :
    (s.schedule c callback).operations = s.operations ∧
      (s.schedule c callback).reports = s.reports := by
  simp only [schedule]
  split
  · exact ⟨rfl, rfl⟩
  split
  · exact ⟨rfl, rfl⟩
  split
  · exact ⟨rfl, rfl⟩
  · exact ⟨rfl, rfl⟩

theorem destroySessionController_frame :
    s.destroySessionController.operations = s.operations ∧
      s.destroySessionController.reports = s.reports := by
  rw [destroySessionController]
  split
  · exact ⟨rfl, rfl⟩
  · exact ⟨rfl, rfl⟩

theorem shutdown_frame (onUIThread : Bool) :
    (s.shutdown onUIThread).operations = s.operations ∧
      (s.shutdown onUIThread).reports = s.reports := by
  simp only [shutdown]
  split
  · exact ⟨rfl, rfl⟩
  split
  · exact ⟨rfl, rfl⟩
  split
  · exact destroySessionController_frame
  · exact ⟨rfl, rfl⟩

theorem Invariant.step {input : PageSessionInput ρ κ} (h : s.Invariant)
    (hstep : s.step chromium input = some t) : t.Invariant := by
  have hsession : t.toEmbedSession.Inv := by
    obtain ⟨events, hrun⟩ := step_refines h.session hstep
    exact hrun.invariant (fun _ _ _ hs hstep => hs.step hstep) h.session
  have same (hoperations : t.operations = s.operations) (hreports : t.reports = s.reports) :
      t.Invariant :=
    ⟨hsession, hoperations ▸ h.pending, hreports ▸ h.consistent⟩
  cases input with
  | call c callback =>
      obtain rfl := Option.some.inj hstep
      exact same (schedule_frame c callback).1 (schedule_frame c callback).2
  | postTask call =>
      obtain ⟨entry, -, rfl⟩ := Option.map_eq_some_iff.mp hstep
      exact same rfl rfl
  | shutdown onUIThread =>
      obtain rfl := Option.some.inj hstep
      exact same (shutdown_frame onUIThread).1 (shutdown_frame onUIThread).2
  | runTask =>
      simp only [PageSession.step] at hstep
      split at hstep
      · cases hstep
      · rename_i call request rest htasks
        obtain rfl := Option.some.inj hstep
        simp only [controllerTask] at hsession ⊢
        split at hsession
        · rename_i hdown
          rw [if_pos hdown]
          exact ⟨hsession, h.pending, h.consistent⟩
        · rename_i hup
          rw [if_neg hup]
          exact h.proceed (ControllerCall.start_proper request) rfl rfl hsession
      · obtain rfl := Option.some.inj hstep
        apply same
        · rw [destroySessionController]
          split <;> rfl
        · rw [destroySessionController]
          split <;> rfl
  | answer call answer =>
      obtain ⟨⟨number, operation⟩, hfind, hanswer⟩ := Option.bind_eq_some_iff.mp hstep
      obtain ⟨⟨state, progress⟩, hdeliver, rfl⟩ := Option.map_eq_some_iff.mp hanswer
      have hpending : operation.Pending := h.pending _ (List.mem_of_find?_eq_some hfind)
      exact h.answered (hpending.deliver hdeliver) rfl rfl hsession
  | environment runtime builder setting cookies =>
      obtain rfl := Option.some.inj hstep
      exact same rfl rfl

/-- The input is an answer that the operation of the call waits for. -/
def awaited (call : Nat) (s : PageSession ρ κ) : PageSessionInput ρ κ → Bool
  | .answer c answer => c == call && (s.findOperation c).any fun entry => entry.2.awaits answer
  | _ => false

/-- How many of the inputs are answers that the operation of the call waits for. -/
def answers (chromium : PageChromium κ) (call : Nat) (s : PageSession ρ κ) :
    List (PageSessionInput ρ κ) → Nat
  | [] => 0
  | input :: later =>
      (if s.awaited call input then 1 else 0) +
        match s.step chromium input with
        | some t => t.answers chromium call later
        | none => 0

theorem proceed_keeps {entry : Nat × ControllerOperation} (hop : entry ∈ s.operations)
    (call : Nat) (progress : ControllerProgress) :
    entry ∈ (s.proceed call progress).operations := by
  cases progress with
  | completed result => exact hop
  | waits operation' => exact List.mem_append_left _ hop

/-- An answer to another call leaves the operation as it is. -/
theorem answered_keeps {call other : Nat} {operation : ControllerOperation} (hne : other ≠ call)
    (hop : (call, operation) ∈ s.operations) (progress : ControllerProgress) :
    (call, operation) ∈ (s.answered other progress).operations := by
  have hcall : ¬ (call == other) = true := by simpa using hne.symm
  cases progress with
  | completed result => exact (List.mem_eraseP_of_neg (by simpa using hcall)).mpr hop
  | waits operation' => exact List.mem_map.mpr ⟨_, hop, if_neg hcall⟩

/-- While an operation is under way, every step reports its call or leaves it under way, for fewer
answers if the step was one of them. -/
theorem step_waits (h : s.Invariant) {call : Nat} {operation : ControllerOperation}
    (hop : (call, operation) ∈ s.operations) {input : PageSessionInput ρ κ}
    (hstep : s.step chromium input = some t) :
    call ∈ t.reports.map Prod.fst ∨ ∃ operation', (call, operation') ∈ t.operations ∧
      operation'.answersLeft + (if s.awaited call input then 1 else 0) ≤
        operation.answersLeft := by
  have same (hawaited : s.awaited call input = false)
      (hmem : (call, operation) ∈ t.operations) : ∃ operation', (call, operation') ∈ t.operations ∧
        operation'.answersLeft + (if s.awaited call input then 1 else 0) ≤
          operation.answersLeft := by
    refine ⟨operation, hmem, ?_⟩
    rw [hawaited]
    exact Nat.le_refl _
  cases input with
  | call c callback =>
      obtain rfl := Option.some.inj hstep
      refine .inr (same rfl ?_)
      rw [(schedule_frame c callback).1]
      exact hop
  | postTask call =>
      obtain ⟨entry, -, rfl⟩ := Option.map_eq_some_iff.mp hstep
      exact .inr (same rfl hop)
  | shutdown onUIThread =>
      obtain rfl := Option.some.inj hstep
      refine .inr (same rfl ?_)
      rw [(shutdown_frame onUIThread).1]
      exact hop
  | runTask =>
      simp only [PageSession.step] at hstep
      split at hstep
      · cases hstep
      · rename_i other request rest htasks
        obtain rfl := Option.some.inj hstep
        refine .inr (same rfl ?_)
        simp only [controllerTask]
        split
        · exact hop
        · apply proceed_keeps
          exact hop
      · rename_i rest htasks
        obtain rfl := Option.some.inj hstep
        refine .inr (same rfl ?_)
        rw [destroySessionController_frame.1]
        exact hop
  | answer other answer =>
      obtain ⟨⟨number, found⟩, hfind, hanswer⟩ := Option.bind_eq_some_iff.mp hstep
      obtain ⟨⟨state, progress⟩, hdeliver, rfl⟩ := Option.map_eq_some_iff.mp hanswer
      by_cases hne : other = call
      · subst hne
        have hentry := Option.some.inj (hfind.symm.trans (h.findOperation_eq hop))
        obtain ⟨rfl, rfl⟩ := Prod.mk.inj hentry
        cases progress with
        | completed result => exact .inl (by simp [answered])
        | waits operation' =>
            refine .inr ⟨operation', ?_, ?_⟩
            · exact List.mem_map.mpr ⟨_, hop, if_pos (beq_self_eq_true number)⟩
            · have hawaited : s.awaited number (.answer number answer) = found.awaits answer := by
                simp [awaited, hfind]
              rw [hawaited]
              exact (h.pending _ hop).deliver_waits hdeliver
      · have hawaited : s.awaited call (.answer other answer) = false := by
          simp [awaited, hne]
        refine .inr (same hawaited ?_)
        apply answered_keeps hne
        exact hop
  | environment runtime builder setting cookies =>
      obtain rfl := Option.some.inj hstep
      exact .inr (same rfl hop)

/-- The callbacks that have run are not taken back. -/
theorem step_keepsReports (h : s.Invariant) {call : Nat} {input : PageSessionInput ρ κ}
    (hcall : call ∈ s.reports.map Prod.fst) (hstep : s.step chromium input = some t) :
    call ∈ t.reports.map Prod.fst := by
  obtain ⟨events, hrun⟩ := step_refines h.session hstep
  exact (Continues.run h.session hrun).ran.subset hcall

/-- A run reports the call, or leaves its operation under way for fewer answers by those that it
had. -/
theorem run_waits {inputs : List (PageSessionInput ρ κ)} (h : s.Invariant) {call : Nat}
    {operation : ControllerOperation} (hop : (call, operation) ∈ s.operations)
    (hrun : Exec (Step (step chromium)) s inputs t) :
    call ∈ t.reports.map Prod.fst ∨ ∃ operation', (call, operation') ∈ t.operations ∧
      operation'.answersLeft + s.answers chromium call inputs ≤ operation.answersLeft := by
  induction hrun generalizing operation with
  | nil s => exact .inr ⟨operation, hop, Nat.le_refl _⟩
  | @cons s next t input inputs head tail ih =>
      have hnext : next.Invariant := h.step head
      rcases step_waits h hop head with hreported | ⟨operation', hmem, hleft⟩
      · obtain ⟨-, hlast⟩ := tail.invariant
          (I := fun s => s.Invariant ∧ call ∈ s.reports.map Prod.fst)
          (fun _ _ _ hs hstep => ⟨hs.1.step hstep, step_keepsReports hs.1 hs.2 hstep⟩)
          ⟨hnext, hreported⟩
        exact .inl hlast
      · rcases ih hnext hmem with hreported | ⟨operation'', hlast, hleft'⟩
        · exact .inl hreported
        · refine .inr ⟨operation'', hlast, ?_⟩
          have hstep : step chromium s input = some next := head
          rw [answers, hstep]
          dsimp only at hleft' ⊢
          omega

/-- What an accepted call, and every other, comes to: its task waits, its operation is under way,
its callback has run, or it has been let go of. -/
def Placed (s : EmbedSession) : Prop :=
  ∀ call, s.waiting.count call + s.held.count call + s.ran.count call + s.lost.count call =
    if (call, EmbedSession.kScheduleOk) ∈ s.returned then 1 else 0

theorem placed_of_inv {s : EmbedSession} (h : s.Inv) : Placed s := by
  intro call
  rw [← h.placed call]
  split
  · rename_i hreturned
    exact List.count_eq_one_of_mem h.accepted_nodup (EmbedSession.mem_acceptedCalls.mpr hreturned)
  · rename_i hreturned
    exact List.count_eq_zero.mpr fun hmem => hreturned (EmbedSession.mem_acceptedCalls.mp hmem)

theorem run_invariant {taskRunner : Bool} {state : ControllerState ρ κ}
    {inputs : List (PageSessionInput ρ κ)}
    (hrun : Exec (Step (step chromium)) (start taskRunner state) inputs s) : s.Invariant :=
  hrun.invariant (fun _ _ _ hs hstep => hs.step hstep) (start_invariant taskRunner state)

end PageSession

/-- Any run of a session is one of the session that knows the places of its calls, in which no
callback that the controller holds is let go of. An accepted call is in one place; the callbacks
that run are given arguments that are in order; once the session shuts down, only the operations
that are under way still report, and only then is an accepted call let go of. -/
theorem pageSession_completesOnce {ρ : Type} [BrowserRuntime ρ] {κ : Type}
    (chromium : PageChromium κ) (taskRunner : Bool) (state : ControllerState ρ κ)
    {inputs later : List (PageSessionInput ρ κ)} {s t : PageSession ρ κ}
    (hrun : Exec (Step (PageSession.step chromium)) (PageSession.start taskRunner state) inputs s)
    (hlater : Exec (Step (PageSession.step chromium)) s later t) :
    (∃ events, Exec (Step EmbedSession.step) s.toEmbedSession events t.toEmbedSession) ∧
      PageSession.Continues s.toEmbedSession t.toEmbedSession ∧
      PageSession.Placed t.toEmbedSession ∧
      (t.lost ≠ [] → t.shuttingDown = true) ∧
      ∀ report ∈ t.reports, ∃ arguments, report.2.complete = some arguments ∧ arguments.Proper := by
  have hs : s.Invariant := PageSession.run_invariant hrun
  have ht : t.Invariant := PageSession.run_invariant (hrun.append hlater)
  obtain ⟨events, hkept⟩ := hlater.simulation PageSession.toEmbedSession
    (fun _ _ _ h hstep => h.step hstep) (fun _ _ _ h hstep => PageSession.step_refines h hstep)
    hs.session
  obtain ⟨before, hbefore⟩ := PageSession.run_refines (hrun.append hlater)
  refine ⟨⟨events, hkept⟩, .run hs.session hkept, PageSession.placed_of_inv ht.session, ?_, ?_⟩
  · intro hlost
    rcases (PageSession.Continues.run (EmbedSession.start_inv taskRunner) hbefore).lost with
      hnone | hdown
    · exact absurd hnone hlost
    · exact hdown
  · intro report hreport
    exact ControllerResult.complete_proper (ht.consistent report hreport)

/-- A session with one tab, whose console messages are asked for. -/
def shopSession : PageSession HeadlessRuntime (List CanonicalCookie) :=
  PageSession.start true
    { setting := shopPageSetting
      cookies := []
      mouse := ⟨0, 0⟩
      runtime := shopRuntime
      builder := fun _ => none }

def shopMessages : List (PageSessionInput HeadlessRuntime (List CanonicalCookie)) :=
  [.call (.consoleMessages none) true, .postTask 0, .runTask]

/-- The tabs are listed too late. -/
def shopClosing : List (PageSessionInput HeadlessRuntime (List CanonicalCookie)) :=
  [.call .tabList true, .shutdown false, .postTask 1, .runTask, .runTask]

def shopText : PageSessionInput HeadlessRuntime (List CanonicalCookie) :=
  .answer 0 (.page (.evaluated (.result true (.string "[]"))))

def shopAsked : PageSession HeadlessRuntime (List CanonicalCookie) :=
  (shopMessages.foldlM (PageSession.step shopPageChromium) shopSession).getD shopSession

theorem pageSession_completesOnce_sample :
    ∃ t : PageSession HeadlessRuntime (List CanonicalCookie),
      Exec (Step (PageSession.step shopPageChromium)) shopAsked (shopClosing ++ [shopText]) t ∧
        t.reports.map Prod.fst = [0] ∧ t.lost = [1] ∧ t.shuttingDown = true := by
  have hrun : Exec (Step (PageSession.step shopPageChromium)) shopSession shopMessages
      shopAsked := .cons rfl (.cons rfl (.cons rfl (.nil _)))
  have hlater : Exec (Step (PageSession.step shopPageChromium)) shopAsked
      (shopClosing ++ [shopText]) _ :=
    .cons rfl (.cons rfl (.cons rfl (.cons rfl (.cons rfl (.cons rfl (.nil _))))))
  obtain ⟨-, -, -, hclosing, -⟩ := pageSession_completesOnce shopPageChromium true _ hrun hlater
  exact ⟨_, hlater, rfl, rfl, hclosing (by decide)⟩

end Browserd
