import Mathlib.Data.List.Nodup
import Browserd.Embed.Session
import Browserd.Lib.Places

/-!
# The places of accepted calls

An accepted call is in one place at a time: its task waits, the controller holds its callback, or
the callback has been run or let go of.
-/

namespace Browserd

open Transition

namespace EmbedSession

variable {s t : EmbedSession}

/-- The calls whose tasks wait. -/
def waiting (s : EmbedSession) : List Nat :=
  s.tasks.filterMap fun task =>
    match task with
    | .controllerTask call _ => some call
    | .destroySessionController => none

/-- The calls that returned `kScheduleOk`. -/
def acceptedCalls (s : EmbedSession) : List Nat :=
  (s.returned.filter fun entry => entry.2 == kScheduleOk).map Prod.fst

/-- The calls that have returned or are about to. -/
def known (s : EmbedSession) : List Nat := s.returned.map Prod.fst ++ s.posting.map Prod.fst

structure Inv (s : EmbedSession) : Prop where
  /-- An accepted call is in exactly one place. -/
  placed : ∀ call, s.acceptedCalls.count call =
    s.waiting.count call + s.held.count call + s.ran.count call + s.lost.count call
  known : s.known.Perm (List.range s.calls)
  destroyed : s.controller = false → s.shuttingDown = true

theorem start_inv (taskRunner : Bool) : (start taskRunner).Inv where
  placed := by simp [start, acceptedCalls, waiting]
  known := .refl _
  destroyed := by simp [start]

theorem Inv.returned_nodup (h : s.Inv) : (s.returned.map Prod.fst).Nodup :=
  (List.nodup_append.mp (h.known.nodup_iff.mpr List.nodup_range)).1

theorem Inv.accepted_nodup (h : s.Inv) : s.acceptedCalls.Nodup :=
  (List.filter_sublist.map Prod.fst).nodup h.returned_nodup

/-- A new call is rejected or goes on to post its task. -/
theorem Inv.schedule (c : EmbedCall) (h : s.Inv) : (s.schedule c).Inv := by
  unfold EmbedSession.schedule
  split
  · refine ⟨?_, ?_, h.destroyed⟩
    · intro call
      simpa [acceptedCalls, waiting, kScheduleOk, kScheduleRejected] using h.placed call
    · rw [EmbedSession.known, List.range_succ, List.map_append, List.append_assoc]
      refine List.Perm.trans ?_ (h.known.append_right [s.calls])
      rw [EmbedSession.known, List.append_assoc]
      exact List.Perm.append_left _ List.perm_append_comm
  · refine ⟨h.placed, ?_, h.destroyed⟩
    rw [EmbedSession.known, List.range_succ, List.map_append, ← List.append_assoc]
    exact h.known.append_right [s.calls]

/-- `PostTask`: the call returns. -/
theorem Inv.postTask {call : Nat} {operation : EmbedOperation} (h : s.Inv)
    (hposting : s.posting.find? (fun entry => entry.1 == call) = some (call, operation)) :
    Inv { s with
      posting := s.posting.eraseP fun entry => entry.1 == call
      tasks := s.tasks ++ [.controllerTask call operation]
      returned := s.returned ++ [(call, kScheduleOk)] } := by
  refine ⟨?_, ?_, h.destroyed⟩
  · intro other
    have hplaced := h.placed other
    simp only [acceptedCalls, waiting] at hplaced
    simp only [acceptedCalls, waiting, List.filter_append, List.filterMap_append, List.map_append,
      List.count_append]
    simp only [List.filter_cons, beq_self_eq_true, if_true, List.filter_nil, List.map_cons,
      List.map_nil, List.filterMap_cons, List.filterMap_nil]
    omega
  · refine List.Perm.trans ?_ h.known
    have hperm := (Places.perm_cons_eraseP hposting).map Prod.fst
    simp only [EmbedSession.known, List.map_append, List.map_cons, List.map_nil, List.append_assoc,
      List.singleton_append]
    exact List.Perm.append_left _ hperm.symm

/-- `browserd_shutdown` and its task touch no call. -/
theorem Inv.destroySessionController (h : s.Inv) : s.destroySessionController.Inv := by
  unfold EmbedSession.destroySessionController
  split
  · exact h
  · exact ⟨h.placed, h.known, fun _ => rfl⟩

theorem Inv.shutdown (onUIThread : Bool) (h : s.Inv) : (s.shutdown onUIThread).Inv := by
  have hflag : Inv { s with shuttingDown := true } := ⟨h.placed, h.known, fun _ => rfl⟩
  unfold EmbedSession.shutdown
  simp only
  split
  · exact h
  split
  · exact hflag
  split
  · exact hflag.destroySessionController
  · refine ⟨?_, h.known, fun _ => rfl⟩
    intro call
    simpa [acceptedCalls, waiting] using h.placed call

/-- A call that goes from one place to another. -/
theorem Inv.move (h : s.Inv) (haccepted : t.acceptedCalls = s.acceptedCalls)
    (hknown : t.known = s.known) (hcalls : t.calls = s.calls)
    (hdestroyed : t.controller = false → t.shuttingDown = true)
    (hplaces : ∀ call, t.waiting.count call + t.held.count call + t.ran.count call +
      t.lost.count call = s.waiting.count call + s.held.count call + s.ran.count call +
        s.lost.count call) : t.Inv := by
  refine ⟨?_, ?_, hdestroyed⟩
  · intro call
    rw [haccepted, h.placed, hplaces]
  · rw [hknown, hcalls]
    exact h.known

theorem waiting_cons {call : Nat} {operation : EmbedOperation} {rest : List SessionTask}
    (htasks : s.tasks = .controllerTask call operation :: rest) :
    s.waiting = call :: ({ s with tasks := rest } : EmbedSession).waiting := by
  simp [waiting, htasks]

/-- A task that runs hands its callback on. -/
theorem Inv.controllerTask {call : Nat} {operation : EmbedOperation} {rest : List SessionTask}
    (h : s.Inv) (htasks : s.tasks = .controllerTask call operation :: rest) :
    (({ s with tasks := rest } : EmbedSession).controllerTask call operation).Inv := by
  have hwaiting (other : Nat) : s.waiting.count other =
      [call].count other + ({ s with tasks := rest } : EmbedSession).waiting.count other := by
    rw [waiting_cons htasks, ← List.singleton_append, List.count_append]
  simp only [waiting] at hwaiting
  unfold EmbedSession.controllerTask
  split
  · refine h.move rfl rfl rfl h.destroyed ?_
    intro other
    simp only [waiting, List.count_append, hwaiting]
    omega
  split
  · refine h.move rfl rfl rfl h.destroyed ?_
    intro other
    simp only [waiting, List.count_append, hwaiting]
    omega
  · refine h.move rfl rfl rfl h.destroyed ?_
    intro other
    simp only [waiting, List.count_append, hwaiting]
    omega

theorem Inv.step {event : SessionEvent} (h : s.Inv) (hstep : s.step event = some t) : t.Inv := by
  cases event with
  | call c =>
      obtain rfl := Option.some.inj hstep
      exact h.schedule c
  | postTask call =>
      simp only [EmbedSession.step] at hstep
      split at hstep
      · cases hstep
      · rename_i call' operation hfind
        obtain rfl := Option.some.inj hstep
        obtain rfl : call' = call := by simpa using List.find?_some hfind
        exact h.postTask hfind
  | shutdown onUIThread =>
      obtain rfl := Option.some.inj hstep
      exact h.shutdown onUIThread
  | runTask =>
      simp only [EmbedSession.step] at hstep
      split at hstep
      · cases hstep
      · rename_i call operation rest htasks
        obtain rfl := Option.some.inj hstep
        exact h.controllerTask htasks
      · rename_i rest htasks
        obtain rfl := Option.some.inj hstep
        have hrest : Inv { s with tasks := rest } :=
          ⟨by simpa [acceptedCalls, waiting, htasks] using h.placed, h.known, h.destroyed⟩
        exact hrest.destroySessionController
  | complete call =>
      simp only [EmbedSession.step] at hstep
      split at hstep
      · rename_i hheld
        obtain rfl := Option.some.inj hstep
        refine h.move rfl rfl rfl h.destroyed ?_
        intro other
        have herase := Places.count_erase_add hheld other
        simp only [waiting, List.count_append]
        omega
      · cases hstep

theorem mem_acceptedCalls {call : Nat} :
    call ∈ s.acceptedCalls ↔ (call, kScheduleOk) ∈ s.returned := by
  simp [acceptedCalls]

end EmbedSession

end Browserd
