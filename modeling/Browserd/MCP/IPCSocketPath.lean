import Mathlib.Logic.Function.Basic
import Browserd.Lib.Exec

/-!
# Several servers on one socket path

Any number of browserd processes with the same `--mcp-ipc-path`, one system call at a time. A
process probes the path, takes a socket that refuses for a stale one and unlinks it, binds its own
and listens; when it stops, it closes its socket and unlinks the path by name.
-/

namespace Browserd.Posix

open Transition

/-- Who has bound a socket: a process from outside, or one of browserd. -/
inductive SocketOwner where
  | foreign (live listening : Bool)
  | process (number : Nat)

inductive PathEntry where
  | absent
  | file
  | socket (owner : SocketOwner)

/-- The next system call of a process in `CreateListeningSocket` or in `RequestStopLocked`, after
the calls that say nothing about the path. -/
inductive PathPoint where
  | lstat
  | connect
  | unlinkStale
  | bind
  | chmod
  | listen
  | unlinkFailed
  | serving
  | unlinkBound
  | ended
  deriving DecidableEq

namespace PathPoint

/-- The process has its socket bound and open. -/
def bound : PathPoint → Bool
  | chmod | listen | serving => true
  | _ => false

/-- The next call is `unlink`. -/
def unlinks : PathPoint → Bool
  | unlinkStale | unlinkFailed | unlinkBound => true
  | _ => false

end PathPoint

/-- `stolen` holds once a process has unlinked a socket that another live one had bound. -/
structure SocketPath where
  entry : PathEntry
  processes : Nat → PathPoint
  stolen : Bool

/-- `call` is the next system call of a process; it `fails` for a reason other than what is at the
path. `stop` is the start of `RequestStopLocked` in a server, `kill` the end of a process. -/
inductive PathEvent where
  | call (number : Nat) (fails : Bool)
  | stop (number : Nat)
  | kill (number : Nat)

namespace SocketPath

def start (entry : PathEntry) : SocketPath where
  entry := entry
  processes := fun _ => .lstat
  stolen := false

def goto (number : Nat) (point : PathPoint) (s : SocketPath) : SocketPath :=
  { s with processes := Function.update s.processes number point }

/-- The socket is bound and open in a live process. -/
def holds (s : SocketPath) : SocketOwner → Bool
  | .foreign live _ => live
  | .process number => (s.processes number).bound

/-- A `connect` to the socket succeeds. -/
def accepts (s : SocketPath) : SocketOwner → Bool
  | .foreign live listening => live && listening
  | .process number => s.processes number == .serving

/-- The path names a socket that a live process has bound. -/
def held (s : SocketPath) : Bool :=
  match s.entry with
  | .socket owner => s.holds owner
  | _ => false

/-- `unlink(path)` of a process that has no socket of its own open. -/
def unlink (s : SocketPath) : SocketPath :=
  { s with entry := .absent, stolen := s.stolen || s.held }

/-- The next system call of a process. -/
def call (number : Nat) (fails : Bool) (s : SocketPath) : Option SocketPath :=
  match s.processes number with
  | .lstat =>
      some (if fails then s.goto number .ended
      else
        match s.entry with
        | .absent => s.goto number .bind
        | .file => s.goto number .ended
        | .socket _ => s.goto number .connect)
  | .connect =>
      some (if fails then s.goto number .ended
      else
        match s.entry with
        -- ENOENT and ECONNREFUSED
        | .absent => s.goto number .unlinkStale
        | .file => s.goto number .unlinkStale
        | .socket owner =>
            if s.accepts owner then s.goto number .ended else s.goto number .unlinkStale)
  | .unlinkStale =>
      some (if fails then s.goto number .ended else s.unlink.goto number .bind)
  | .bind =>
      some (if fails then s.goto number .ended
      else
        match s.entry with
        | .absent => { s with entry := .socket (.process number) }.goto number .chmod
        | _ => s.goto number .ended)
  -- A failure of `chmod` is only logged.
  | .chmod => some (s.goto number .listen)
  | .listen =>
      some (if fails then s.goto number .unlinkFailed else s.goto number .serving)
  | .unlinkFailed =>
      some (if fails then s.goto number .ended else s.unlink.goto number .ended)
  | .unlinkBound =>
      some (if fails then s.goto number .ended else s.unlink.goto number .ended)
  | .serving => none
  | .ended => none

def step (s : SocketPath) : PathEvent → Option SocketPath
  | .call number fails => s.call number fails
  | .stop number =>
      if s.processes number = .serving then some (s.goto number .unlinkBound) else none
  | .kill number => some (s.goto number .ended)

/-- No socket has been taken from a live process, and every server can be reached at the path. -/
structure Safe (s : SocketPath) : Prop where
  kept : s.stolen = false
  reachable : ∀ number, s.processes number = .serving → s.entry = .socket (.process number)

/-- No process probes the path while a live one has bound it and does not listen yet, and none
binds a socket there while another one is about to unlink the path. -/
def InTime (s : SocketPath) : PathEvent → Prop
  | .call number false =>
      match s.processes number with
      | .connect => ∀ owner, s.entry = .socket owner → s.accepts owner = false →
          s.holds owner = false
      | .bind => s.entry = .absent → ∀ other, (s.processes other).unlinks = false
      | _ => True
  | _ => True

structure Inv (s : SocketPath) : Prop where
  kept : s.stolen = false
  bound : ∀ number, (s.processes number).bound → s.entry = .socket (.process number)
  window : ∀ number, (s.processes number).unlinks → s.held = false

variable {s t : SocketPath} {number : Nat} {point : PathPoint}

theorem start_inv (entry : PathEntry) : (start entry).Inv where
  kept := rfl
  bound _ h := absurd h Bool.false_ne_true
  window _ h := absurd h Bool.false_ne_true

theorem Inv.safe (h : s.Inv) : s.Safe where
  kept := h.kept
  reachable number hserving := h.bound number (by rw [hserving]; rfl)

theorem goto_self : (s.goto number point).processes number = point := Function.update_self ..

theorem goto_other {other : Nat} (h : other ≠ number) :
    (s.goto number point).processes other = s.processes other := Function.update_of_ne h ..

/-- A process that has no socket open afterwards takes none from the others. -/
theorem held_goto (hpoint : point.bound = false) (h : s.held = false) :
    (s.goto number point).held = false := by
  unfold held at h ⊢
  have hentry : (s.goto number point).entry = s.entry := rfl
  rw [hentry]
  cases hsocket : s.entry with
  | absent => rfl
  | file => rfl
  | socket owner =>
      simp only [hsocket] at h ⊢
      cases owner with
      | foreign live listening => exact h
      | process other =>
          simp only [holds] at h ⊢
          by_cases hother : other = number
          · rw [hother, goto_self, hpoint]
          · rw [goto_other hother, h]

/-- A process goes on without a socket of its own. -/
theorem Inv.goto_free (h : s.Inv) (hpoint : point.bound = false)
    (hwindow : point.unlinks → (s.goto number point).held = false) :
    (s.goto number point).Inv := by
  refine ⟨h.kept, ?_, ?_⟩
  · intro other hbound
    by_cases hother : other = number
    · subst hother
      rw [goto_self, hpoint] at hbound
      exact absurd hbound Bool.false_ne_true
    · rw [goto_other hother] at hbound
      exact h.bound other hbound
  · intro other hunlinks
    by_cases hother : other = number
    · subst hother
      rw [goto_self] at hunlinks
      exact hwindow hunlinks
    · rw [goto_other hother] at hunlinks
      exact held_goto hpoint (h.window other hunlinks)

/-- A process goes on with its socket. -/
theorem Inv.goto_bound (h : s.Inv) (hbefore : (s.processes number).bound)
    (hunlinks : point.unlinks = false) : (s.goto number point).Inv := by
  have hentry := h.bound number hbefore
  refine ⟨h.kept, ?_, ?_⟩
  · intro other hbound
    by_cases hother : other = number
    · rw [hother]
      exact hentry
    · rw [goto_other hother] at hbound
      exact h.bound other hbound
  · intro other hother
    by_cases hsame : other = number
    · subst hsame
      rw [goto_self, hunlinks] at hother
      exact absurd hother Bool.false_ne_true
    · rw [goto_other hsame] at hother
      have hheld := h.window other hother
      simp [held, hentry, holds, hbefore] at hheld

/-- A process closes its socket and is about to unlink it. -/
theorem Inv.close (h : s.Inv) (hbefore : (s.processes number).bound)
    (hpoint : point.bound = false) : (s.goto number point).Inv := by
  refine h.goto_free hpoint ?_
  intro _
  have hentry : (s.goto number point).entry = .socket (.process number) := h.bound number hbefore
  simp only [held, hentry, holds, goto_self, hpoint]

/-- A process unlinks what no live process has bound. -/
theorem Inv.unlink (h : s.Inv) (hbefore : (s.processes number).unlinks)
    (hpoint : point.bound = false) : (s.unlink.goto number point).Inv := by
  have hheld := h.window number hbefore
  have hnone (other : Nat) : (s.processes other).bound = false := by
    by_contra hbound
    have hentry := h.bound other (by simpa using hbound)
    simp [held, hentry, holds, hbound] at hheld
  apply Inv.mk
  · change (s.stolen || s.held) = false
    rw [h.kept, hheld]
    rfl
  · intro other hbound
    by_cases hother : other = number
    · subst hother
      rw [goto_self, hpoint] at hbound
      exact absurd hbound Bool.false_ne_true
    · rw [goto_other hother] at hbound
      exact absurd ((hnone other).symm.trans hbound) Bool.false_ne_true
  · intro other _
    rfl

/-- A process binds its socket while none is about to unlink the path. -/
theorem Inv.bind (h : s.Inv) (habsent : s.entry = .absent)
    (hnone : ∀ other, (s.processes other).unlinks = false) :
    (({ s with entry := .socket (.process number) } : SocketPath).goto number .chmod).Inv := by
  refine ⟨h.kept, ?_, ?_⟩
  · intro other hbound
    by_cases hother : other = number
    · rw [hother]
      rfl
    · rw [goto_other hother] at hbound
      have hentry := h.bound other hbound
      simp [habsent] at hentry
  · intro other hunlinks
    by_cases hother : other = number
    · subst hother
      rw [goto_self] at hunlinks
      exact absurd hunlinks Bool.false_ne_true
    · rw [goto_other hother] at hunlinks
      exact absurd ((hnone other).symm.trans hunlinks) Bool.false_ne_true

/-- A probe in time finds a server or nothing that lives. -/
theorem Inv.connect (h : s.Inv) (hpoint : s.processes number = .connect)
    (hintime : s.InTime (.call number false)) (hstep : s.call number false = some t) : t.Inv := by
  simp only [InTime, hpoint] at hintime
  simp only [call, hpoint, Bool.false_eq_true, if_false] at hstep
  have hstale (hfree : s.held = false) : (s.goto number .unlinkStale).Inv :=
    h.goto_free rfl fun _ => held_goto rfl hfree
  split at hstep
  · rename_i hentry
    obtain rfl := Option.some.inj hstep
    exact hstale (by simp [held, hentry])
  · rename_i hentry
    obtain rfl := Option.some.inj hstep
    exact hstale (by simp [held, hentry])
  · rename_i owner hentry
    split at hstep
    · obtain rfl := Option.some.inj hstep
      exact h.goto_free rfl (by simp [PathPoint.unlinks])
    · rename_i hrefused
      obtain rfl := Option.some.inj hstep
      refine hstale ?_
      simp [held, hentry, hintime owner hentry (by simpa using hrefused)]

/-- A call of `unlink`, which may fail. -/
theorem Inv.unlinks (h : s.Inv) (fails : Bool) (hbefore : (s.processes number).unlinks)
    (hpoint : point.bound = false) :
    (if fails then s.goto number .ended else s.unlink.goto number point).Inv := by
  split
  · exact h.goto_free rfl (by simp [PathPoint.unlinks])
  · exact h.unlink hbefore hpoint

theorem Inv.call {fails : Bool} (h : s.Inv) (hintime : s.InTime (.call number fails))
    (hstep : s.call number fails = some t) : t.Inv := by
  have hended : (s.goto number .ended).Inv := h.goto_free rfl (by simp [PathPoint.unlinks])
  cases hpoint : s.processes number with
  | lstat =>
      simp only [SocketPath.call, hpoint] at hstep
      split at hstep
      · obtain rfl := Option.some.inj hstep
        exact hended
      · split at hstep
        · obtain rfl := Option.some.inj hstep
          exact h.goto_free rfl (by simp [PathPoint.unlinks])
        · obtain rfl := Option.some.inj hstep
          exact hended
        · obtain rfl := Option.some.inj hstep
          exact h.goto_free rfl (by simp [PathPoint.unlinks])
  | connect =>
      cases fails with
      | true =>
          simp only [SocketPath.call, hpoint, if_true] at hstep
          obtain rfl := Option.some.inj hstep
          exact hended
      | false => exact h.connect hpoint hintime hstep
  | unlinkStale =>
      simp only [SocketPath.call, hpoint] at hstep
      obtain rfl := Option.some.inj hstep
      exact h.unlinks fails (by rw [hpoint]; rfl) rfl
  | bind =>
      cases fails with
      | true =>
          simp only [SocketPath.call, hpoint, if_true] at hstep
          obtain rfl := Option.some.inj hstep
          exact hended
      | false =>
          simp only [InTime, hpoint] at hintime
          simp only [SocketPath.call, hpoint, Bool.false_eq_true, if_false] at hstep
          split at hstep
          · rename_i habsent
            obtain rfl := Option.some.inj hstep
            exact h.bind habsent (hintime habsent)
          · obtain rfl := Option.some.inj hstep
            exact hended
  | chmod =>
      simp only [SocketPath.call, hpoint] at hstep
      obtain rfl := Option.some.inj hstep
      exact h.goto_bound (by rw [hpoint]; rfl) rfl
  | listen =>
      simp only [SocketPath.call, hpoint] at hstep
      obtain rfl := Option.some.inj hstep
      split
      · exact h.close (by rw [hpoint]; rfl) rfl
      · exact h.goto_bound (by rw [hpoint]; rfl) rfl
  | unlinkFailed =>
      simp only [SocketPath.call, hpoint] at hstep
      obtain rfl := Option.some.inj hstep
      exact h.unlinks fails (by rw [hpoint]; rfl) rfl
  | unlinkBound =>
      simp only [SocketPath.call, hpoint] at hstep
      obtain rfl := Option.some.inj hstep
      exact h.unlinks fails (by rw [hpoint]; rfl) rfl
  | serving => simp [SocketPath.call, hpoint] at hstep
  | ended => simp [SocketPath.call, hpoint] at hstep

theorem Inv.step {event : PathEvent} (h : s.Inv) (hintime : s.InTime event)
    (hstep : s.step event = some t) : t.Inv := by
  cases event with
  | call number fails => exact h.call hintime hstep
  | stop number =>
      simp only [SocketPath.step] at hstep
      split at hstep
      · rename_i hserving
        obtain rfl := Option.some.inj hstep
        exact h.close (by rw [hserving]; rfl) rfl
      · cases hstep
  | kill number =>
      obtain rfl := Option.some.inj hstep
      exact h.goto_free rfl (by simp [PathPoint.unlinks])

/-- An `unlink` of a live socket. -/
theorem steals (hpoint : (s.processes number).unlinks) (hheld : s.held) :
    ∃ u, s.step (.call number false) = some u ∧ ¬ u.Safe := by
  have hstolen (next : PathPoint) : ¬ (s.unlink.goto number next).Safe := by
    intro hsafe
    have hkept : (s.stolen || s.held) = false := hsafe.kept
    simp [hheld] at hkept
  cases hnow : s.processes number with
  | unlinkStale => exact ⟨_, by simp only [step, call, hnow]; rfl, hstolen .bind⟩
  | unlinkFailed => exact ⟨_, by simp only [step, call, hnow]; rfl, hstolen .ended⟩
  | unlinkBound => exact ⟨_, by simp only [step, call, hnow]; rfl, hstolen .ended⟩
  | _ => simp [hnow, PathPoint.unlinks] at hpoint

/-- After a probe at the wrong time the process unlinks what it has found. -/
theorem steals_connect {owner : SocketOwner} (hpoint : s.processes number = .connect)
    (hentry : s.entry = .socket owner) (hrefused : s.accepts owner = false)
    (hheld : s.holds owner) (hstep : s.call number false = some t) :
    ∃ u, t.step (.call number false) = some u ∧ ¬ u.Safe := by
  simp only [call, hpoint, hentry, hrefused, Bool.false_eq_true, if_false] at hstep
  obtain rfl := Option.some.inj hstep
  refine steals (by rw [goto_self]; rfl) ?_
  have hsocket : (s.goto number .unlinkStale).entry = .socket owner := hentry
  simp only [held, hsocket]
  cases owner with
  | foreign live listening => exact hheld
  | process other =>
      have hother : other ≠ number := by
        rintro rfl
        simp [holds, hpoint, PathPoint.bound] at hheld
      simpa only [holds, goto_other hother] using hheld

/-- After a `bind` at the wrong time the process that was about to unlink the path does it. -/
theorem steals_bind {other : Nat} (hpoint : s.processes number = .bind)
    (habsent : s.entry = .absent) (hother : (s.processes other).unlinks)
    (hstep : s.call number false = some t) :
    ∃ u, t.step (.call other false) = some u ∧ ¬ u.Safe := by
  simp only [call, hpoint, habsent, Bool.false_eq_true, if_false] at hstep
  obtain rfl := Option.some.inj hstep
  have hne : other ≠ number := by
    rintro rfl
    simp [hpoint, PathPoint.unlinks] at hother
  refine steals (by rwa [goto_other hne]) ?_
  change ((SocketPath.goto number .chmod _).processes number).bound
  rw [goto_self]
  rfl

theorem steals_of_late {event : PathEvent} (hstep : s.step event = some t)
    (hlate : ¬ s.InTime event) : ∃ next u, t.step next = some u ∧ ¬ u.Safe := by
  cases event with
  | stop number => exact absurd trivial hlate
  | kill number => exact absurd trivial hlate
  | call number fails =>
      cases fails with
      | true => exact absurd trivial hlate
      | false =>
          cases hpoint : s.processes number with
          | connect =>
              simp only [InTime, hpoint, not_forall, Bool.not_eq_false] at hlate
              obtain ⟨owner, hentry, hrefused, hheld⟩ := hlate
              exact ⟨_, steals_connect hpoint hentry hrefused hheld hstep⟩
          | bind =>
              simp only [InTime, hpoint, not_forall, Bool.not_eq_false] at hlate
              obtain ⟨habsent, other, hother⟩ := hlate
              exact ⟨_, steals_bind hpoint habsent hother hstep⟩
          | _ => exact absurd trivial (by simpa only [InTime, hpoint] using hlate)

/-- As long as every probe and every `bind` is in time, in every run from any state of the path,
no live socket is taken and every server stays reachable; and the first that is not may be followed
by an `unlink` of a live socket. -/
theorem safe_inTime {entry : PathEntry} {events : List PathEvent} {last : SocketPath}
    (hrun : Exec (Guarded (Step step) InTime) (start entry) events last) :
    last.Safe ∧ ∀ event t, last.step event = some t → ¬ last.InTime event →
      ∃ next u, t.step next = some u ∧ ¬ u.Safe := by
  have hinv : last.Inv := hrun.invariant (fun _ _ _ hs hstep => Inv.step hs hstep.2 hstep.1)
    (start_inv entry)
  refine ⟨hinv.safe, ?_⟩
  intro event t hstep hlate
  exact steals_of_late hstep hlate

/-- The second process probes the socket of the first before `listen`, and takes it. -/
def raced : List PathEvent :=
  [.call 0 false, .call 0 false, .call 1 false, .call 1 false, .call 1 false, .call 1 false,
    .call 0 false, .call 0 false]

theorem raced_steals :
    ∃ last, Exec (Step step) (start .absent) raced last ∧ last.processes 0 = .serving ∧
      last.entry = .socket (.process 1) ∧ last.stolen ∧ ¬ last.Safe := by
  refine ⟨_, .cons rfl (.cons rfl (.cons rfl (.cons rfl (.cons rfl (.cons rfl (.cons rfl
    (.cons rfl (.nil _)))))))), rfl, rfl, rfl, ?_⟩
  intro hsafe
  exact absurd hsafe.kept (by decide)

/-- A server starts where a stale socket is, and a second process finds it. -/
def inTurn : List PathEvent :=
  [.call 0 false, .call 0 false, .call 0 false, .call 0 false, .call 0 false, .call 0 false,
    .call 1 false, .call 1 false]

theorem safe_inTime_sample :
    ∃ last, Exec (Guarded (Step step) InTime) (start (.socket (.foreign false false))) inTurn last ∧
      last.processes 0 = .serving ∧ last.processes 1 = .ended ∧ last.Safe := by
  have hrun : ∃ last, Exec (Guarded (Step step) InTime)
      (start (.socket (.foreign false false))) inTurn last ∧
      last.processes 0 = .serving ∧ last.processes 1 = .ended := by
    refine ⟨_, .cons ⟨rfl, trivial⟩ (.cons ⟨rfl, ?_⟩ (.cons ⟨rfl, trivial⟩ (.cons ⟨rfl, ?_⟩
      (.cons ⟨rfl, trivial⟩ (.cons ⟨rfl, trivial⟩ (.cons ⟨rfl, trivial⟩ (.cons ⟨rfl, ?_⟩
        (.nil _)))))))), ?_, ?_⟩
    · rintro owner ⟨⟩ _
      rfl
    · intro _ other
      cases other with
      | zero => rfl
      | succ other => rfl
    · rintro owner ⟨⟩ haccepts
      exact absurd haccepts (by decide)
    · rfl
    · rfl
  obtain ⟨last, hrun, hserving, hended⟩ := hrun
  exact ⟨last, hrun, hserving, hended, (safe_inTime hrun).1⟩

end SocketPath

end Browserd.Posix
