import Browserd.Embed.RunLifecycle

/-!
# One run for each process

`TryBeginRun` lets one call in. What every other call does before it returns touches nothing but
the lock, at whatever point of the first call it comes.
-/

namespace Browserd

open Transition

namespace RunStage

def holdsLock : RunStage → Bool
  | testLifecycle | leaveTryBegin _ | stop _ | leaveFinishRun _ => true
  | _ => false

/-- The stages that lead to a rejection. -/
def outside : RunStage → Bool
  | called | tryBegin | testLifecycle | leaveTryBegin false => true
  | returned code => code == EmbedSession.kScheduleRejected
  | _ => false

/-- How many steps a call that is not let in has before it. -/
def stepsLeft : RunStage → Nat
  | called => 4
  | tryBegin => 3
  | testLifecycle => 2
  | leaveTryBegin _ => 1
  | _ => 0

end RunStage

/-- Where a call can be, whatever the others do. -/
structure RunCall.Placed (c : RunCall) : Prop where
  outside : c.begun = false → c.stage.outside ∧ c.readyRuns = 0
  inside : c.begun → c.stage.outside → ∃ code, c.stage = .returned code
  null : c.ready = false →
    c.begun = false ∧ (c.stage = .called ∨ c.stage = .returned EmbedSession.kScheduleRejected)

namespace RunCall.Placed

variable {c : RunCall}

theorem begun_false (h : c.Placed) (hstage : c.stage.outside)
    (hopen : ∀ code, c.stage ≠ .returned code) : c.begun = false := by
  cases hbegun : c.begun with
  | false => rfl
  | true =>
      obtain ⟨code, hcode⟩ := h.inside hbegun hstage
      exact absurd hcode (hopen code)

theorem begun_true (h : c.Placed) (hstage : c.stage.outside = false) : c.begun := by
  by_contra hbegun
  have hout := (h.outside (by simpa using hbegun)).1
  simp [hstage] at hout

/-- A call that has not been let in goes on outside. -/
theorem goto_outside {stage : RunStage} (h : c.Placed) (hstage : c.stage.outside)
    (hopen : ∀ code, c.stage ≠ .returned code) (hnext : stage.outside)
    (hnull : c.ready = false → stage = .returned EmbedSession.kScheduleRejected) :
    Placed { c with stage := stage } := by
  have hbegun := h.begun_false hstage hopen
  apply Placed.mk
  · intro _
    exact ⟨hnext, (h.outside hbegun).2⟩
  · intro hin
    exact absurd (hbegun.symm.trans hin) Bool.false_ne_true
  · intro hready
    exact ⟨hbegun, .inr (hnull hready)⟩

/-- A call that has been let in goes on inside until it returns. -/
theorem goto_inside {stage : RunStage} (h : c.Placed) (hstage : c.stage.outside = false)
    (hnext : stage.outside → ∃ code, stage = .returned code) :
    Placed { c with stage := stage } := by
  have hbegun := h.begun_true hstage
  apply Placed.mk
  · intro hout
    simp [hbegun] at hout
  · intro _
    exact hnext
  · intro hready
    exact absurd ((h.null hready).1.symm.trans hbegun) Bool.false_ne_true

/-- A call past the test of its callback has one. -/
theorem ready (h : c.Placed) (hcalled : c.stage ≠ .called)
    (hopen : ∀ code, c.stage ≠ .returned code) : c.ready := by
  by_contra hready
  rcases (h.null (by simpa using hready)).2 with hstage | hstage
  · exact hcalled hstage
  · exact hopen _ hstage

end RunCall.Placed

namespace EmbedProcess

/-- `TryBeginRun` has let the call at `i` in. -/
def BegunAt (s : EmbedProcess) (i : Nat) : Prop := ∃ c, s.calls[i]? = some c ∧ c.begun

/-- What the promise of a single run says of a state and of the steps it can take. -/
structure SingleRun (platform : Platform) (s : EmbedProcess) : Prop where
  once : ∀ i j, s.BegunAt i → s.BegunAt j → i = j
  rejected : ∀ c ∈ s.calls, c.begun = false → c.readyRuns = 0 ∧
    ∀ code, c.stage = .returned code → code = EmbedSession.kScheduleRejected
  /-- A call that is not let in changes nothing of the running instance. -/
  undisturbed : ∀ i c t, s.calls[i]? = some c → c.begun = false →
    s.step platform (.advance i) = some t →
      t.commandLine = s.commandLine ∧ t.policy = s.policy ∧ t.environment = s.environment
  /-- Nor does it enter `content::ContentMain`. -/
  barred : ∀ i c event, s.calls[i]? = some c → c.begun = false →
    s.step platform (.contentMain i event) = none
  /-- It waits for nothing but the lock, whose holder can go on. -/
  waits : ∀ i c, s.calls[i]? = some c → c.begun = false →
    c.stage = .returned EmbedSession.kScheduleRejected ∨
      ∃ j, (j = i ∨ s.lock = some j) ∧ (s.step platform (.advance j)).isSome
  /-- Each of its steps brings it nearer to its return. -/
  nears : ∀ i c t, s.calls[i]? = some c → c.begun = false →
    s.step platform (.advance i) = some t →
      ∃ c', t.calls[i]? = some c' ∧ (c'.begun ∨ c'.stage.stepsLeft < c.stage.stepsLeft)
  null : ∀ c ∈ s.calls, c.ready = false → c.begun = false
  /-- As long as every callback was null, the next call that brings one is let in. -/
  unused : (∀ c ∈ s.calls, c.ready = false) → ∀ config, ∃ t,
    Exec (Step (step platform)) s
        [.call config true, .advance s.calls.length, .advance s.calls.length,
          .advance s.calls.length] t ∧
      t.BegunAt s.calls.length

structure Inv (s : EmbedProcess) : Prop where
  placed : ∀ (i : Nat) (c : RunCall), s.calls[i]? = some c → c.Placed
  holds : ∀ (i : Nat) (c : RunCall), s.calls[i]? = some c → (c.stage.holdsLock ↔ s.lock = some i)
  holder : ∀ i, s.lock = some i → i < s.calls.length
  once : ∀ i j, s.BegunAt i → s.BegunAt j → i = j
  unused : s.lifecycle = .kNotStarted ↔ ∀ i, ¬ s.BegunAt i

variable {platform : Platform} {s t : EmbedProcess} {i : Nat} {c c' : RunCall}

theorem start_inv (commandLine : Option CommandLine) (environment : Environment) :
    (start commandLine environment).Inv where
  placed := by simp [start]
  holds := by simp [start]
  holder := by simp [start]
  once := by simp [start, BegunAt]
  unused := by simp [start, BegunAt]

/-- One call moves; it may be let in by this step. -/
theorem Inv.set (h : s.Inv) (hc : s.calls[i]? = some c) (hcalls : t.calls = s.calls.set i c')
    (hplaced : c'.Placed) (hholds : c'.stage.holdsLock ↔ t.lock = some i)
    (hlock : ∀ j ≠ i, t.lock = some j ↔ s.lock = some j)
    (hbegun : c'.begun → c.begun ∨ s.lifecycle = .kNotStarted) (hkept : c.begun → c'.begun)
    (hlife : t.lifecycle = .kNotStarted ↔ s.lifecycle = .kNotStarted ∧ c'.begun = false) :
    t.Inv := by
  have hi : i < s.calls.length := (List.getElem?_eq_some_iff.mp hc).1
  have hself : t.calls[i]? = some c' := by rw [hcalls, List.getElem?_set_self hi]
  have hother (j : Nat) (hj : j ≠ i) : t.calls[j]? = s.calls[j]? := by
    rw [hcalls, List.getElem?_set_ne (Ne.symm hj)]
  have hbegunOther (j : Nat) (hj : j ≠ i) : t.BegunAt j ↔ s.BegunAt j := by
    simp only [BegunAt, hother j hj]
  have hbegunSelf : t.BegunAt i ↔ c'.begun := by simp [BegunAt, hself]
  -- Who is let in when nobody was before is the only one.
  have hfirst (j : Nat) (hj : j ≠ i) (hself : t.BegunAt i) : ¬ t.BegunAt j := by
    rw [hbegunOther j hj]
    intro hbefore
    rcases hbegun (hbegunSelf.mp hself) with hc' | hnot
    · exact hj (h.once j i hbefore ⟨c, hc, hc'⟩)
    · exact h.unused.mp hnot j hbefore
  apply Inv.mk
  · intro j d hd
    by_cases hj : j = i
    · subst hj
      obtain rfl := Option.some.inj (hself.symm.trans hd)
      exact hplaced
    · exact h.placed j d ((hother j hj).symm.trans hd)
  · intro j d hd
    by_cases hj : j = i
    · subst hj
      obtain rfl := Option.some.inj (hself.symm.trans hd)
      exact hholds
    · rw [hlock j hj]
      exact h.holds j d ((hother j hj).symm.trans hd)
  · intro j hj
    rw [hcalls, List.length_set]
    by_cases hji : j = i
    · exact hji ▸ hi
    · exact h.holder j ((hlock j hji).mp hj)
  · intro j k hj hk
    by_cases hji : j = i
    · subst hji
      by_contra hne
      exact hfirst k (Ne.symm hne) hj hk
    · by_cases hki : k = i
      · subst hki
        exact absurd hj (hfirst j hji hk)
      · exact h.once j k ((hbegunOther j hji).mp hj) ((hbegunOther k hki).mp hk)
  · rw [hlife, h.unused]
    constructor
    · intro hnone j
      by_cases hj : j = i
      · subst hj
        rw [hbegunSelf, hnone.2]
        exact Bool.false_ne_true
      · rw [hbegunOther j hj]
        exact hnone.1 j
    · intro hnone
      constructor
      · intro j hj
        by_cases hji : j = i
        · subst hji
          obtain ⟨d, hd, hdbegun⟩ := hj
          obtain rfl := Option.some.inj (hc.symm.trans hd)
          exact hnone j (hbegunSelf.mpr (hkept hdbegun))
        · exact hnone j ((hbegunOther j hji).mpr hj)
      · exact Bool.eq_false_iff.mpr (mt hbegunSelf.mpr (hnone i))

/-- A call that was or was not let in moves on, and the lock with it. -/
theorem Inv.move (h : s.Inv) (hc : s.calls[i]? = some c) (hcalls : t.calls = s.calls.set i c')
    (hplaced : c'.Placed) (hbegun : c'.begun = c.begun)
    (hlife : t.lifecycle = .kNotStarted ↔ s.lifecycle = .kNotStarted)
    (hlock : (c'.stage.holdsLock = c.stage.holdsLock ∧ t.lock = s.lock) ∨
      (c'.stage.holdsLock = true ∧ s.lock = none ∧ t.lock = some i) ∨
      (c'.stage.holdsLock = false ∧ c.stage.holdsLock = true ∧ t.lock = none)) :
    t.Inv := by
  have hholds := h.holds i c hc
  refine h.set hc hcalls hplaced ?_ ?_ (fun hin => .inl (hbegun ▸ hin)) (fun hin => hbegun ▸ hin) ?_
  · rcases hlock with ⟨hsame, hlock⟩ | ⟨hnew, _, hlock⟩ | ⟨hnew, _, hlock⟩
    · rw [hsame, hlock]
      exact hholds
    · exact iff_of_true hnew hlock
    · simp [hnew, hlock]
  · intro j hj
    rcases hlock with ⟨_, hlock⟩ | ⟨_, hfree, hlock⟩ | ⟨_, hheld, hlock⟩
    · rw [hlock]
    · simp [hfree, hlock, Ne.symm hj]
    · simp [hholds.mp hheld, hlock, Ne.symm hj]
  · rw [hlife, hbegun]
    constructor
    · intro hnone
      refine ⟨hnone, Bool.eq_false_iff.mpr ?_⟩
      intro hin
      exact h.unused.mp hnone i ⟨c, hc, hin⟩
    · exact And.left

/-- A step inside that leaves the lock and the lifecycle. -/
theorem Inv.inside {stage : RunStage} (h : s.Inv) (hc : s.calls[i]? = some c)
    (hstage : c.stage.outside = false) (hfree : c.stage.holdsLock = false)
    (hcalls : t.calls = s.calls.set i { c with stage := stage })
    (hnext : stage.outside = false) (hkeep : stage.holdsLock = false)
    (hlock : t.lock = s.lock) (hlife : t.lifecycle = s.lifecycle) : t.Inv := by
  have hplaced : RunCall.Placed { c with stage := stage } :=
    (h.placed i c hc).goto_inside hstage fun hout =>
      absurd (hnext.symm.trans hout) Bool.false_ne_true
  exact h.move hc hcalls hplaced rfl (by rw [hlife]) (.inl ⟨hkeep.trans hfree.symm, hlock⟩)

theorem Inv.tryBeginRun (h : s.Inv) (hc : s.calls[i]? = some c) (hstage : c.stage = .testLifecycle)
    (hstep : s.advance platform i c = some t) : t.Inv := by
  have hplaced := h.placed i c hc
  have hout : c.stage.outside := by rw [hstage]; rfl
  have hopen : ∀ code, c.stage ≠ .returned code := by simp [hstage]
  have hready : c.ready := hplaced.ready (by simp [hstage]) hopen
  have hholds : s.lock = some i := (h.holds i c hc).mp (by rw [hstage]; rfl)
  simp only [EmbedProcess.advance, hstage] at hstep
  split at hstep
  · obtain rfl := Option.some.inj hstep
    refine h.move hc rfl ?_ rfl .rfl (.inl ⟨?_, rfl⟩)
    · exact hplaced.goto_outside hout hopen rfl (by simp [hready])
    · rw [hstage]
      rfl
  · rename_i hnot
    obtain rfl := Option.some.inj hstep
    refine h.set hc rfl ?_ (iff_of_true rfl hholds) (fun _ _ => .rfl)
      (fun _ => .inr (not_not.mp hnot)) (fun _ => rfl) ?_
    · exact ⟨by simp, by simp [RunStage.outside], by simp [hready]⟩
    · simp

theorem Inv.advance (h : s.Inv) (hc : s.calls[i]? = some c)
    (hstep : s.advance platform i c = some t) : t.Inv := by
  have hplaced := h.placed i c hc
  cases hstage : c.stage with
  | called =>
      simp only [EmbedProcess.advance, hstage] at hstep
      obtain rfl := Option.some.inj hstep
      refine h.move hc rfl ?_ rfl .rfl (.inl ⟨?_, rfl⟩)
      · apply hplaced.goto_outside (by rw [hstage]; rfl) (by simp [hstage])
        · cases c.ready <;> rfl
        · intro hready
          simp [hready]
      · rw [hstage]
        cases c.ready <;> rfl
  | tryBegin =>
      simp only [EmbedProcess.advance, hstage] at hstep
      split at hstep
      · cases hstep
      · rename_i hfree
        obtain rfl := Option.some.inj hstep
        have hopen : ∀ code, c.stage ≠ .returned code := by simp [hstage]
        have hready : c.ready := hplaced.ready (by simp [hstage]) hopen
        refine h.move hc rfl ?_ rfl .rfl (.inr (.inl ⟨rfl, by simpa using hfree, rfl⟩))
        exact hplaced.goto_outside (by rw [hstage]; rfl) hopen rfl (by simp [hready])
  | testLifecycle => exact h.tryBeginRun hc hstage hstep
  | leaveTryBegin begun =>
      simp only [EmbedProcess.advance, hstage] at hstep
      obtain rfl := Option.some.inj hstep
      refine h.move hc rfl ?_ rfl .rfl (.inr (.inr ⟨?_, by rw [hstage]; rfl, rfl⟩))
      · cases begun with
        | true => exact hplaced.goto_inside (by rw [hstage]; rfl) (by simp [RunStage.outside])
        | false =>
            exact hplaced.goto_outside (by rw [hstage]; rfl) (by simp [hstage]) rfl fun _ => rfl
      · cases begun <;> rfl
  | ensureCommandLine =>
      simp only [EmbedProcess.advance, hstage] at hstep
      obtain rfl := Option.some.inj hstep
      exact h.inside hc (by rw [hstage]; rfl) (by rw [hstage]; rfl) rfl rfl rfl rfl rfl
  | setSwitches =>
      simp only [EmbedProcess.advance, hstage] at hstep
      obtain rfl := Option.some.inj hstep
      exact h.inside hc (by rw [hstage]; rfl) (by rw [hstage]; rfl) rfl rfl rfl rfl rfl
  | appendSwitches =>
      simp only [EmbedProcess.advance, hstage] at hstep
      obtain rfl := Option.some.inj hstep
      exact h.inside hc (by rw [hstage]; rfl) (by rw [hstage]; rfl) rfl rfl rfl rfl rfl
  | appendGui =>
      simp only [EmbedProcess.advance, hstage] at hstep
      obtain rfl := Option.some.inj hstep
      split <;> exact h.inside hc (by rw [hstage]; rfl) (by rw [hstage]; rfl) rfl rfl rfl rfl rfl
  | appendUserDataDir =>
      simp only [EmbedProcess.advance, hstage] at hstep
      obtain rfl := Option.some.inj hstep
      split <;> exact h.inside hc (by rw [hstage]; rfl) (by rw [hstage]; rfl) rfl rfl rfl rfl rfl
  | askGui =>
      simp only [EmbedProcess.advance, hstage] at hstep
      obtain rfl := Option.some.inj hstep
      exact h.inside hc (by rw [hstage]; rfl) (by rw [hstage]; rfl) rfl rfl rfl rfl rfl
  | applyDefaults requestedGui =>
      simp only [EmbedProcess.advance, hstage] at hstep
      obtain rfl := Option.some.inj hstep
      exact h.inside hc (by rw [hstage]; rfl) (by rw [hstage]; rfl) rfl rfl rfl rfl rfl
  | contentMain gui => simp [EmbedProcess.advance, hstage] at hstep
  | finishRun exitCode =>
      simp only [EmbedProcess.advance, hstage] at hstep
      split at hstep
      · cases hstep
      · rename_i hfree
        obtain rfl := Option.some.inj hstep
        refine h.move hc rfl ?_ rfl .rfl (.inr (.inl ⟨rfl, by simpa using hfree, rfl⟩))
        exact hplaced.goto_inside (by rw [hstage]; rfl) (by simp [RunStage.outside])
  | stop exitCode =>
      have hin : c.stage.outside = false := by rw [hstage]; rfl
      -- The lifecycle is past `kNotStarted`, since this call has been let in.
      have hstarted : s.lifecycle ≠ .kNotStarted := by
        intro hnot
        exact h.unused.mp hnot i ⟨c, hc, hplaced.begun_true hin⟩
      simp only [EmbedProcess.advance, hstage] at hstep
      obtain rfl := Option.some.inj hstep
      have hmoved : RunCall.Placed { c with stage := .leaveFinishRun exitCode } :=
        hplaced.goto_inside hin (by simp [RunStage.outside])
      split
      · exact h.move hc rfl hmoved rfl (by simpa using hstarted) (.inl ⟨by rw [hstage]; rfl, rfl⟩)
      · exact h.move hc rfl hmoved rfl .rfl (.inl ⟨by rw [hstage]; rfl, rfl⟩)
  | leaveFinishRun exitCode =>
      simp only [EmbedProcess.advance, hstage] at hstep
      obtain rfl := Option.some.inj hstep
      refine h.move hc rfl ?_ rfl .rfl (.inr (.inr ⟨rfl, by rw [hstage]; rfl, rfl⟩))
      exact hplaced.goto_inside (by rw [hstage]; rfl) (by simp [RunStage.outside])
  | clearSwitches exitCode =>
      simp only [EmbedProcess.advance, hstage] at hstep
      obtain rfl := Option.some.inj hstep
      refine h.move hc rfl ?_ rfl .rfl (.inl ⟨by rw [hstage]; rfl, rfl⟩)
      exact hplaced.goto_inside (by rw [hstage]; rfl) fun _ => ⟨exitCode, rfl⟩
  | returned code => simp [EmbedProcess.advance, hstage] at hstep

/-- A new call holds nothing and has done nothing. -/
theorem Inv.call (config : Option BrowserdConfig) (ready : Bool) (h : s.Inv) :
    Inv { s with calls := s.calls ++ [⟨config, ready, .called, false, 0⟩] } := by
  have hat (j : Nat) (d : RunCall)
      (hd : (s.calls ++ [⟨config, ready, .called, false, 0⟩])[j]? = some d) :
      s.calls[j]? = some d ∨ (j = s.calls.length ∧ d = ⟨config, ready, .called, false, 0⟩) := by
    rw [List.getElem?_append] at hd
    split at hd
    · exact .inl hd
    · rename_i hj
      have hzero : j - s.calls.length = 0 := by
        by_contra hne
        simp [hne] at hd
      rw [hzero] at hd
      exact .inr ⟨by omega, (Option.some.inj hd).symm⟩
  have hbegun (j : Nat) :
      BegunAt { s with calls := s.calls ++ [⟨config, ready, .called, false, 0⟩] } j ↔
        s.BegunAt j := by
    constructor
    · rintro ⟨d, hd, hin⟩
      rcases hat j d hd with hd | ⟨_, rfl⟩
      · exact ⟨d, hd, hin⟩
      · exact absurd hin Bool.false_ne_true
    · rintro ⟨d, hd, hin⟩
      exact ⟨d, List.getElem?_append_left (List.getElem?_eq_some_iff.mp hd).1 ▸ hd, hin⟩
  apply Inv.mk
  · intro j d hd
    rcases hat j d hd with hd | ⟨_, rfl⟩
    · exact h.placed j d hd
    · exact ⟨fun _ => ⟨rfl, rfl⟩, by simp, fun _ => ⟨rfl, .inl rfl⟩⟩
  · intro j d hd
    rcases hat j d hd with hd | ⟨rfl, rfl⟩
    · exact h.holds j d hd
    · refine iff_of_false Bool.false_ne_true ?_
      intro hlock
      exact absurd (h.holder _ hlock) (Nat.lt_irrefl _)
  · intro j hj
    rw [List.length_append]
    exact Nat.lt_add_right _ (h.holder j hj)
  · intro j k hj hk
    exact h.once j k ((hbegun j).mp hj) ((hbegun k).mp hk)
  · simp only [hbegun]
    exact h.unused

theorem Inv.content {event : ContentEvent} {gui : Option RuntimeOptions} (h : s.Inv)
    (hc : s.calls[i]? = some c) (hstage : c.stage = .contentMain gui)
    (hstep : s.content i c event = some t) : t.Inv := by
  have hplaced := h.placed i c hc
  have hin : c.stage.outside = false := by rw [hstage]; rfl
  cases event with
  | ready =>
      simp only [EmbedProcess.content] at hstep
      split at hstep
      · obtain rfl := Option.some.inj hstep
        refine h.move hc rfl ?_ rfl .rfl (.inl ⟨rfl, rfl⟩)
        refine ⟨?_, hplaced.inside, hplaced.null⟩
        intro hout
        exact absurd (hout.symm.trans (hplaced.begun_true hin)) Bool.false_ne_true
      · cases hstep
  | appendSwitch name value =>
      obtain rfl := Option.some.inj hstep
      exact ⟨h.placed, h.holds, h.holder, h.once, h.unused⟩
  | returns exitCode =>
      obtain rfl := Option.some.inj hstep
      exact h.inside hc hin (by rw [hstage]; rfl) rfl rfl rfl rfl rfl

theorem Inv.step {event : RunEvent} (h : s.Inv) (hstep : s.step platform event = some t) :
    t.Inv := by
  cases event with
  | call config ready =>
      obtain rfl := Option.some.inj hstep
      exact h.call config ready
  | advance i =>
      simp only [EmbedProcess.step] at hstep
      cases hc : s.calls[i]? with
      | none => simp [hc] at hstep
      | some c =>
          simp only [hc] at hstep
          exact h.advance hc hstep
  | contentMain i event =>
      simp only [EmbedProcess.step] at hstep
      cases hc : s.calls[i]? with
      | none => simp [hc] at hstep
      | some c =>
          simp only [hc] at hstep
          split at hstep
          · rename_i gui hstage
            exact h.content hc hstage hstep
          · cases hstep
  | shutdown =>
      simp only [EmbedProcess.step] at hstep
      split at hstep
      · obtain rfl := Option.some.inj hstep
        exact ⟨h.placed, h.holds, h.holder, h.once, h.unused⟩
      · cases hstep

/-- What a call does that is not let in. -/
theorem Inv.advance_outside (h : s.Inv) (hc : s.calls[i]? = some c) (hbegun : c.begun = false)
    (hstep : s.advance platform i c = some t) :
    (t.commandLine = s.commandLine ∧ t.policy = s.policy ∧ t.environment = s.environment) ∧
      ∃ c', t.calls[i]? = some c' ∧ (c'.begun ∨ c'.stage.stepsLeft < c.stage.stepsLeft) := by
  have hi : i < s.calls.length := (List.getElem?_eq_some_iff.mp hc).1
  have hset (c' : RunCall) : (s.calls.set i c')[i]? = some c' := List.getElem?_set_self hi
  have hout := ((h.placed i c hc).outside hbegun).1
  cases hstage : c.stage with
  | called =>
      simp only [EmbedProcess.advance, hstage] at hstep
      obtain rfl := Option.some.inj hstep
      refine ⟨⟨rfl, rfl, rfl⟩, _, hset _, .inr ?_⟩
      cases c.ready <;> simp [RunStage.stepsLeft]
  | tryBegin =>
      simp only [EmbedProcess.advance, hstage] at hstep
      split at hstep
      · cases hstep
      · obtain rfl := Option.some.inj hstep
        exact ⟨⟨rfl, rfl, rfl⟩, _, hset _, .inr (by simp [RunStage.stepsLeft])⟩
  | testLifecycle =>
      simp only [EmbedProcess.advance, hstage] at hstep
      split at hstep
      · obtain rfl := Option.some.inj hstep
        exact ⟨⟨rfl, rfl, rfl⟩, _, hset _, .inr (by simp [RunStage.stepsLeft])⟩
      · obtain rfl := Option.some.inj hstep
        exact ⟨⟨rfl, rfl, rfl⟩, _, hset _, .inl rfl⟩
  | leaveTryBegin begun =>
      simp only [EmbedProcess.advance, hstage] at hstep
      obtain rfl := Option.some.inj hstep
      refine ⟨⟨rfl, rfl, rfl⟩, _, hset _, .inr ?_⟩
      cases begun <;> simp [RunStage.stepsLeft]
  | returned code => simp [EmbedProcess.advance, hstage] at hstep
  | _ => simp [RunStage.outside, hstage] at hout

/-- The holder of the lock can go on. -/
theorem advance_holder (hheld : c.stage.holdsLock) : (s.advance platform i c).isSome := by
  cases hstage : c.stage with
  | testLifecycle =>
      simp only [EmbedProcess.advance, hstage]
      split <;> rfl
  | leaveTryBegin begun => simp [EmbedProcess.advance, hstage]
  | stop exitCode => simp [EmbedProcess.advance, hstage]
  | leaveFinishRun exitCode => simp [EmbedProcess.advance, hstage]
  | _ => simp [RunStage.holdsLock, hstage] at hheld

/-- While the lock is free a call that is not let in can go on until it has returned. -/
theorem advance_free (hout : c.stage.outside) (hfree : s.lock = none)
    (hopen : ∀ code, c.stage ≠ .returned code) : (s.advance platform i c).isSome := by
  cases hstage : c.stage with
  | called => simp [EmbedProcess.advance, hstage]
  | tryBegin => simp [EmbedProcess.advance, hstage, hfree]
  | testLifecycle => exact advance_holder (by rw [hstage]; rfl)
  | leaveTryBegin begun => exact advance_holder (by rw [hstage]; rfl)
  | returned code => exact absurd hstage (hopen code)
  | _ => simp [RunStage.outside, hstage] at hout

theorem step_advance (hc : s.calls[i]? = some c) :
    s.step platform (.advance i) = s.advance platform i c := by
  simp [step, hc]

theorem Inv.waits (h : s.Inv) (hc : s.calls[i]? = some c) (hbegun : c.begun = false) :
    c.stage = .returned EmbedSession.kScheduleRejected ∨
      ∃ j, (j = i ∨ s.lock = some j) ∧ (s.step platform (.advance j)).isSome := by
  have hout := ((h.placed i c hc).outside hbegun).1
  by_cases hopen : ∀ code, c.stage ≠ .returned code
  · right
    cases hlock : s.lock with
    | none =>
        refine ⟨i, .inl rfl, ?_⟩
        rw [step_advance hc]
        exact advance_free hout hlock hopen
    | some j =>
        have hj := h.holder j hlock
        have hd : s.calls[j]? = some s.calls[j] := List.getElem?_eq_getElem hj
        refine ⟨j, .inr rfl, ?_⟩
        rw [step_advance hd]
        exact advance_holder ((h.holds j _ hd).mpr hlock)
  · left
    obtain ⟨code, hcode⟩ := not_forall_not.mp hopen
    have hrejected : code = EmbedSession.kScheduleRejected := by
      simpa [RunStage.outside, hcode] using hout
    rw [hcode, hrejected]

/-- Nobody has got past the test of the callback, so that the lock and the start are free. -/
theorem Inv.unstarted (h : s.Inv) (hnull : ∀ c ∈ s.calls, c.ready = false) :
    s.lock = none ∧ s.lifecycle = .kNotStarted := by
  constructor
  · cases hlock : s.lock with
    | none => rfl
    | some j =>
        have hj := h.holder j hlock
        have hd : s.calls[j]? = some s.calls[j] := List.getElem?_eq_getElem hj
        have hheld := (h.holds j _ hd).mpr hlock
        rcases ((h.placed j _ hd).null (hnull _ (List.getElem_mem hj))).2 with hstage | hstage
        · simp [hstage, RunStage.holdsLock] at hheld
        · simp [hstage, RunStage.holdsLock] at hheld
  · refine h.unused.mpr ?_
    rintro j ⟨d, hd, hin⟩
    have hout := ((h.placed j d hd).null (hnull d (List.mem_of_getElem? hd))).1
    exact absurd (hout.symm.trans hin) Bool.false_ne_true

/-- The next call with a callback runs `TryBeginRun`. -/
theorem begins (config : Option BrowserdConfig) (hlock : s.lock = none)
    (hlife : s.lifecycle = .kNotStarted) :
    ∃ t, Exec (Step (step platform)) s
        [.call config true, .advance s.calls.length, .advance s.calls.length,
          .advance s.calls.length] t ∧
      t.BegunAt s.calls.length := by
  let at' (stage : RunStage) : RunCall := ⟨config, true, stage, false, 0⟩
  have hlast (d : RunCall) : (s.calls ++ [d])[s.calls.length]? = some d :=
    List.getElem?_concat_length
  have hset (d d' : RunCall) : (s.calls ++ [d]).set s.calls.length d' = s.calls ++ [d'] := by
    simp [List.set_append_right]
  have hready : step platform { s with calls := s.calls ++ [at' .called] }
      (.advance s.calls.length) = some { s with calls := s.calls ++ [at' .tryBegin] } := by
    simp only [step, hlast, advance, at', goto, hset, if_true]
  have htake : step platform { s with calls := s.calls ++ [at' .tryBegin] }
      (.advance s.calls.length) =
        some { s with lock := some s.calls.length, calls := s.calls ++ [at' .testLifecycle] } := by
    simp [step, advance, at', goto, hlock]
  have htest : step platform
      { s with lock := some s.calls.length, calls := s.calls ++ [at' .testLifecycle] }
      (.advance s.calls.length) =
        some { s with
          lock := some s.calls.length
          lifecycle := .kRunning
          calls := s.calls ++ [⟨config, true, .leaveTryBegin true, true, 0⟩] } := by
    simp [step, advance, at', goto, hlife]
  refine ⟨_, .cons rfl (.cons hready (.cons htake (.cons htest (.nil _)))), ?_⟩
  exact ⟨_, hlast _, rfl⟩

theorem Inv.singleRun (h : s.Inv) : s.SingleRun platform := by
  apply SingleRun.mk h.once
  · intro c hmem hbegun
    obtain ⟨i, hc⟩ := List.mem_iff_getElem?.mp hmem
    obtain ⟨hout, hruns⟩ := (h.placed i c hc).outside hbegun
    refine ⟨hruns, ?_⟩
    intro code hcode
    simpa [RunStage.outside, hcode] using hout
  · intro i c t hc hbegun hstep
    rw [step_advance hc] at hstep
    exact (h.advance_outside hc hbegun hstep).1
  · intro i c event hc hbegun
    have hout := ((h.placed i c hc).outside hbegun).1
    simp only [EmbedProcess.step, hc]
    split
    · rename_i gui hstage
      simp [RunStage.outside, hstage] at hout
    · rfl
  · intro i c hc hbegun
    exact h.waits hc hbegun
  · intro i c t hc hbegun hstep
    rw [step_advance hc] at hstep
    exact (h.advance_outside hc hbegun hstep).2
  · intro c hmem hready
    obtain ⟨i, hc⟩ := List.mem_iff_getElem?.mp hmem
    exact ((h.placed i c hc).null hready).1
  · intro hnull config
    obtain ⟨hlock, hlife⟩ := h.unstarted hnull
    exact begins config hlock hlife

/-- In every run of a process, whatever its calls do and in whatever order. -/
theorem reachable_singleRun {commandLine : Option CommandLine} {environment : Environment}
    {events : List RunEvent} {last : EmbedProcess}
    (hrun : Exec (Step (step platform)) (start commandLine environment) events last) :
    last.SingleRun platform :=
  (hrun.invariant (fun _ _ _ hs hstep => Inv.step hs hstep)
    (start_inv commandLine environment)).singleRun

/-- A null callback, a run, and a second call while it is under way. -/
def secondCall : List RunEvent :=
  [.call none false, .advance 0, .call none true, .advance 1, .advance 1, .call none true,
    .advance 2, .advance 1, .advance 1, .advance 2, .advance 1, .advance 2, .advance 1, .advance 2]

theorem reachable_singleRun_sample :
    ∃ last, Exec (Step (step .linux)) (start none []) secondCall last ∧
      last.calls.map RunCall.begun = [false, true, false] ∧
      last.SingleRun .linux := by
  have heval : (secondCall.foldlM (step .linux) (start none [])).map
      (fun last => last.calls.map RunCall.begun) = some [false, true, false] := by decide
  obtain ⟨last, hrun, hbegun⟩ := Exec.exists_of_foldlM heval
  exact ⟨last, hrun, hbegun, reachable_singleRun hrun⟩

end EmbedProcess

end Browserd
