import Browserd.Runtime.GuiRuns

/-!
# Quit requests and the main message loop

`GuiRuntime::Shutdown` asks `BrowserMainParts` to quit. The ready callback runs before the main
message loop exists, so that the request may come before `WillRunMainMessageLoop` brings the quit
closure of the loop.
-/

namespace Browserd

open Transition

/-- `quitClosure` holds while a closure is stored; `closureRuns` counts the runs of the closure of
the run loop. -/
structure BrowserMainParts where
  quitClosure : Bool
  quitRequested : Bool
  closureRuns : Nat

namespace BrowserMainParts

def new : BrowserMainParts where
  quitClosure := false
  quitRequested := false
  closureRuns := 0

def requestQuit (parts : BrowserMainParts) : BrowserMainParts :=
  if parts.quitRequested then parts
  else
    let parts := { parts with quitRequested := true }
    if parts.quitClosure then
      { parts with quitClosure := false, closureRuns := parts.closureRuns + 1 }
    else parts

def willRunMainMessageLoop (parts : BrowserMainParts) : BrowserMainParts :=
  let parts := { parts with quitClosure := true }
  if parts.quitRequested then parts.requestQuit else parts

end BrowserMainParts

/-- What happens from `PreMainMessageLoopRun` on: the events of the runtime, the end of its session,
and the start of the message loop. -/
inductive MainLoopEvent where
  | gui (event : GuiEvent)
  | destroySessionController
  | willRunMainMessageLoop

/-- A call of `Shutdown`: the host's own, or that of the last tab when it closes. -/
def GuiRuntime.asksShutdown (rt : GuiRuntime) : GuiEvent → Bool
  | .shutdown => true
  | .closeTab targetId =>
      let id := targetId.getD rt.activeTargetId
      rt.options.shutdownOnZeroTabs && !id.isEmpty && rt.targetIds == [id]
  | .removeClosedWindow targetId => rt.options.shutdownOnZeroTabs && rt.targetIds == [targetId]
  | _ => false

/-- The parts with the runtime, which goes with the controller of the session; `installed` holds
once the quit closure has been brought. -/
structure MainLoopRun where
  parts : BrowserMainParts
  gui : GuiRun
  controller : Bool
  installed : Bool

namespace MainLoopRun

def start (options : RuntimeOptions) : MainLoopRun where
  parts := .new
  gui := .start options true
  controller := true
  installed := false

/-- `Shutdown` has been called on the runtime, by the host or for its last tab. -/
def requested (s : MainLoopRun) : Bool := s.gui.runtime.shutdownStarted

/-- The runtime has come to `gui`, and each run of its quit callback has been a `RequestQuit`. -/
def next (s : MainLoopRun) (gui : GuiRun) : MainLoopRun :=
  { s with
    gui := gui
    parts := BrowserMainParts.requestQuit^[gui.runtime.quits - s.gui.runtime.quits] s.parts }

def step (s : MainLoopRun) : MainLoopEvent → Option MainLoopRun
  | .gui event => if s.controller then (s.gui.step event).map s.next else none
  | .destroySessionController =>
      if s.controller then
        (s.gui.step .shutdown).map fun gui => { s.next gui with controller := false }
      else some s
  | .willRunMainMessageLoop =>
      if s.installed then none
      else some { s with parts := s.parts.willRunMainMessageLoop, installed := true }

/-- The event is a request to quit. -/
def asks (s : MainLoopRun) : MainLoopEvent → Bool
  | .gui event => s.gui.runtime.asksShutdown event
  | .destroySessionController => s.controller
  | .willRunMainMessageLoop => false

/-- One of the events is a request where it happens. -/
def asked (s : MainLoopRun) : List MainLoopEvent → Bool
  | [] => false
  | event :: later => s.asks event || (s.step event).any fun t => t.asked later

/-- The closure is run for a request, once, and not without one. -/
structure Delivered (s : MainLoopRun) : Prop where
  once : s.requested → s.installed → s.parts.closureRuns = 1
  unasked : s.requested = false → s.parts.closureRuns = 0

/-- The loop starts when the quit has been requested. -/
def tooLate (s : MainLoopRun) : MainLoopEvent → Bool
  | .willRunMainMessageLoop => s.requested
  | _ => false

end MainLoopRun

namespace GuiRuntime

variable {rt rt' : GuiRuntime}

/-- The quit callback runs when the shutdown starts, and then only. -/
structure Quits (rt rt' : GuiRuntime) : Prop where
  callback : rt'.quitCallback = rt.quitCallback
  started : rt.shutdownStarted → rt'.shutdownStarted
  quits : rt'.quits =
    rt.quits + (rt.quitCallback && !rt.shutdownStarted && rt'.shutdownStarted).toNat

/-- An operation that does not touch what `Shutdown` is about. -/
theorem Quits.of_eq (hcallback : rt'.quitCallback = rt.quitCallback)
    (hstarted : rt'.shutdownStarted = rt.shutdownStarted) (hquits : rt'.quits = rt.quits) :
    Quits rt rt' where
  callback := hcallback
  started h := hstarted.trans h
  quits := by
    rw [hquits, hstarted]
    cases rt.shutdownStarted <;> simp

theorem Quits.refl (rt : GuiRuntime) : Quits rt rt := .of_eq rfl rfl rfl

theorem quits_shutdown (rt : GuiRuntime) : Quits rt rt.shutdown := by
  unfold shutdown
  split
  · exact .refl rt
  · rename_i hstarted
    refine ⟨rfl, fun _ => rfl, ?_⟩
    simp only [hstarted, Bool.not_false, Bool.and_true]
    cases rt.quitCallback <;> rfl

theorem quits_eraseTab (rt : GuiRuntime) (id : String) : Quits rt (rt.eraseTab id) := by
  have hkept (tabs : List GuiTab) (active : String) :
      Quits rt { rt with tabs := tabs, activeTargetId := active } := .of_eq rfl rfl rfl
  have hdown (tabs : List GuiTab) (active : String) :
      Quits rt ({ rt with tabs := tabs, activeTargetId := active } : GuiRuntime).shutdown := by
    have hshutdown :=
      quits_shutdown ({ rt with tabs := tabs, activeTargetId := active } : GuiRuntime)
    exact ⟨hshutdown.callback, hshutdown.started, hshutdown.quits⟩
  simp only [eraseTab, chooseFallbackActiveTab]
  split
  · split
    · exact hdown _ _
    · exact hkept _ _
  · split
    · exact hdown _ _
    · exact hkept _ _

theorem quits_closeTab (rt : GuiRuntime) (targetId : Option String) :
    Quits rt (rt.closeTab targetId).1 := by
  simp only [closeTab]
  split
  · exact .refl rt
  · split
    · exact .refl rt
    · exact rt.quits_eraseTab _

theorem quits_createTab (rt : GuiRuntime) (build : GuiBuilder) (url : GURL) :
    Quits rt (rt.createTab build url).1 := by
  rcases rt.createTab_cases build url with ⟨-, heq⟩ | ⟨_, -, heq⟩ | ⟨_, -, heq⟩
  · rw [heq]
    exact .refl rt
  · rw [heq]
    exact .of_eq rfl rfl rfl
  · rw [heq]
    exact .of_eq rfl rfl rfl

theorem quits_onWindowCloseRequested (rt : GuiRuntime) (targetId : String) :
    Quits rt (rt.onWindowCloseRequested targetId) := by
  unfold onWindowCloseRequested
  cases rt.findTab targetId with
  | none => exact .refl rt
  | some tab =>
      simp only
      split
      · exact .of_eq rfl rfl rfl
      · exact .refl rt

/-- Erasing a tab that is there leaves none exactly if it is the only one. -/
theorem eraseP_isEmpty {id : String} {tab : GuiTab} (h : rt.findTab id = some tab) :
    (rt.tabs.eraseP fun tab => tab.targetId == id).isEmpty = (rt.targetIds == [id]) := by
  have hid : tab.targetId = id := by simpa using List.find?_some h
  have htab : (tab.targetId == id) = true := by simp [hid]
  have hmem : tab ∈ rt.tabs := List.mem_of_find?_eq_some h
  have hlength := List.length_eraseP_of_mem (p := fun tab => tab.targetId == id) hmem htab
  cases htabs : rt.tabs with
  | nil => simp [htabs] at hmem
  | cons first rest =>
      rw [htabs] at hmem hlength
      cases rest with
      | nil =>
          obtain rfl := List.mem_singleton.mp hmem
          simp [targetIds, htabs, hid]
      | cons second rest =>
          have hleft : ((first :: second :: rest).eraseP fun tab => tab.targetId == id) ≠ [] := by
            apply List.ne_nil_of_length_pos
            rw [hlength]
            exact Nat.succ_pos _
          simp [targetIds, htabs, List.isEmpty_eq_false_iff.mpr hleft]

theorem shutdownStarted_shutdown (rt : GuiRuntime) : rt.shutdown.shutdownStarted = true := by
  rw [shutdown]
  split
  · assumption
  · rfl

/-- Closing the last tab calls `Shutdown`, if the options say so. -/
theorem shutdownStarted_eraseTab {id : String} {tab : GuiTab} (h : rt.findTab id = some tab) :
    (rt.eraseTab id).shutdownStarted =
      (rt.shutdownStarted || (rt.options.shutdownOnZeroTabs && rt.targetIds == [id])) := by
  have hlast := eraseP_isEmpty h
  simp only [eraseTab, chooseFallbackActiveTab]
  cases hempty : rt.targetIds == [id] with
  | false =>
      rw [hempty] at hlast
      split <;> simp [hlast]
  | true =>
      rw [hempty] at hlast
      cases hoption : rt.options.shutdownOnZeroTabs <;> split <;>
        simp [hlast, hoption, shutdownStarted_shutdown]

/-- The only tab is found under its id. -/
theorem targetIds_of_findTab {id : String} (h : rt.findTab id = none) :
    (rt.targetIds == [id]) = false := by
  rw [beq_eq_false_iff_ne]
  intro hids
  obtain ⟨tab, htab, hid⟩ := List.mem_map.mp (hids ▸ List.mem_singleton_self id)
  exact List.find?_eq_none.mp h tab htab (by simp [hid])

theorem shutdownStarted_closeTab (rt : GuiRuntime) (targetId : Option String) :
    (rt.closeTab targetId).1.shutdownStarted =
      (rt.shutdownStarted || rt.asksShutdown (.closeTab targetId)) := by
  simp only [closeTab, asksShutdown]
  generalize targetId.getD rt.activeTargetId = id
  cases hid : id.isEmpty with
  | true => simp
  | false =>
      cases hfind : rt.findTab id with
      | none => simp [targetIds_of_findTab hfind]
      | some tab => simpa using shutdownStarted_eraseTab hfind

theorem shutdownStarted_removeClosedWindow (rt : GuiRuntime) (targetId : String) :
    (rt.removeClosedWindow targetId).shutdownStarted =
      (rt.shutdownStarted || rt.asksShutdown (.removeClosedWindow targetId)) := by
  simp only [removeClosedWindow, asksShutdown]
  cases hfind : rt.findTab targetId with
  | none => simp [targetIds_of_findTab hfind]
  | some tab => simpa using shutdownStarted_eraseTab hfind

end GuiRuntime

/-- A step starts the shutdown exactly if it is a call of it. -/
theorem GuiRun.shutdownStarted_step {run run' : GuiRun} {event : GuiEvent}
    (hstep : run.step event = some run') :
    run'.runtime.shutdownStarted =
      (run.runtime.shutdownStarted || run.runtime.asksShutdown event) := by
  cases event with
  | createTab build url =>
      obtain rfl := Option.some.inj hstep
      have hsame : (run.runtime.createTab build url).1.shutdownStarted =
          run.runtime.shutdownStarted := by
        rcases run.runtime.createTab_cases build url with ⟨-, heq⟩ | ⟨_, -, heq⟩ | ⟨_, -, heq⟩ <;>
          rw [heq]
      exact hsame.trans (Bool.or_false _).symm
  | closeTab targetId =>
      obtain rfl := Option.some.inj hstep
      exact run.runtime.shutdownStarted_closeTab targetId
  | windowCloseRequested targetId =>
      obtain rfl := Option.some.inj hstep
      have hsame : (run.runtime.onWindowCloseRequested targetId).shutdownStarted =
          run.runtime.shutdownStarted := by
        unfold GuiRuntime.onWindowCloseRequested
        split
        · rfl
        · split <;> rfl
      exact hsame.trans (Bool.or_false _).symm
  | removeClosedWindow targetId =>
      simp only [GuiRun.step] at hstep
      split at hstep
      · obtain rfl := Option.some.inj hstep
        exact GuiRuntime.shutdownStarted_removeClosedWindow _ targetId
      · cases hstep
  | resizeActive =>
      obtain rfl := Option.some.inj hstep
      exact (Bool.or_false _).symm
  | shutdown =>
      obtain rfl := Option.some.inj hstep
      rw [GuiRuntime.asksShutdown, Bool.or_true]
      exact run.runtime.shutdownStarted_shutdown

theorem GuiRun.quits_step {run run' : GuiRun} {event : GuiEvent}
    (hstep : run.step event = some run') : run.runtime.Quits run'.runtime := by
  cases event with
  | createTab build url =>
      obtain rfl := Option.some.inj hstep
      exact run.runtime.quits_createTab build url
  | closeTab targetId =>
      obtain rfl := Option.some.inj hstep
      exact run.runtime.quits_closeTab targetId
  | windowCloseRequested targetId =>
      obtain rfl := Option.some.inj hstep
      exact run.runtime.quits_onWindowCloseRequested targetId
  | removeClosedWindow targetId =>
      simp only [GuiRun.step] at hstep
      split at hstep
      · obtain rfl := Option.some.inj hstep
        change run.runtime.Quits (GuiRuntime.removeClosedWindow targetId _)
        unfold GuiRuntime.removeClosedWindow
        split
        · exact .of_eq rfl rfl rfl
        · have herase := GuiRuntime.quits_eraseTab
            { run.runtime with pendingRemovals := run.runtime.pendingRemovals.erase targetId }
            targetId
          exact ⟨herase.callback, herase.started, herase.quits⟩
      · cases hstep
  | resizeActive =>
      obtain rfl := Option.some.inj hstep
      exact .refl _
  | shutdown =>
      obtain rfl := Option.some.inj hstep
      exact run.runtime.quits_shutdown

namespace MainLoopRun

variable {s t : MainLoopRun}

/-- The closure is stored from the start of the loop until a request takes it. -/
structure Inv (s : MainLoopRun) : Prop where
  callback : s.gui.runtime.quitCallback = true
  requested : s.parts.quitRequested = s.requested
  stored : s.parts.quitClosure → s.installed
  waits : s.installed → s.requested = false → s.parts.quitClosure
  runs : s.parts.closureRuns = (s.installed && s.requested && !s.parts.quitClosure).toNat

/-- The loop runs, the quit has been requested and the closure is still there. -/
def stuck (s : MainLoopRun) : Bool := s.installed && s.requested && s.parts.quitClosure

theorem start_inv (options : RuntimeOptions) : (start options).Inv where
  callback := rfl
  requested := rfl
  stored := by simp [start, BrowserMainParts.new]
  waits := by simp [start]
  runs := rfl

theorem Inv.delivered_iff (h : s.Inv) : s.Delivered ↔ s.stuck = false := by
  have hruns := h.runs
  constructor
  · intro hdelivered
    cases hstuck : s.stuck with
    | false => rfl
    | true =>
        simp only [stuck, Bool.and_eq_true] at hstuck
        obtain ⟨⟨hinstalled, hrequested⟩, hclosure⟩ := hstuck
        have hone := hdelivered.once hrequested hinstalled
        simp [hclosure, hone] at hruns
  · intro hstuck
    apply Delivered.mk
    · intro hrequested hinstalled
      simp only [stuck, hinstalled, hrequested, Bool.true_and] at hstuck
      simpa [hinstalled, hrequested, hstuck] using hruns
    · intro hrequested
      simpa [hrequested] using hruns

/-- The runtime moves: either nothing is asked of the parts, or the first request is. -/
theorem next_cases {gui : GuiRun} (h : s.Inv) (hquits : s.gui.runtime.Quits gui.runtime) :
    ((s.next gui).parts = s.parts ∧ (s.next gui).requested = s.requested) ∨
      ((s.next gui).parts = s.parts.requestQuit ∧ s.requested = false ∧
        (s.next gui).requested = true) := by
  have hcount := hquits.quits
  rw [h.callback, Bool.true_and] at hcount
  simp only [next, requested, hcount, Nat.add_sub_cancel_left]
  cases hbefore : s.gui.runtime.shutdownStarted with
  | true => exact .inl ⟨rfl, hquits.started hbefore⟩
  | false =>
      cases gui.runtime.shutdownStarted with
      | false => exact .inl ⟨rfl, rfl⟩
      | true => exact .inr ⟨rfl, rfl, rfl⟩

theorem Inv.next {gui : GuiRun} (h : s.Inv) (hquits : s.gui.runtime.Quits gui.runtime) :
    (s.next gui).Inv ∧ (s.next gui).stuck = s.stuck := by
  have hcallback := hquits.callback.trans h.callback
  rcases next_cases h hquits with ⟨hparts, hsame⟩ | ⟨hparts, hbefore, hafter⟩
  · constructor
    · apply Inv.mk hcallback
      · rw [hparts, hsame, h.requested]
      · rw [hparts]
        exact h.stored
      · rw [hparts, hsame]
        exact h.waits
      · rw [hparts, hsame]
        exact h.runs
    · rw [stuck, stuck, hparts, hsame]
      rfl
  · -- The request takes the closure if there is one.
    have hfirst : s.parts.quitRequested = false := h.requested.trans hbefore
    have hruns := h.runs
    simp only [hbefore, Bool.and_false, Bool.false_and, Bool.toNat_false] at hruns
    have hclosure : (s.next gui).parts.quitClosure = false := by
      rw [hparts, BrowserMainParts.requestQuit]
      cases s.parts.quitClosure <;> simp [hfirst]
    constructor
    · apply Inv.mk hcallback
      · rw [hafter, hparts, BrowserMainParts.requestQuit]
        cases s.parts.quitClosure <;> simp [hfirst]
      · simp [hclosure]
      · simp [hafter]
      · rw [hafter, hclosure, hparts, BrowserMainParts.requestQuit]
        change _ = (s.installed && true && !false).toNat
        cases hinstalled : s.installed with
        | true =>
            have hstored := h.waits hinstalled hbefore
            simp [hfirst, hstored, hruns]
        | false =>
            have hnone : s.parts.quitClosure = false := by
              by_contra hstored
              simp [h.stored (by simpa using hstored)] at hinstalled
            simp [hfirst, hnone, hruns]
    · simp [stuck, hclosure, hbefore]

/-- `RequestQuit` finds its own flag set, and does not take the new closure. -/
theorem willRunMainMessageLoop_eq (parts : BrowserMainParts) :
    parts.willRunMainMessageLoop = { parts with quitClosure := true } := by
  simp only [BrowserMainParts.willRunMainMessageLoop]
  split
  · rename_i hrequested
    exact if_pos hrequested
  · rfl

theorem Inv.willRunMainMessageLoop (h : s.Inv) (hinstalled : s.installed = false) :
    Inv { s with parts := s.parts.willRunMainMessageLoop, installed := true } ∧
      stuck { s with parts := s.parts.willRunMainMessageLoop, installed := true } =
        s.requested := by
  have hruns := h.runs
  simp only [hinstalled, Bool.false_and, Bool.toNat_false] at hruns
  rw [willRunMainMessageLoop_eq]
  constructor
  · exact ⟨h.callback, h.requested, fun _ => rfl, fun _ _ => rfl, by simp [hruns]⟩
  · simp only [stuck, Bool.true_and, Bool.and_true]
    rfl

theorem Inv.step {event : MainLoopEvent} (h : s.Inv) (hstep : s.step event = some t) :
    t.Inv ∧ t.stuck = (s.stuck || s.tooLate event) := by
  cases event with
  | gui event =>
      simp only [MainLoopRun.step] at hstep
      split at hstep
      · obtain ⟨gui, hgui, rfl⟩ := Option.map_eq_some_iff.mp hstep
        simpa [tooLate] using h.next (GuiRun.quits_step hgui)
      · cases hstep
  | destroySessionController =>
      simp only [MainLoopRun.step] at hstep
      split at hstep
      · obtain ⟨gui, hgui, rfl⟩ := Option.map_eq_some_iff.mp hstep
        obtain ⟨hinv, hstuck⟩ := h.next (GuiRun.quits_step hgui)
        constructor
        · exact ⟨hinv.callback, hinv.requested, hinv.stored, hinv.waits, hinv.runs⟩
        · simp only [tooLate, Bool.or_false]
          exact hstuck
      · obtain rfl := Option.some.inj hstep
        simpa [tooLate] using h
  | willRunMainMessageLoop =>
      simp only [MainLoopRun.step] at hstep
      split at hstep
      · cases hstep
      · rename_i hinstalled
        obtain rfl := Option.some.inj hstep
        have hfalse : s.installed = false := by simpa using hinstalled
        have hbefore : s.stuck = false := by simp [stuck, hfalse]
        simpa [tooLate, hbefore] using h.willRunMainMessageLoop hfalse

theorem step_requested {event : MainLoopEvent} (hstep : s.step event = some t) :
    t.requested = (s.requested || s.asks event) := by
  cases event with
  | gui event =>
      simp only [MainLoopRun.step] at hstep
      split at hstep
      · obtain ⟨gui, hgui, rfl⟩ := Option.map_eq_some_iff.mp hstep
        exact GuiRun.shutdownStarted_step hgui
      · cases hstep
  | destroySessionController =>
      simp only [MainLoopRun.step] at hstep
      split at hstep
      · rename_i hcontroller
        obtain ⟨gui, hgui, rfl⟩ := Option.map_eq_some_iff.mp hstep
        rw [asks, hcontroller]
        exact GuiRun.shutdownStarted_step hgui
      · rename_i hnone
        obtain rfl := Option.some.inj hstep
        simp [asks, hnone]
  | willRunMainMessageLoop =>
      simp only [MainLoopRun.step] at hstep
      split at hstep
      · cases hstep
      · obtain rfl := Option.some.inj hstep
        exact (Bool.or_false _).symm

/-- The shutdown has started exactly if one of the events of the run is a request. -/
theorem run_requested {events : List MainLoopEvent} (hrun : Exec (Step step) s events t) :
    t.requested = (s.requested || s.asked events) := by
  induction hrun with
  | nil s => simp [asked]
  | @cons s next t event later head tail ih =>
      have hstep : s.step event = some next := head
      rw [ih, step_requested hstep, asked, hstep, Option.any_some, Bool.or_assoc]

/-- In every run the quit is requested by an event: a call of `Shutdown`, the end of the session or
the last tab, closed by a call or by its window. And each state has the request delivered exactly
when no request comes before the loop. -/
theorem run_delivered_iff {options : RuntimeOptions} {events : List MainLoopEvent}
    {last : MainLoopRun} (hrun : Exec (Step step) (start options) events last) :
    last.requested = (start options).asked events ∧
      (last.Delivered ↔
        Exec (Guarded (Step step) fun s event => s.tooLate event = false) (start options) events
          last) := by
  have hinv : last.Inv := hrun.invariant (fun _ _ _ hs hstep => (Inv.step hs hstep).1)
    (start_inv options)
  constructor
  · exact run_requested hrun
  · rw [hinv.delivered_iff,
      Exec.flag_iff stuck tooLate (fun _ _ _ hs hstep => Inv.step hs hstep) hrun
        (start_inv options)]
    exact and_iff_right rfl

/-- The ready callback shuts the session down; the loop starts and is never asked to quit. -/
theorem earlyQuit_lost :
    ∃ last, Exec (Step step) (start {}) [.destroySessionController, .willRunMainMessageLoop] last ∧
      last.requested ∧ last.installed ∧ last.parts.closureRuns = 0 ∧ ¬ last.Delivered := by
  refine ⟨_, .cons rfl (.cons rfl (.nil _)), rfl, rfl, rfl, ?_⟩
  intro hdelivered
  exact absurd (hdelivered.once rfl rfl) (by decide)

/-- The only tab is closed once the loop runs, and the session ends. -/
def lastTabCloses : List MainLoopEvent :=
  [.gui (.createTab (fun url => some (⟨1, "", url, false, false, false⟩, true)) .aboutBlank),
    .willRunMainMessageLoop, .gui (.closeTab none), .destroySessionController]

theorem run_delivered_sample :
    ∃ last, Exec (Step step) (start {}) lastTabCloses last ∧ last.requested ∧ last.Delivered ∧
      last.parts.closureRuns = 1 := by
  have hrun : Exec (Step step) (start {}) lastTabCloses _ :=
    .cons rfl (.cons rfl (.cons rfl (.cons rfl (.nil _))))
  have hguarded : Exec (Guarded (Step step) fun s event => s.tooLate event = false) (start {})
      lastTabCloses _ :=
    .cons ⟨rfl, rfl⟩ (.cons ⟨rfl, rfl⟩ (.cons ⟨rfl, rfl⟩ (.cons ⟨rfl, rfl⟩ (.nil _))))
  obtain ⟨hrequested, hdelivered⟩ := run_delivered_iff hrun
  exact ⟨_, hrun, hrequested.trans (by decide), hdelivered.mpr hguarded, rfl⟩

end MainLoopRun

end Browserd
