import Mathlib.Data.List.InsertIdx
import Mathlib.Data.List.Perm.Basic
import Browserd.Lib.Places
import Browserd.Runtime.ErasureSteps
import Browserd.Runtime.GuiRepresentation

/-!
# What completion callbacks see of a removal

The callbacks of the waiters pending on a tab run while the tab is being erased. They find it gone
and the active tab there only if another tab stands behind it and it is not the active one; and a
`browserd_shutdown` in them pulls the runtime away from under the erasure.
-/

namespace Browserd

open Transition

namespace ClosingEvent

/-- A callback finds the tab `closedId` gone, and the active tab among the others if there is
one. -/
def Consistent (closedId : String) : ClosingEvent → Prop
  | callback tabs activeTargetId =>
      closedId ∉ tabs.map TabSlot.targetId ∧
        (activeTargetId = "" ∨ activeTargetId ∈ tabs.map TabSlot.targetId)
  | _ => True

end ClosingEvent

namespace GuiCall

/-- What is promised of a call that removes the tab `closedId`, when there are `windows` tabs. A
window that is gone has been closed and destroyed once. -/
structure Orderly (closedId : String) (windows : Nat) (s : GuiCall) : Prop where
  callbacks : ∀ event ∈ s.log, event.Consistent closedId
  faultless : s.faulted = false
  closed : ∀ window < windows,
    s.log.count (.windowClosed window) = s.log.count (.windowDestroyed window)
  destroyed : ∀ window < windows,
    s.log.count (.windowDestroyed window) + (s.tabs.map TabSlot.window).count (some window) = 1

variable {index : Nat}

/-- While the next tab moves up, an empty element stands among the tabs that stay. -/
private theorem mem_duringErase_iff {tabs : List TabSlot} {id : String}
    (hnext : index + 1 < tabs.length) :
    id ∈ (duringErase index tabs).map TabSlot.targetId ↔
      id = "" ∨ id ∈ (tabs.map TabSlot.targetId).eraseIdx index := by
  have hduring : duringErase index tabs =
      (tabs.set index tabs[index + 1]).set (index + 1) ⟨"", none⟩ := by
    simp [duringErase, hnext, Nat.lt_of_succ_lt hnext]
  have hperm : (duringErase index tabs).Perm (⟨"", none⟩ :: tabs.eraseIdx index) := by
    rw [hduring, ← List.set_getElem_succ_eraseIdx_succ hnext,
      ← List.eraseIdx_set_gt (Nat.lt_succ_self index)]
    apply List.set_perm_cons_eraseIdx
    simpa using hnext
  rw [(hperm.map TabSlot.targetId).mem_iff, List.map_cons, List.mem_cons, List.eraseIdx_map]

/-- What the callbacks see is in order only while another tab takes the place of the closed one,
and only if this one is not active. -/
theorem duringErase_consistent_iff {tabs : List TabSlot} {tab : TabSlot} {activeTargetId : String}
    (htab : tabs[index]? = some tab) (hnodup : (tabs.map TabSlot.targetId).Nodup)
    (hne : tab.targetId ≠ "") (hactive : activeTargetId ∈ tabs.map TabSlot.targetId)
    (hsome : activeTargetId ≠ "") :
    (ClosingEvent.callback (duringErase index tabs) activeTargetId).Consistent tab.targetId ↔
      index + 1 < tabs.length ∧ activeTargetId ≠ tab.targetId := by
  have hclosed : (tabs.map TabSlot.targetId)[index]? = some tab.targetId := by simp [htab]
  simp only [ClosingEvent.Consistent]
  by_cases hnext : index + 1 < tabs.length
  · simp only [mem_duringErase_iff hnext, Places.mem_eraseIdx_iff hnodup hclosed]
    simp [hne, hsome, hactive, hnext]
  · -- The last element stands where it was.
    have hlast : tabs[index + 1]? = none := by simpa using hnext
    have hduring : duringErase index tabs = tabs.set index { tab with window := none } := by
      simp [duringErase, htab, hlast]
    have hthere : tab.targetId ∈ (duringErase index tabs).map TabSlot.targetId := by
      obtain ⟨hlt, -⟩ := List.getElem?_eq_some_iff.mp htab
      rw [hduring]
      apply List.mem_map.mpr
      exact ⟨{ tab with window := none }, List.mem_set hlt _, rfl⟩
    simp [hthere, hnext]

end GuiCall

namespace RemovalCall

variable {rt : GuiRuntime} {tab : GuiTab} {index : Nat} {callbacks : Nat → List HostCallback}
  {sessionShuttingDown : Bool}

theorem slot_at (htab : rt.tabs[index]? = some tab) :
    (GuiCall.ofRuntime rt sessionShuttingDown).tabs[index]? =
      some ⟨tab.targetId, some index⟩ := by
  simp [GuiCall.ofRuntime, htab]

theorem findTab_at (hnodup : rt.targetIds.Nodup) (htab : rt.tabs[index]? = some tab) :
    (GuiCall.ofRuntime rt sessionShuttingDown).findTab tab.targetId = some index := by
  have hids := (GuiCall.Shows.ofRuntime rt sessionShuttingDown).targetIds
  exact Places.findIdx?_of_nodup (hids ▸ hnodup) (slot_at htab)

theorem windows_ofRuntime :
    (GuiCall.ofRuntime rt sessionShuttingDown).tabs.map TabSlot.window =
      (List.range rt.tabs.length).map some := by
  apply List.ext_getElem?
  intro i
  by_cases hi : i < rt.tabs.length
  · simp [GuiCall.ofRuntime, hi]
  · simp [GuiCall.ofRuntime, hi]

/-- Either call is the erasure of the tab, after the close of its window. -/
theorem run_eq (call : RemovalCall) (hnodup : rt.targetIds.Nodup)
    (hne : tab.targetId ≠ "") (htab : rt.tabs[index]? = some tab)
    (hcall : call.targetId rt = tab.targetId) :
    call.run callbacks (.ofRuntime rt sessionShuttingDown) =
      GuiCall.removeAt callbacks (rt.activeTargetId == tab.targetId) index
        ((GuiCall.ofRuntime rt sessionShuttingDown).record (.windowClosed index)) := by
  have hfind : (GuiCall.ofRuntime rt sessionShuttingDown).findTab tab.targetId = some index :=
    findTab_at hnodup htab
  have hwindow : (GuiCall.ofRuntime rt sessionShuttingDown).windowAt index = some index := by
    simp [GuiCall.windowAt, slot_at htab]
  cases call with
  | closeTab targetId =>
      have hid : targetId.getD (GuiCall.ofRuntime rt sessionShuttingDown).activeTargetId =
          tab.targetId := hcall
      simp only [run, GuiCall.closeTab, hid]
      simp only [String.isEmpty_iff, hne, if_false, hfind, hwindow]
      rfl
  | removeClosedWindow targetId =>
      obtain rfl : targetId = tab.targetId := hcall
      have hclosed : ((GuiCall.ofRuntime rt sessionShuttingDown).closeWindow
          (some index)).findTab tab.targetId = some index := hfind
      simp only [run, hfind, hwindow, GuiCall.removeClosedWindow, hclosed]
      rfl

theorem after_eq (call : RemovalCall) (hne : tab.targetId ≠ "") (htab : tab ∈ rt.tabs)
    (hcall : call.targetId rt = tab.targetId) : call.after rt = rt.eraseTab tab.targetId := by
  have hfind : (rt.findTab tab.targetId).isNone = false := by
    cases hnone : rt.findTab tab.targetId with
    | none => simpa using List.find?_eq_none.mp hnone tab htab
    | some _ => rfl
  cases call with
  | closeTab targetId =>
      have hid : targetId.getD rt.activeTargetId = tab.targetId := hcall
      simp [after, GuiRuntime.closeTab, hid, hne, hfind]
  | removeClosedWindow targetId =>
      obtain rfl : targetId = tab.targetId := hcall
      simp [after, GuiRuntime.removeClosedWindow, hfind]

/-- What the erasure leaves of the call, when the callbacks only look. -/
private theorem erased_shows {e : GuiCall} (hnodup : rt.targetIds.Nodup)
    (htab : rt.tabs[index]? = some tab) (he : e.Shows { rt with tabs := rt.tabs.eraseIdx index }) :
    (if rt.activeTargetId == tab.targetId then e.chooseFallbackActiveTab else e).Shows
      (rt.erased tab.targetId) := by
  have hrest : (rt.tabs.eraseP fun other => other.targetId == tab.targetId) =
      rt.tabs.eraseIdx index := by
    rw [List.eraseP_eq_eraseIdx, Places.findIdx?_of_nodup hnodup htab]
  unfold GuiRuntime.erased
  rw [hrest]
  split
  · rename_i hactive
    have hfallback := he.chooseFallbackActiveTab
    simpa [GuiRuntime.chooseFallbackActiveTab, hactive] using hfallback
  · rename_i hactive
    simpa [hactive] using he

/-- What a call whose callbacks only look writes in its log. -/
def quietLog (rt : GuiRuntime) (sessionShuttingDown : Bool) (callbacks : Nat → List HostCallback)
    (index : Nat) : List ClosingEvent :=
  .windowClosed index :: .windowDestroyed index :: (callbacks index).map fun _ =>
    .callback (GuiCall.duringErase index (GuiCall.ofRuntime rt sessionShuttingDown).tabs)
      rt.activeTargetId

private theorem eraseAt_ofRuntime (htab : rt.tabs[index]? = some tab)
    (hquiet : .callsShutdown ∉ callbacks index ∨ sessionShuttingDown = true) :
    ((GuiCall.ofRuntime rt sessionShuttingDown).record (.windowClosed index)).eraseAt callbacks
        index =
      { GuiCall.ofRuntime rt sessionShuttingDown with
        tabs := (GuiCall.ofRuntime rt sessionShuttingDown).tabs.eraseIdx index
        log := quietLog rt sessionShuttingDown callbacks index } := by
  have hslot : (GuiCall.ofRuntime rt sessionShuttingDown).tabs[index]? =
      some ⟨tab.targetId, some index⟩ := slot_at htab
  exact GuiCall.eraseAt_quiet
    (s := (GuiCall.ofRuntime rt sessionShuttingDown).record (.windowClosed index))
    hslot rfl hquiet rfl rfl

section Quiet

variable (call : RemovalCall) (hnodup : rt.targetIds.Nodup) (hne : tab.targetId ≠ "")
  (htab : rt.tabs[index]? = some tab) (hcall : call.targetId rt = tab.targetId)
  (hquiet : .callsShutdown ∉ callbacks index ∨ sessionShuttingDown = true)

include hnodup hne htab hcall hquiet

/-- The log of a call whose callbacks only look, and the tabs that stay. -/
theorem run_quiet :
    (call.run callbacks (.ofRuntime rt sessionShuttingDown)).faulted = false ∧
      (call.run callbacks (.ofRuntime rt sessionShuttingDown)).tabs =
        (GuiCall.ofRuntime rt sessionShuttingDown).tabs.eraseIdx index ∧
      (call.run callbacks (.ofRuntime rt sessionShuttingDown)).log =
        quietLog rt sessionShuttingDown callbacks index := by
  rw [call.run_eq hnodup hne htab hcall, GuiCall.removeAt, eraseAt_ofRuntime htab hquiet]
  exact GuiCall.afterErase_quiet rfl

/-- Such a call ends in the state that `CloseTab` and `RemoveClosedWindow` give between two
steps. -/
theorem run_refines :
    (call.run callbacks (.ofRuntime rt sessionShuttingDown)).Shows (call.after rt) := by
  rw [call.run_eq hnodup hne htab hcall, GuiCall.removeAt, eraseAt_ofRuntime htab hquiet,
    call.after_eq hne (List.mem_of_getElem? htab) hcall, GuiRuntime.eraseTab_erased]
  apply GuiCall.Shows.afterErase
  · rfl
  · apply erased_shows hnodup htab
    have hids := (GuiCall.Shows.ofRuntime rt sessionShuttingDown).targetIds
    refine ⟨rfl, ?_, rfl, rfl, rfl, rfl⟩
    simp only [GuiRuntime.targetIds, ← List.eraseIdx_map]
    exact congrArg (List.eraseIdx · index) hids

/-- Every window is there once, or has been closed and destroyed. -/
private theorem run_quiet_windows (window : Nat) (hwindow : window < rt.tabs.length) :
    let s := call.run callbacks (.ofRuntime rt sessionShuttingDown)
    s.log.count (.windowClosed window) = s.log.count (.windowDestroyed window) ∧
      s.log.count (.windowDestroyed window) +
        (s.tabs.map TabSlot.window).count (some window) = 1 := by
  intro s
  obtain ⟨-, htabs, hlog⟩ := call.run_quiet hnodup hne htab hcall hquiet
  have hclosed : s.log.count (.windowClosed window) = if index = window then 1 else 0 := by
    simp [s, hlog, quietLog, List.count_cons, List.count_replicate]
  have hdestroyed : s.log.count (.windowDestroyed window) = if index = window then 1 else 0 := by
    simp [s, hlog, quietLog, List.count_cons, List.count_replicate]
  have hwindows : s.tabs.map TabSlot.window =
      ((List.range rt.tabs.length).map some).eraseIdx index := by
    rw [← windows_ofRuntime, List.eraseIdx_map]
    exact congrArg (List.map TabSlot.window) htabs
  have hdistinct : ((List.range rt.tabs.length).map some).Nodup :=
    List.nodup_range.map fun _ _ heq => Option.some.inj heq
  have hplace : ((List.range rt.tabs.length).map some)[index]? = some (some index) := by
    simp [(List.getElem?_eq_some_iff.mp htab).1]
  have hmem : some window ∈ s.tabs.map TabSlot.window ↔ window ≠ index := by
    rw [hwindows, Places.mem_eraseIdx_iff hdistinct hplace]
    simp [hwindow]
  have hthere : (s.tabs.map TabSlot.window).count (some window) =
      if index = window then 0 else 1 := by
    have hdistinct' : (s.tabs.map TabSlot.window).Nodup := hwindows ▸ hdistinct.eraseIdx index
    rw [hdistinct'.count]
    by_cases hsame : index = window
    · simp [hmem, hsame]
    · simp [hmem, hsame, Ne.symm hsame]
  refine ⟨hclosed.trans hdestroyed.symm, ?_⟩
  rw [hdestroyed, hthere]
  split <;> rfl

/-- The callbacks of such a call are in order exactly when there are none or another tab takes the
place of the closed one, which is not active. -/
private theorem run_quiet_iff (hactive : rt.activeTargetId ∈ rt.targetIds)
    (hsome : rt.activeTargetId ≠ "") :
    (call.run callbacks (.ofRuntime rt sessionShuttingDown)).Orderly tab.targetId
        rt.tabs.length ↔
      callbacks index = [] ∨
        index + 1 < rt.tabs.length ∧ rt.activeTargetId ≠ tab.targetId := by
  obtain ⟨hfaulted, htabs, hlog⟩ := call.run_quiet hnodup hne htab hcall hquiet
  have hids := (GuiCall.Shows.ofRuntime rt sessionShuttingDown).targetIds
  have hslot : (GuiCall.ofRuntime rt sessionShuttingDown).tabs[index]? =
      some ⟨tab.targetId, some index⟩ := slot_at htab
  have hlength : (GuiCall.ofRuntime rt sessionShuttingDown).tabs.length = rt.tabs.length := by
    simp [GuiCall.ofRuntime]
  have hseen := GuiCall.duringErase_consistent_iff hslot (hids ▸ hnodup) hne (hids ▸ hactive)
    hsome
  rw [hlength] at hseen
  rw [← hseen]
  constructor
  · intro horderly
    cases hpending : callbacks index with
    | nil => exact .inl rfl
    | cons callback rest =>
        refine .inr (horderly.callbacks _ ?_)
        simp [hlog, quietLog, hpending]
  · intro hcondition
    have hwindows := run_quiet_windows call hnodup hne htab hcall hquiet
    refine ⟨?_, hfaulted, fun window h => (hwindows window h).1, fun window h =>
      (hwindows window h).2⟩
    intro event hevent
    simp only [hlog, quietLog, List.mem_cons, List.mem_map] at hevent
    rcases hevent with rfl | rfl | ⟨callback, hcallback, rfl⟩
    · trivial
    · trivial
    · exact hcondition.resolve_left (List.ne_nil_of_mem hcallback)

end Quiet

/-- A callback that shuts the session down leaves the erasure without its runtime. -/
private theorem run_faulted (call : RemovalCall) (hnodup : rt.targetIds.Nodup)
    (hne : tab.targetId ≠ "") (htab : rt.tabs[index]? = some tab)
    (hcall : call.targetId rt = tab.targetId) (hshutdown : .callsShutdown ∈ callbacks index) :
    (call.run callbacks (.ofRuntime rt false)).faulted = true := by
  have hslot : (GuiCall.ofRuntime rt false).tabs[index]? = some ⟨tab.targetId, some index⟩ :=
    slot_at htab
  rw [call.run_eq hnodup hne htab hcall, GuiCall.removeAt]
  apply GuiCall.afterErase_faulted
  exact GuiCall.eraseAt_doomed
    (s := (GuiCall.ofRuntime rt false).record (.windowClosed index)) hslot rfl hshutdown rfl

theorem run_orderly_iff (call : RemovalCall) (hrt : rt.Consistent)
    (hids : ∀ id ∈ rt.targetIds, id ≠ "") (htab : rt.tabs[index]? = some tab)
    (hcall : call.targetId rt = tab.targetId) :
    (call.run callbacks (.ofRuntime rt sessionShuttingDown)).Orderly tab.targetId
        rt.tabs.length ↔
      callbacks index = [] ∨
        index + 1 < rt.tabs.length ∧ rt.activeTargetId ≠ tab.targetId ∧
          (.callsShutdown ∉ callbacks index ∨ sessionShuttingDown = true) := by
  have hmem : tab ∈ rt.tabs := List.mem_of_getElem? htab
  have hne : tab.targetId ≠ "" := hids _ (List.mem_map_of_mem hmem)
  have hactive : rt.activeTargetId ∈ rt.targetIds := hrt.active_mem (List.ne_nil_of_mem hmem)
  by_cases hquiet : .callsShutdown ∉ callbacks index ∨ sessionShuttingDown = true
  · rw [run_quiet_iff call hrt.nodup hne htab hcall hquiet hactive (hids _ hactive)]
    simp only [hquiet, and_true]
  · obtain ⟨hshutdown, hrunning⟩ := not_or.mp hquiet
    obtain rfl : sessionShuttingDown = false := by simpa using hrunning
    have hsome : callbacks index ≠ [] := List.ne_nil_of_mem (by simpa using hshutdown)
    have hfaulted := run_faulted call hrt.nodup hne htab hcall (by simpa using hshutdown)
    constructor
    · intro horderly
      simp [horderly.faultless] at hfaulted
    · rintro (hnone | ⟨-, -, hlooks⟩)
      · exact absurd hnone hsome
      · exact absurd hlooks hquiet

end RemovalCall

namespace GuiRun

/-- In every state that a runtime reaches, a call that removes a tab keeps what is promised exactly
when no waiter is pending on the tab, or another tab stands behind it, it is not the active one
and none of the callbacks shuts the session down. -/
theorem removal_orderly_iff (options : RuntimeOptions) (quitCallback : Bool)
    (events : List GuiEvent) (run : GuiRun)
    (hrun : Exec (Step GuiRun.step) (start options quitCallback) events run)
    (hcount : events.countP GuiEvent.isCreateTab < 2 ^ 64) (call : RemovalCall) (index : Nat)
    (tab : GuiTab) (htab : run.runtime.tabs[index]? = some tab)
    (hcall : call.targetId run.runtime = tab.targetId) (callbacks : Nat → List HostCallback)
    (sessionShuttingDown : Bool) :
    (call.run callbacks (.ofRuntime run.runtime sessionShuttingDown)).Orderly tab.targetId
        run.runtime.tabs.length ↔
      callbacks index = [] ∨
        index + 1 < run.runtime.tabs.length ∧ run.runtime.activeTargetId ≠ tab.targetId ∧
          (.callsShutdown ∉ callbacks index ∨ sessionShuttingDown = true) := by
  obtain ⟨hinv, -, -⟩ :=
    Inv.exec hrun (start_inv options quitCallback) (by simpa [start] using hcount)
  exact call.run_orderly_iff hinv.consistent (fun id hid => hinv.id_ne_empty hid) htab hcall

private def windowBuilder : GuiBuilder := fun url =>
  some (⟨1, "", url, false, false, false⟩, true)

/-- Two tabs are made; the second is the active one. -/
private def twoTabs : List GuiEvent :=
  [.createTab windowBuilder .aboutBlank, .createTab windowBuilder .aboutBlank]

/-- A waiter is pending on each tab, and the host returns from its callback at once. -/
private def oneWaiter : Nat → List HostCallback := fun _ => [.returns]

/-- A waiter is pending on each tab, and the host shuts down in its callback. -/
private def oneShutdown : Nat → List HostCallback := fun _ => [.callsShutdown]

theorem removal_orderly_sample :
    ∃ run, Exec (Step GuiRun.step) (start {} true) twoTabs run ∧
      (RemovalCall.run oneWaiter (.ofRuntime run.runtime false)
        (.closeTab (some "gui-1"))).Orderly "gui-1" 2 := by
  have hend : ((twoTabs.foldlM GuiRun.step (start {} true)).map fun run =>
      (run.runtime.targetIds, run.runtime.activeTargetId)) =
      some (["gui-1", "gui-2"], "gui-2") := by
    decide +kernel
  obtain ⟨run, hrun, hfinal⟩ := Exec.exists_of_foldlM hend
  obtain ⟨hids, hactive⟩ := Prod.mk.inj hfinal
  have hlength : run.runtime.tabs.length = 2 := by
    simpa [GuiRuntime.targetIds] using congrArg List.length hids
  have hfirst : run.runtime.targetIds[0]? = some "gui-1" := by
    rw [hids]
    rfl
  rw [GuiRuntime.targetIds, List.getElem?_map] at hfirst
  obtain ⟨tab, htab, hname⟩ := Option.map_eq_some_iff.mp hfirst
  refine ⟨run, hrun, ?_⟩
  have horderly := (removal_orderly_iff {} true twoTabs run hrun (by decide)
    (.closeTab (some "gui-1")) 0 tab htab hname.symm oneWaiter false).mpr
  rw [hname, hlength, hactive] at horderly
  exact horderly (.inr ⟨by decide, by decide, .inl (by decide)⟩)

/-- The callback of a waiter on the active tab, which is the last one, finds it in `tabs_` and
active. And the callback of a waiter on the first tab shuts down, which the runtime does not
survive. -/
theorem callback_sees_closed_tab :
    ∃ run, Exec (Step GuiRun.step) (start {} true) twoTabs run ∧
      ¬ (RemovalCall.run oneWaiter (.ofRuntime run.runtime false)
        (.closeTab none)).Orderly "gui-2" 2 ∧
      ¬ (RemovalCall.run oneShutdown (.ofRuntime run.runtime false)
        (.closeTab (some "gui-1"))).Orderly "gui-1" 2 := by
  have hend : ((twoTabs.foldlM GuiRun.step (start {} true)).map fun run =>
      ((RemovalCall.run oneWaiter (.ofRuntime run.runtime false) (.closeTab none)).log,
        (RemovalCall.run oneShutdown (.ofRuntime run.runtime false)
          (.closeTab (some "gui-1"))).faulted)) =
      some ([.windowClosed 1, .windowDestroyed 1,
        .callback [⟨"gui-1", some 0⟩, ⟨"gui-2", none⟩] "gui-2"], true) := by
    decide +kernel
  obtain ⟨run, hrun, hfinal⟩ := Exec.exists_of_foldlM hend
  obtain ⟨hlog, hfaulted⟩ := Prod.mk.inj hfinal
  refine ⟨run, hrun, ?_, ?_⟩
  · intro horderly
    have hseen := horderly.callbacks (.callback [⟨"gui-1", some 0⟩, ⟨"gui-2", none⟩] "gui-2")
    rw [hlog] at hseen
    have hconsistent := hseen (by decide)
    simp [ClosingEvent.Consistent] at hconsistent
  · intro horderly
    rw [horderly.faultless] at hfaulted
    cases hfaulted

end GuiRun

end Browserd
