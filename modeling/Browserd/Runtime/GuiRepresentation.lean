import Browserd.Runtime.GuiRuns

/-!
# The representation invariant of the GUI runtime

What holds of `tabs_`, `active_target_id_` and the quit callback in every state that a
`GuiRuntime` reaches.
-/

namespace Browserd

open Transition

/-- The invariant of a run that was started with `options`. -/
structure GuiRun.Represents (options : RuntimeOptions) (run : GuiRun) : Prop where
  distinct : run.runtime.targetIds.Nodup
  issued_once : run.issued.Nodup
  tabs_issued : ∀ id ∈ run.runtime.targetIds, id ∈ run.issued
  active_empty : run.runtime.activeTargetId = "" ↔ run.runtime.tabs = []
  active_mem : run.runtime.tabs ≠ [] → run.runtime.activeTargetId ∈ run.runtime.targetIds
  /-- A posted removal is for a tab that is there or has gone, never for one still to come. -/
  pending : ∀ id ∈ run.runtime.pendingRemovals, id ∈ run.runtime.targetIds ∨ id ∈ run.gone
  removal_gone : ∀ id ∈ run.gone, run.runtime.removeClosedWindow id = run.runtime
  removal_own : ∀ id, (run.runtime.removeClosedWindow id).tabs =
    run.runtime.tabs.filter fun tab => tab.targetId ≠ id
  create_failed : ∀ build url, (run.runtime.createTab build url).2 = none →
    (run.runtime.createTab build url).1.tabs = run.runtime.tabs ∧
      (run.runtime.createTab build url).1.activeTargetId = run.runtime.activeTargetId
  close_failed : ∀ targetId, (run.runtime.closeTab targetId).2 = false →
    (run.runtime.closeTab targetId).1 = run.runtime
  quits_once : run.runtime.quits ≤ 1
  quits_shutdown : options.shutdownOnZeroTabs = false → run.shutdownCalled = false →
    run.runtime.quits = 0
  /-- Closing the last tab, in any way, leaves an empty runtime. -/
  idle : options.shutdownOnZeroTabs = false → ∀ tab, run.runtime.tabs = [tab] →
    let empty := { run.runtime with tabs := [], activeTargetId := "" }
    run.runtime.closeTab (some tab.targetId) = (empty, true) ∧
      run.runtime.closeTab none = (empty, true) ∧
      run.runtime.removeClosedWindow tab.targetId = empty
  create_works : ∀ build url webContents, build url = some (webContents, true) →
    let tab := ⟨GuiRuntime.makeTargetId run.runtime.nextTabId, webContents, true⟩
    run.runtime.createTab build url =
      ({ run.runtime with
          nextTabId := run.runtime.nextTabId + 1
          tabs := run.runtime.tabs ++ [tab]
          activeTargetId := tab.targetId },
        some (GuiRuntime.makeTabInfo tab))

namespace GuiRun

variable {run : GuiRun}

theorem Inv.id_ne_empty (h : run.Inv) {id : String} (hid : id ∈ run.runtime.targetIds) :
    id ≠ "" := by
  have hissued := h.tabs_issued id hid
  rw [h.issued] at hissued
  obtain ⟨i, -, rfl⟩ := List.mem_map.mp hissued
  exact GuiRuntime.makeTargetId_ne_empty _

theorem Inv.findTab_none {id : String} (hid : id ∉ run.runtime.targetIds) :
    run.runtime.findTab id = none := by
  refine List.find?_eq_none.mpr ?_
  intro tab htab hname
  exact hid (List.mem_map.mpr ⟨tab, htab, by simpa using hname⟩)

theorem Inv.removal_own (h : run.Inv) (id : String) :
    (run.runtime.removeClosedWindow id).tabs =
      run.runtime.tabs.filter fun tab => tab.targetId ≠ id := by
  by_cases hid : id ∈ run.runtime.targetIds
  · obtain ⟨tab, htab, rfl⟩ := List.mem_map.mp hid
    have hfind : (run.runtime.findTab tab.targetId).isNone = false := by
      cases hfind : run.runtime.findTab tab.targetId with
      | none => simpa using List.find?_eq_none.mp hfind tab htab
      | some _ => rfl
    rw [GuiRuntime.removeClosedWindow, hfind]
    exact (GuiRuntime.eraseTab_eq h.consistent.nodup h.consistent.active_mem htab).1
  · rw [GuiRuntime.removeClosedWindow, findTab_none hid]
    refine (List.filter_eq_self.mpr ?_).symm
    intro tab htab
    have hne : tab.targetId ≠ id := fun hname => hid (hname ▸ List.mem_map_of_mem htab)
    simpa using hne

/-- The only tab is the active one. -/
theorem Inv.idle (h : run.Inv) (hoptions : run.runtime.options.shutdownOnZeroTabs = false)
    {tab : GuiTab} (htabs : run.runtime.tabs = [tab]) :
    let empty := { run.runtime with tabs := [], activeTargetId := "" }
    run.runtime.closeTab (some tab.targetId) = (empty, true) ∧
      run.runtime.closeTab none = (empty, true) ∧
      run.runtime.removeClosedWindow tab.targetId = empty := by
  intro empty
  have hids : run.runtime.targetIds = [tab.targetId] := by
    simp [GuiRuntime.targetIds, htabs]
  have hactive : run.runtime.activeTargetId = tab.targetId := by
    simpa [hids] using h.consistent.active_mem (by simp [htabs])
  have hne : tab.targetId.isEmpty = false := by
    have hmem : tab.targetId ∈ run.runtime.targetIds := by simp [hids]
    simpa using h.id_ne_empty hmem
  have hfind : run.runtime.findTab tab.targetId = some tab := by
    simp [GuiRuntime.findTab, htabs]
  have herase : run.runtime.eraseTab tab.targetId = empty := by
    rw [GuiRuntime.eraseTab_erased]
    simp [hoptions, GuiRuntime.erased, htabs, hactive, empty]
  refine ⟨?_, ?_, ?_⟩
  · simp [GuiRuntime.closeTab, hne, hfind, herase]
  · simp [GuiRuntime.closeTab, hactive, hne, hfind, herase]
  · simp [GuiRuntime.removeClosedWindow, hfind, herase]

theorem Inv.represents {options : RuntimeOptions} (h : run.Inv)
    (hcount : run.issued.length < 2 ^ 64) (hoptions : run.runtime.options = options) :
    run.Represents options where
  distinct := h.consistent.nodup
  issued_once := h.nodup_issued hcount
  tabs_issued := h.tabs_issued
  active_empty := by
    refine ⟨?_, h.consistent.active_empty⟩
    intro hempty
    by_contra hne
    exact h.id_ne_empty (h.consistent.active_mem hne) hempty
  active_mem := h.consistent.active_mem
  pending := h.pending
  removal_gone := by
    intro id hid
    rw [GuiRuntime.removeClosedWindow, findTab_none (h.gone_absent id hid)]
    rfl
  removal_own := h.removal_own
  create_failed := by
    intro build url hfailed
    obtain ⟨next, hrt⟩ := GuiRuntime.createTab_none hfailed
    rw [hrt]
    exact ⟨rfl, rfl⟩
  close_failed := fun targetId hfailed => GuiRuntime.closeTab_false hfailed
  quits_once := by
    rw [h.consistent.quits]
    split <;> omega
  quits_shutdown := by
    intro hzero hcalled
    have hstarted : run.runtime.shutdownStarted = false := by
      by_contra hstarted
      have hwhy := h.shutdown (by simpa using hstarted)
      simp [hcalled, hoptions, hzero] at hwhy
    simp [h.consistent.quits, hstarted]
  idle := by
    intro hzero tab htabs
    exact h.idle (hoptions ▸ hzero) htabs
  create_works := by
    intro build url webContents hbuild
    simp [GuiRuntime.createTab, hbuild]

theorem reachable_represents (options : RuntimeOptions) (quitCallback : Bool)
    (events : List GuiEvent) (run : GuiRun)
    (hrun : Exec (Step GuiRun.step) (start options quitCallback) events run)
    (hcount : events.countP GuiEvent.isCreateTab < 2 ^ 64) : run.Represents options := by
  obtain ⟨hinv, hoptions, hissued⟩ :=
    Inv.exec hrun (start_inv options quitCallback) (by simpa [start] using hcount)
  exact hinv.represents hissued hoptions

private def sampleTab (address : Nat) : GuiBuilder := fun url =>
  some (⟨address, "", url, false, false, false⟩, true)

/-- The first of two windows asks to be closed, and both tabs are closed before its removal
runs. -/
private def lateRemoval : List GuiEvent :=
  [.createTab (sampleTab 1) .aboutBlank, .createTab (sampleTab 2) .aboutBlank,
    .windowCloseRequested "gui-1", .closeTab (some "gui-1"), .closeTab none,
    .removeClosedWindow "gui-1"]

theorem reachable_represents_sample :
    ∃ run, Exec (Step GuiRun.step) (start {} true) lateRemoval run ∧
      run.gone = ["gui-1", "gui-2"] ∧ run.runtime.quits = 1 ∧ run.Represents {} := by
  have hend : ((lateRemoval.foldlM GuiRun.step (start {} true)).map fun run =>
      (run.gone, run.runtime.quits)) = some (["gui-1", "gui-2"], 1) := by
    decide +kernel
  obtain ⟨run, hrun, hfinal⟩ := Exec.exists_of_foldlM hend
  have hrepresents := reachable_represents {} true lateRemoval run hrun (by decide)
  exact ⟨run, hrun, (Prod.mk.inj hfinal).1, (Prod.mk.inj hfinal).2, hrepresents⟩

end GuiRun

end Browserd
