import Browserd.Runtime.GuiRuns
import Browserd.Runtime.TabRemoval

/-!
# The steps of a removal

What the erasure of a tab does when the callbacks that run in it only look, and what becomes of it
when one of them shuts the session down.
-/

namespace Browserd

namespace GuiCall

/-- The call can no longer end well. -/
def Doomed (s : GuiCall) : Prop := s.faulted = true ∨ s.destroyed = true

variable {s : GuiCall} {callbacks : Nat → List HostCallback} {index : Nat}

theorem next_of_running {f : GuiCall → GuiCall} (h : s.faulted = false) : s.next f = f s := by
  simp [next, h]

theorem next_of_faulted {f : GuiCall → GuiCall} (h : s.faulted = true) : s.next f = s := by
  simp [next, h]

namespace Doomed

theorem next {f : GuiCall → GuiCall} (h : s.Doomed) (hf : s.Doomed → (f s).Doomed) :
    (s.next f).Doomed := by
  unfold GuiCall.next
  split
  · exact h
  · exact hf h

theorem record (h : s.Doomed) (event : ClosingEvent) : (s.record event).Doomed := h

private theorem of_destroyed (s : GuiCall) :
    (s.next fun s => { s with destroyed := true }).Doomed := by
  unfold GuiCall.next
  split
  · rename_i hfaulted
    exact .inl hfaulted
  · exact .inr rfl

/-- A `browserd_shutdown` that is not refused takes the runtime away. -/
theorem of_browserdShutdown (hrunning : s.sessionShuttingDown = false) :
    (s.browserdShutdown callbacks).Doomed := by
  simp only [browserdShutdown, hrunning, Bool.false_eq_true, if_false]
  exact of_destroyed _

theorem browserdShutdown (h : s.Doomed) : (s.browserdShutdown callbacks).Doomed := by
  cases hrunning : s.sessionShuttingDown with
  | false => exact of_browserdShutdown hrunning
  | true => simpa [GuiCall.browserdShutdown, hrunning] using h

theorem runCallback (h : s.Doomed) (callback : HostCallback) :
    (s.runCallback (GuiCall.browserdShutdown callbacks) callback).Doomed := by
  cases callback with
  | returns => exact h.record _
  | callsShutdown => exact (h.record _).browserdShutdown

theorem runCallbacks (h : s.Doomed) (pending : List HostCallback) :
    (s.runCallbacks (GuiCall.browserdShutdown callbacks) pending).Doomed := by
  induction pending generalizing s with
  | nil => exact h
  | cons callback rest ih =>
      apply ih
      apply h.next
      exact fun h => h.runCallback callback

end Doomed

/-- One callback that shuts down is enough, whatever the others do. -/
theorem runCallbacks_doomed {pending : List HostCallback} (hcalls : .callsShutdown ∈ pending)
    (hrunning : s.sessionShuttingDown = false) :
    (s.runCallbacks (browserdShutdown callbacks) pending).Doomed := by
  induction pending generalizing s with
  | nil => simp at hcalls
  | cons callback rest ih =>
      cases hfaulted : s.faulted with
      | true =>
          have hdoomed : s.Doomed := .inl hfaulted
          exact hdoomed.runCallbacks (callback :: rest)
      | false =>
          change ((s.next (runCallback (browserdShutdown callbacks) callback)).runCallbacks
            (browserdShutdown callbacks) rest).Doomed
          rw [next_of_running hfaulted]
          cases callback with
          | callsShutdown =>
              apply Doomed.runCallbacks
              exact Doomed.of_browserdShutdown hrunning
          | returns =>
              apply ih
              · simpa using hcalls
              · exact hrunning

/-- No callback gets past the first test of `browserd_shutdown`. -/
def Quiet (pending : List HostCallback) (s : GuiCall) : Prop :=
  .callsShutdown ∉ pending ∨ s.sessionShuttingDown = true

/-- Then each of them only looks. -/
theorem runCallbacks_quiet {pending : List HostCallback} (hquiet : s.Quiet pending)
    (hfaulted : s.faulted = false) :
    s.runCallbacks (browserdShutdown callbacks) pending =
      { s with log := s.log ++ pending.map fun _ => .callback s.tabs s.activeTargetId } := by
  induction pending generalizing s with
  | nil => simp [runCallbacks]
  | cons callback rest ih =>
      have hlook : runCallback (browserdShutdown callbacks) callback s =
          s.record (.callback s.tabs s.activeTargetId) := by
        cases callback with
        | returns => rfl
        | callsShutdown =>
            have hrefused : s.sessionShuttingDown = true := by
              rcases hquiet with hnone | hdown
              · simp at hnone
              · exact hdown
            simp [runCallback, browserdShutdown, record, hrefused]
      change (s.next (runCallback (browserdShutdown callbacks) callback)).runCallbacks
        (browserdShutdown callbacks) rest = _
      have hrest : (s.record (.callback s.tabs s.activeTargetId)).Quiet rest := by
        apply hquiet.imp_left
        exact fun hnone hmem => hnone (List.mem_cons_of_mem _ hmem)
      rw [next_of_running hfaulted, hlook, ih hrest hfaulted]
      simp [record]

theorem destroyWindow_quiet {window : Nat} (hquiet : s.Quiet (callbacks window))
    (hfaulted : s.faulted = false) :
    s.destroyWindow (browserdShutdown callbacks) callbacks (some window) =
      { s with
        log := s.log ++ .windowDestroyed window ::
          (callbacks window).map fun _ => .callback s.tabs s.activeTargetId } := by
  have hrecorded : (s.record (.windowDestroyed window)).Quiet (callbacks window) := hquiet
  rw [destroyWindow, runCallbacks_quiet hrecorded hfaulted]
  simp [record]

/-- `tabs_` while the window of the element at `index` is destroyed. -/
def duringErase (index : Nat) (tabs : List TabSlot) : List TabSlot :=
  match tabs[index]?, tabs[index + 1]? with
  | some _, some following => (tabs.set index following).set (index + 1) ⟨"", none⟩
  | some tab, none => tabs.set index { tab with window := none }
  | none, _ => tabs

/-- The erasure of the element at `index` when the runtime does not survive its callbacks. -/
theorem eraseAt_doomed {tab : TabSlot} {window : Nat} (htab : s.tabs[index]? = some tab)
    (hwindow : tab.window = some window) (hcalls : .callsShutdown ∈ callbacks window)
    (hrunning : s.sessionShuttingDown = false) : (s.eraseAt callbacks index).faulted = true := by
  have hend {t : GuiCall} {f : GuiCall → GuiCall} (ht : t.Doomed) :
      (t.next fun t => if t.destroyed then t.fault else f t).faulted = true := by
    unfold GuiCall.next
    split
    · assumption
    · rename_i hfaulted
      have hdestroyed : t.destroyed = true := ht.resolve_left hfaulted
      simp [hdestroyed, fault]
  unfold eraseAt
  rw [htab]
  cases hnext : s.tabs[index + 1]? with
  | some following =>
      apply hend
      simp only [destroyWindow, hwindow]
      exact runCallbacks_doomed hcalls hrunning
  | none =>
      apply hend
      simp only [destroySlot, htab, destroyWindow, hwindow]
      exact runCallbacks_doomed hcalls hrunning

/-- And when they only look: the tab goes, and they see `tabs_` as the erasure has it then. -/
theorem eraseAt_quiet {tab : TabSlot} {window : Nat} (htab : s.tabs[index]? = some tab)
    (hwindow : tab.window = some window) (hquiet : s.Quiet (callbacks window))
    (hfaulted : s.faulted = false) (hdestroyed : s.destroyed = false) :
    s.eraseAt callbacks index =
      { s with
        tabs := s.tabs.eraseIdx index
        log := s.log ++ .windowDestroyed window :: (callbacks window).map fun _ =>
          .callback (duringErase index s.tabs) s.activeTargetId } := by
  have hlook (tabs : List TabSlot) :
      { s with tabs := tabs }.destroyWindow (browserdShutdown callbacks) callbacks (some window) =
        { s with
          tabs := tabs
          log := s.log ++ .windowDestroyed window ::
            (callbacks window).map fun _ => .callback tabs s.activeTargetId } :=
    destroyWindow_quiet hquiet hfaulted
  unfold eraseAt duringErase
  rw [htab]
  cases hnext : s.tabs[index + 1]? with
  | some following =>
      obtain ⟨hlt, rfl⟩ := List.getElem?_eq_some_iff.mp hnext
      have herase : ((s.tabs.set index s.tabs[index + 1]).set (index + 1) ⟨"", none⟩).eraseIdx
          (index + 1) = s.tabs.eraseIdx index := by
        rw [List.eraseIdx_set_eq, List.eraseIdx_set_gt (Nat.lt_succ_self index)]
        exact List.set_getElem_succ_eraseIdx_succ hlt
      simp only [hwindow]
      rw [hlook]
      simp [next, hfaulted, hdestroyed, herase]
  | none =>
      simp only [destroySlot, htab, hwindow]
      rw [hlook]
      simp [next, hfaulted, hdestroyed, List.eraseIdx_set_eq]

/-- Nothing is left to close. -/
theorem shutdown_empty {host : GuiCall → GuiCall} (htabs : s.tabs = [])
    (hfaulted : s.faulted = false) :
    s.shutdown host callbacks =
      if s.shutdownStarted then s
      else
        { s with
          shutdownStarted := true
          activeTargetId := ""
          quits := if s.quitCallback then s.quits + 1 else s.quits } := by
  unfold shutdown
  split
  · rfl
  · simp [htabs, next, hfaulted, clear]

/-- The state of the call is that of `rt`. -/
structure Shows (rt : GuiRuntime) (s : GuiCall) : Prop where
  options : s.options = rt.options
  targetIds : s.tabs.map TabSlot.targetId = rt.targetIds
  activeTargetId : s.activeTargetId = rt.activeTargetId
  quitCallback : s.quitCallback = rt.quitCallback
  shutdownStarted : s.shutdownStarted = rt.shutdownStarted
  quits : s.quits = rt.quits

namespace Shows

variable {rt : GuiRuntime}

theorem ofRuntime (rt : GuiRuntime) (sessionShuttingDown : Bool) :
    (GuiCall.ofRuntime rt sessionShuttingDown).Shows rt where
  options := rfl
  targetIds := by
    apply List.ext_getElem?
    intro i
    simp [GuiCall.ofRuntime, GuiRuntime.targetIds, Function.comp_def]
  activeTargetId := rfl
  quitCallback := rfl
  shutdownStarted := rfl
  quits := rfl

theorem isEmpty (h : s.Shows rt) : s.tabs.isEmpty = rt.tabs.isEmpty := by
  have hids := congrArg List.isEmpty h.targetIds
  simpa [GuiRuntime.targetIds] using hids

theorem chooseFallbackActiveTab (h : s.Shows rt) :
    s.chooseFallbackActiveTab.Shows rt.chooseFallbackActiveTab := by
  refine ⟨h.options, h.targetIds, ?_, h.quitCallback, h.shutdownStarted, h.quits⟩
  have hhead := congrArg List.head? h.targetIds
  simp only [GuiRuntime.targetIds, List.head?_map] at hhead
  simp [GuiCall.chooseFallbackActiveTab, GuiRuntime.chooseFallbackActiveTab, hhead]

theorem shutdown {host : GuiCall → GuiCall} (h : s.Shows rt) (htabs : s.tabs = [])
    (hfaulted : s.faulted = false) : (s.shutdown host callbacks).Shows rt.shutdown := by
  have hnone : rt.tabs = [] := by simpa [htabs, GuiRuntime.targetIds] using h.targetIds.symm
  rw [shutdown_empty htabs hfaulted, h.shutdownStarted]
  unfold GuiRuntime.shutdown
  split
  · exact h
  · refine ⟨h.options, by simp [htabs, GuiRuntime.targetIds], rfl, h.quitCallback, rfl, ?_⟩
    simp [h.quitCallback, h.quits]

/-- What follows the erasure runs no host code. -/
theorem afterErase {wasActive : Bool} (hfaulted : s.faulted = false)
    (h : (if wasActive then s.chooseFallbackActiveTab else s).Shows rt) :
    (s.afterErase callbacks wasActive).Shows
      (if rt.tabs.isEmpty && rt.options.shutdownOnZeroTabs then rt.shutdown else rt) := by
  have hrunning : (if wasActive then s.chooseFallbackActiveTab else s).faulted = false := by
    cases wasActive <;> exact hfaulted
  rw [GuiCall.afterErase, next_of_running hfaulted, next_of_running hrunning, h.isEmpty, h.options]
  split
  · rename_i hzero
    refine h.shutdown ?_ hrunning
    rw [← h.isEmpty] at hzero
    simp only [Bool.and_eq_true, List.isEmpty_iff] at hzero
    exact hzero.1
  · exact h

end Shows

theorem afterErase_quiet {wasActive : Bool} (hfaulted : s.faulted = false) :
    (s.afterErase callbacks wasActive).faulted = false ∧
      (s.afterErase callbacks wasActive).tabs = s.tabs ∧
      (s.afterErase callbacks wasActive).log = s.log := by
  obtain ⟨t, ht, hrunning, htabs, hlog⟩ : ∃ t : GuiCall,
      (if wasActive then s.chooseFallbackActiveTab else s) = t ∧
        t.faulted = false ∧ t.tabs = s.tabs ∧ t.log = s.log := by
    cases wasActive with
    | true => exact ⟨_, rfl, hfaulted, rfl, rfl⟩
    | false => exact ⟨_, rfl, hfaulted, rfl, rfl⟩
  rw [afterErase, next_of_running hfaulted, ht, next_of_running hrunning]
  split
  · rename_i hzero
    simp only [Bool.and_eq_true, List.isEmpty_iff] at hzero
    rw [shutdown_empty hzero.1 hrunning]
    split
    · exact ⟨hrunning, htabs, hlog⟩
    · exact ⟨hrunning, htabs, hlog⟩
  · exact ⟨hrunning, htabs, hlog⟩

theorem afterErase_faulted {wasActive : Bool} (hfaulted : s.faulted = true) :
    (s.afterErase callbacks wasActive).faulted = true := by
  rw [afterErase, next_of_faulted hfaulted, next_of_faulted hfaulted]
  exact hfaulted

end GuiCall

end Browserd
