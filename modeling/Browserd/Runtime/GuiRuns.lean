import Mathlib.Algebra.Group.Nat.Defs
import Browserd.Lib.Exec
import Browserd.Runtime.GuiStrip

/-!
# Runs of the GUI runtime

Everything that reaches a `GuiRuntime`: the operations of the host, the windows that ask to be
closed, and the posted removals, which run in any order and as late as they like.
-/

namespace Browserd

open Transition

inductive GuiEvent where
  | createTab (build : GuiBuilder) (url : GURL)
  | closeTab (targetId : Option String)
  | windowCloseRequested (targetId : String)
  | removeClosedWindow (targetId : String)
  | resizeActive
  | shutdown

namespace GuiEvent

def isCreateTab : GuiEvent → Bool
  | createTab .. => true
  | _ => false

end GuiEvent

namespace GuiRuntime

def targetIds (rt : GuiRuntime) : List String := rt.tabs.map GuiTab.targetId

/-- The runtime that `PreMainMessageLoopRun` constructs. -/
def new (options : RuntimeOptions) (quitCallback : Bool) : GuiRuntime where
  options := options
  tabs := []
  activeTargetId := ""
  nextTabId := 1
  quitCallback := quitCallback
  shutdownStarted := false
  pendingRemovals := []
  quits := 0

/-- The next id of the counter, if `CreateTab` gets as far as making it. -/
def drawnId (build : GuiBuilder) (url : GURL) (rt : GuiRuntime) : List String :=
  match build url with
  | none => []
  | some _ => [makeTargetId rt.nextTabId]

end GuiRuntime

/-- A runtime with its past: the ids that `CreateTab` made, in order, those of the tabs that have
left `tabs_`, and whether the host has called `Shutdown`. -/
structure GuiRun where
  runtime : GuiRuntime
  issued : List String
  gone : List String
  shutdownCalled : Bool

namespace GuiRun

def start (options : RuntimeOptions) (quitCallback : Bool) : GuiRun where
  runtime := .new options quitCallback
  issued := []
  gone := []
  shutdownCalled := false

/-- The runtime becomes `rt`. -/
def next (run : GuiRun) (rt : GuiRuntime) : GuiRun :=
  { run with
    runtime := rt
    gone := run.gone ++ run.runtime.targetIds.filter fun id => id ∉ rt.targetIds }

/-- A removal runs only if it is posted; the other events are always possible. `ResizeActive`
reaches the active tab's window and nothing else. -/
def step (run : GuiRun) : GuiEvent → Option GuiRun
  | .createTab build url =>
      some { run.next (run.runtime.createTab build url).1 with
        issued := run.issued ++ run.runtime.drawnId build url }
  | .closeTab targetId => some (run.next (run.runtime.closeTab targetId).1)
  | .windowCloseRequested targetId => some (run.next (run.runtime.onWindowCloseRequested targetId))
  | .removeClosedWindow targetId =>
      if targetId ∈ run.runtime.pendingRemovals then
        some (run.next
          (GuiRuntime.removeClosedWindow targetId
            { run.runtime with
              pendingRemovals := run.runtime.pendingRemovals.erase targetId }))
      else none
  | .resizeActive => some run
  | .shutdown => some { run.next run.runtime.shutdown with shutdownCalled := true }

end GuiRun

namespace GuiRuntime

variable {rt rt' : GuiRuntime}

/-- The active id names a tab unless there is none, and the quit callback has run once if the
shutdown has started. -/
structure Consistent (rt : GuiRuntime) : Prop where
  nodup : rt.targetIds.Nodup
  active_mem : rt.tabs ≠ [] → rt.activeTargetId ∈ rt.targetIds
  active_empty : rt.tabs = [] → rt.activeTargetId = ""
  quits : rt.quits = if rt.shutdownStarted && rt.quitCallback then 1 else 0

/-- What an operation that makes no tab leaves of `rt`; `asked` says that it is `Shutdown`. -/
structure Removal (rt rt' : GuiRuntime) (asked : Prop) : Prop where
  tabs : rt'.targetIds.Sublist rt.targetIds
  nextTabId : rt'.nextTabId = rt.nextTabId
  options : rt'.options = rt.options
  pending : ∀ id ∈ rt'.pendingRemovals, id ∈ rt.pendingRemovals ∨ id ∈ rt.targetIds
  shutdown : rt'.shutdownStarted → rt.shutdownStarted ∨ rt.options.shutdownOnZeroTabs ∨ asked

namespace Removal

theorem refl (rt : GuiRuntime) : Removal rt rt False where
  tabs := .refl _
  nextTabId := rfl
  options := rfl
  pending _ hid := .inl hid
  shutdown h := .inl h

end Removal

theorem Consistent.shutdown (h : rt.Consistent) :
    rt.shutdown.Consistent ∧ Removal rt rt.shutdown True := by
  unfold GuiRuntime.shutdown
  split
  · exact ⟨h, { Removal.refl rt with shutdown := fun hstarted => .inl hstarted }⟩
  · rename_i hstarted
    have hquits := h.quits
    simp only [hstarted, Bool.false_and, Bool.false_eq_true, if_false] at hquits
    refine ⟨⟨by simp [targetIds], by simp, by simp, by simp [hquits]⟩, ?_⟩
    exact ⟨by simp [targetIds], rfl, rfl, fun id hid => .inl hid, fun _ => .inr (.inr trivial)⟩

/-- `eraseTab` without the shutdown that may follow. -/
def erased (id : String) (rt : GuiRuntime) : GuiRuntime :=
  let rest := rt.tabs.eraseP fun tab => tab.targetId == id
  { rt with
    tabs := rest
    activeTargetId :=
      if rt.activeTargetId == id then (rest.head?.map GuiTab.targetId).getD ""
      else rt.activeTargetId }

theorem eraseTab_erased (id : String) (rt : GuiRuntime) :
    rt.eraseTab id =
      if (rt.erased id).tabs.isEmpty && rt.options.shutdownOnZeroTabs then (rt.erased id).shutdown
      else rt.erased id := by
  simp only [eraseTab, erased, chooseFallbackActiveTab]
  generalize (rt.activeTargetId == id) = wasActive
  cases wasActive with
  | true => rfl
  | false => rfl

/-- The active tab is still there once another one is erased. -/
private theorem Consistent.erased_active {id : String} (h : rt.Consistent) (htabs : rt.tabs ≠ [])
    (hactive : rt.activeTargetId ≠ id) :
    rt.activeTargetId ∈ (rt.erased id).targetIds := by
  obtain ⟨tab, htab, hname⟩ := List.mem_map.mp (h.active_mem htabs)
  have hkept : tab ∈ (rt.erased id).tabs :=
    (List.mem_eraseP_of_neg (by simpa [hname] using hactive)).mpr htab
  exact List.mem_map.mpr ⟨tab, hkept, hname⟩

theorem Consistent.erased {id : String} (h : rt.Consistent) (htabs : rt.tabs ≠ []) :
    (rt.erased id).Consistent := by
  have hsub : (rt.erased id).targetIds.Sublist rt.targetIds :=
    List.eraseP_sublist.map GuiTab.targetId
  have hname : (rt.erased id).activeTargetId =
      if rt.activeTargetId = id then
        ((rt.erased id).tabs.head?.map GuiTab.targetId).getD ""
      else rt.activeTargetId := by
    simp [GuiRuntime.erased]
  refine ⟨hsub.nodup h.nodup, ?_, ?_, h.quits⟩
  · intro hrest
    rw [hname]
    split
    · obtain ⟨head, hhead⟩ := Option.isSome_iff_exists.mp (List.isSome_head?.mpr hrest)
      rw [hhead]
      exact List.mem_map_of_mem (List.mem_of_mem_head? hhead)
    · rename_i hactive
      exact h.erased_active htabs hactive
  · intro hrest
    rw [hname]
    split
    · simp [hrest]
    · rename_i hactive
      have hkept := h.erased_active htabs hactive
      simp [targetIds, hrest] at hkept

theorem Consistent.eraseTab {tab : GuiTab} (h : rt.Consistent) (htab : tab ∈ rt.tabs) :
    (rt.eraseTab tab.targetId).Consistent ∧ Removal rt (rt.eraseTab tab.targetId) False := by
  have hsub : (rt.erased tab.targetId).targetIds.Sublist rt.targetIds :=
    List.eraseP_sublist.map GuiTab.targetId
  have hremoval : Removal rt (rt.erased tab.targetId) False :=
    { Removal.refl rt with tabs := hsub }
  have hconsistent : (rt.erased tab.targetId).Consistent := h.erased (List.ne_nil_of_mem htab)
  rw [eraseTab_erased]
  split
  · rename_i hzero
    obtain ⟨hshutdown, hdown⟩ := hconsistent.shutdown
    refine ⟨hshutdown, hdown.tabs.trans hsub, hdown.nextTabId, hdown.options, ?_, ?_⟩
    · intro id hid
      exact (hdown.pending id hid).imp_right fun hmem => hsub.subset hmem
    · intro _
      simp only [Bool.and_eq_true] at hzero
      exact .inr (.inl hzero.2)
  · exact ⟨hconsistent, hremoval⟩

theorem Consistent.closeTab (h : rt.Consistent) (targetId : Option String) :
    (rt.closeTab targetId).1.Consistent ∧ Removal rt (rt.closeTab targetId).1 False := by
  simp only [GuiRuntime.closeTab]
  generalize targetId.getD rt.activeTargetId = id
  split
  · exact ⟨h, .refl rt⟩
  · cases hfind : rt.findTab id with
    | none => exact ⟨h, .refl rt⟩
    | some tab =>
        obtain ⟨htab, rfl⟩ := mem_of_findTab hfind
        exact h.eraseTab htab

theorem Consistent.removeClosedWindow (h : rt.Consistent) (targetId : String) :
    (rt.removeClosedWindow targetId).Consistent ∧
      Removal rt (rt.removeClosedWindow targetId) False := by
  simp only [GuiRuntime.removeClosedWindow]
  cases hfind : rt.findTab targetId with
  | none => exact ⟨h, .refl rt⟩
  | some tab =>
      obtain ⟨htab, rfl⟩ := mem_of_findTab hfind
      exact h.eraseTab htab

theorem takeCloseCallback_targetIds (targetId : String) (tabs : List GuiTab) :
    (tabs.map fun tab =>
      if tab.targetId == targetId then { tab with closeCallback := false } else tab).map
      GuiTab.targetId = tabs.map GuiTab.targetId := by
  rw [List.map_map]
  refine List.map_congr_left ?_
  intro tab _
  simp only [Function.comp_apply]
  split <;> rfl

/-- A window that asks to be closed changes no tab but its own callback. -/
theorem Consistent.onWindowCloseRequested (h : rt.Consistent) (targetId : String) :
    (rt.onWindowCloseRequested targetId).Consistent ∧
      Removal rt (rt.onWindowCloseRequested targetId) False := by
  unfold GuiRuntime.onWindowCloseRequested
  cases hfind : rt.findTab targetId with
  | none => exact ⟨h, .refl rt⟩
  | some tab =>
      simp only
      split
      · have hids := takeCloseCallback_targetIds targetId rt.tabs
        refine ⟨⟨?_, ?_, ?_, h.quits⟩, ?_, rfl, rfl, ?_, fun hstarted => .inl hstarted⟩
        · rw [targetIds, hids]
          exact h.nodup
        · simpa only [targetIds, hids, ne_eq, List.map_eq_nil_iff] using h.active_mem
        · simpa only [List.map_eq_nil_iff] using h.active_empty
        · rw [targetIds, hids]
          exact .refl _
        · intro id hid
          rcases List.mem_append.mp hid with hid | hid
          · exact .inl hid
          · obtain ⟨htab, rfl⟩ := mem_of_findTab hfind
            rw [List.mem_singleton.mp hid]
            exact .inr (List.mem_map_of_mem htab)
      · exact ⟨h, .refl rt⟩

/-- A posted removal that runs. -/
theorem Consistent.runRemoval (h : rt.Consistent) (targetId : String) :
    let posted := { rt with pendingRemovals := rt.pendingRemovals.erase targetId }
    (posted.removeClosedWindow targetId).Consistent ∧
      Removal rt (posted.removeClosedWindow targetId) False := by
  intro posted
  have hposted : posted.Consistent := ⟨h.nodup, h.active_mem, h.active_empty, h.quits⟩
  obtain ⟨hrt, hremoval⟩ := hposted.removeClosedWindow targetId
  refine ⟨hrt, hremoval.tabs, hremoval.nextTabId, hremoval.options, ?_, hremoval.shutdown⟩
  intro id hid
  exact (hremoval.pending id hid).imp_left List.mem_of_mem_erase

/-- A `CreateTab` that fails leaves the tabs and the active one; it may have drawn an id. -/
theorem createTab_none {build : GuiBuilder} {url : GURL}
    (h : (rt.createTab build url).2 = none) :
    ∃ next, (rt.createTab build url).1 = { rt with nextTabId := next } := by
  rcases rt.createTab_cases build url with ⟨-, heq⟩ | ⟨_, -, heq⟩ | ⟨_, -, heq⟩
  · exact ⟨rt.nextTabId, by rw [heq]⟩
  · exact ⟨rt.nextTabId + 1, by rw [heq]⟩
  · rw [heq] at h
    cases h

theorem createTab_options (build : GuiBuilder) (url : GURL) :
    (rt.createTab build url).1.options = rt.options := by
  rcases rt.createTab_cases build url with ⟨-, heq⟩ | ⟨_, -, heq⟩ | ⟨_, -, heq⟩ <;> rw [heq]

theorem drawnId_length (build : GuiBuilder) (url : GURL) : (rt.drawnId build url).length ≤ 1 := by
  unfold drawnId
  cases build url <;> simp

theorem createTab_keeps (build : GuiBuilder) (url : GURL) :
    ∀ id ∈ rt.targetIds, id ∈ (rt.createTab build url).1.targetIds := by
  intro id hid
  rcases rt.createTab_cases build url with ⟨-, heq⟩ | ⟨_, -, heq⟩ | ⟨_, -, heq⟩
  · rwa [heq]
  · rwa [heq]
  · rw [heq, targetIds, List.map_append]
    exact List.mem_append_left _ hid

/-- The tab that `CreateTab` adds has the id that it draws. -/
theorem createTab_drawn {id : String} (build : GuiBuilder) (url : GURL)
    (hid : id ∈ (rt.createTab build url).1.targetIds) :
    id ∈ rt.targetIds ∨ id ∈ rt.drawnId build url := by
  rcases rt.createTab_cases build url with ⟨-, heq⟩ | ⟨_, -, heq⟩ | ⟨webContents, hbuild, heq⟩
  · rw [heq] at hid
    exact .inl hid
  · rw [heq] at hid
    exact .inl hid
  · rw [heq, targetIds, List.map_append] at hid
    rw [drawnId, hbuild]
    exact List.mem_append.mp hid

theorem closeTab_false {targetId : Option String} (h : (rt.closeTab targetId).2 = false) :
    (rt.closeTab targetId).1 = rt := by
  simp only [closeTab] at h ⊢
  generalize targetId.getD rt.activeTargetId = id at h ⊢
  split
  · rfl
  · rename_i hempty
    split
    · rfl
    · rename_i hfind
      simp [hempty, hfind] at h

end GuiRuntime

/-- The counter and the ids drawn from it, and where every id of a tab is. -/
structure GuiRun.Inv (run : GuiRun) : Prop where
  consistent : run.runtime.Consistent
  counter : run.runtime.nextTabId = .ofNat (run.issued.length + 1)
  issued : run.issued =
    (List.range run.issued.length).map fun i => GuiRuntime.makeTargetId (.ofNat (i + 1))
  tabs_issued : ∀ id ∈ run.runtime.targetIds, id ∈ run.issued
  gone_issued : ∀ id ∈ run.gone, id ∈ run.issued
  gone_absent : ∀ id ∈ run.gone, id ∉ run.runtime.targetIds
  pending : ∀ id ∈ run.runtime.pendingRemovals, id ∈ run.runtime.targetIds ∨ id ∈ run.gone
  shutdown : run.runtime.shutdownStarted →
    run.shutdownCalled ∨ run.runtime.options.shutdownOnZeroTabs

namespace GuiRun

variable {run run' : GuiRun}

theorem Inv.nodup_issued (h : run.Inv) (hcount : run.issued.length < 2 ^ 64) :
    run.issued.Nodup := by
  rw [h.issued]
  refine List.Nodup.map_on ?_ List.nodup_range
  intro i hi j hj heq
  rw [GuiRuntime.makeTargetId_inj] at heq
  have hval := congrArg UInt64.toNat heq
  simp only [List.mem_range] at hi hj
  simp only [UInt64.toNat_ofNat'] at hval
  rw [Nat.mod_eq_of_lt (by omega), Nat.mod_eq_of_lt (by omega)] at hval
  omega

/-- The next id is a new one as long as the counter has not come round. -/
theorem Inv.fresh (h : run.Inv) (hcount : run.issued.length + 1 < 2 ^ 64) :
    GuiRuntime.makeTargetId run.runtime.nextTabId ∉ run.issued := by
  rw [h.counter, h.issued]
  intro hmem
  obtain ⟨i, hi, heq⟩ := List.mem_map.mp hmem
  rw [GuiRuntime.makeTargetId_inj] at heq
  have hval := congrArg UInt64.toNat heq
  simp only [List.length_map, List.length_range, List.mem_range] at hi hval
  simp only [UInt64.toNat_ofNat'] at hval
  rw [Nat.mod_eq_of_lt (by omega), Nat.mod_eq_of_lt (by omega)] at hval
  omega

/-- What becomes of the tabs that go, when none comes. -/
theorem Inv.removal {rt : GuiRuntime} {asked : Prop} {called : Bool} (h : run.Inv)
    (hrt : rt.Consistent) (hremoval : run.runtime.Removal rt asked)
    (hcalled : run.shutdownCalled ∨ asked → called) :
    Inv { run.next rt with shutdownCalled := called } := by
  have hsub := hremoval.tabs.subset
  refine ⟨hrt, hremoval.nextTabId.trans h.counter, h.issued, ?_, ?_, ?_, ?_, ?_⟩
  · intro id hid
    exact h.tabs_issued id (hsub hid)
  · intro id hid
    rcases List.mem_append.mp hid with hid | hid
    · exact h.gone_issued id hid
    · exact h.tabs_issued id (List.mem_of_mem_filter hid)
  · intro id hid
    rcases List.mem_append.mp hid with hid | hid
    · exact fun hmem => h.gone_absent id hid (hsub hmem)
    · exact of_decide_eq_true (List.mem_filter.mp hid).2
  · intro id hid
    have hknown : id ∈ run.runtime.targetIds ∨ id ∈ run.gone := by
      rcases hremoval.pending id hid with hid | hid
      · exact h.pending id hid
      · exact .inl hid
    by_cases hkept : id ∈ rt.targetIds
    · exact .inl hkept
    · refine .inr (List.mem_append.mpr ?_)
      rcases hknown with hmem | hmem
      · exact .inr (List.mem_filter.mpr ⟨hmem, by simpa using hkept⟩)
      · exact .inl hmem
  · intro hstarted
    change called = true ∨ rt.options.shutdownOnZeroTabs = true
    rw [hremoval.options]
    rcases hremoval.shutdown hstarted with hstarted | hzero | hasked
    · exact (h.shutdown hstarted).imp_left fun hbefore => hcalled (.inl hbefore)
    · exact .inr hzero
    · exact .inl (hcalled (.inr hasked))

/-- No tab has gone. -/
private theorem next_eq (run : GuiRun) {rt : GuiRuntime}
    (htabs : ∀ id ∈ run.runtime.targetIds, id ∈ rt.targetIds) :
    run.next rt = { run with runtime := rt } := by
  have hnone : run.runtime.targetIds.filter (fun id => id ∉ rt.targetIds) = [] := by
    refine List.filter_eq_nil_iff.mpr ?_
    intro id hid
    simpa using htabs id hid
  simp only [next, hnone, List.append_nil]

/-- `CreateTab` makes an id. -/
theorem Inv.draw (h : run.Inv) :
    Inv { run with
      runtime := { run.runtime with nextTabId := run.runtime.nextTabId + 1 }
      issued := run.issued ++ [GuiRuntime.makeTargetId run.runtime.nextTabId] } := by
  refine ⟨⟨h.consistent.nodup, h.consistent.active_mem, h.consistent.active_empty,
    h.consistent.quits⟩, ?_, ?_, ?_, ?_, h.gone_absent, h.pending, h.shutdown⟩
  · simp only [List.length_append, List.length_singleton, h.counter]
    rw [UInt64.ofNat_add (run.issued.length + 1) 1]
    rfl
  · simp only [List.length_append, List.length_singleton]
    rw [List.range_succ, List.map_append, ← h.issued, h.counter]
    rfl
  · intro id hid
    exact List.mem_append_left _ (h.tabs_issued id hid)
  · intro id hid
    exact List.mem_append_left _ (h.gone_issued id hid)

/-- `CreateTab` shows a tab under an issued id that no tab has had. -/
theorem Inv.addTab {tab : GuiTab} (h : run.Inv) (hissued : tab.targetId ∈ run.issued)
    (hnew : tab.targetId ∉ run.runtime.targetIds) (hgone : tab.targetId ∉ run.gone) :
    Inv { run with
      runtime := { run.runtime with
        tabs := run.runtime.tabs ++ [tab]
        activeTargetId := tab.targetId } } := by
  have hids : (run.runtime.tabs ++ [tab]).map GuiTab.targetId =
      run.runtime.targetIds ++ [tab.targetId] := by
    simp [GuiRuntime.targetIds]
  refine ⟨⟨?_, ?_, by simp, h.consistent.quits⟩, h.counter, h.issued, ?_, h.gone_issued, ?_, ?_,
    h.shutdown⟩
  · simpa only [GuiRuntime.targetIds, hids, List.concat_eq_append] using
      h.consistent.nodup.concat hnew
  · simp [GuiRuntime.targetIds]
  · intro id hid
    simp only [GuiRuntime.targetIds, hids] at hid
    rcases List.mem_append.mp hid with hid | hid
    · exact h.tabs_issued id hid
    · rwa [List.mem_singleton.mp hid]
  · intro id hid hmem
    simp only [GuiRuntime.targetIds, hids] at hmem
    rcases List.mem_append.mp hmem with hmem | hmem
    · exact h.gone_absent id hid hmem
    · exact hgone (List.mem_singleton.mp hmem ▸ hid)
  · intro id hid
    simp only [GuiRuntime.targetIds, hids]
    exact (h.pending id hid).imp_left fun hmem => List.mem_append_left _ hmem

/-- A `CreateTab` whose id is not one that an earlier one made. -/
theorem Inv.createTab {build : GuiBuilder} {url : GURL} (h : run.Inv)
    (hfresh : GuiRuntime.makeTargetId run.runtime.nextTabId ∉ run.issued) :
    Inv { run.next (run.runtime.createTab build url).1 with
      issued := run.issued ++ run.runtime.drawnId build url } := by
  rw [next_eq run (GuiRuntime.createTab_keeps build url), GuiRuntime.drawnId]
  rcases run.runtime.createTab_cases build url with
    ⟨hbuild, heq⟩ | ⟨webContents, hbuild, heq⟩ | ⟨webContents, hbuild, heq⟩
  · rw [heq, hbuild]
    simpa using h
  · rw [heq, hbuild]
    exact h.draw
  · rw [heq, hbuild]
    refine h.draw.addTab (by simp) ?_ ?_
    · exact fun hmem => hfresh (h.tabs_issued _ hmem)
    · exact fun hmem => hfresh (h.gone_issued _ hmem)

/-- What one event does to a run whose counter has not come round. -/
theorem Inv.step {event : GuiEvent} (h : run.Inv) (hstep : run.step event = some run')
    (hcount : event.isCreateTab → run.issued.length + 1 < 2 ^ 64) :
    run'.Inv ∧ run'.runtime.options = run.runtime.options ∧
      run'.issued.length ≤ run.issued.length + [event].countP GuiEvent.isCreateTab := by
  have hsame {rt : GuiRuntime} (hrt : rt.Consistent) (hremoval : run.runtime.Removal rt False) :
      (run.next rt).Inv ∧ (run.next rt).runtime.options = run.runtime.options := by
    refine ⟨h.removal hrt hremoval ?_, hremoval.options⟩
    rintro (hcalled | hasked)
    · exact hcalled
    · exact hasked.elim
  cases event with
  | createTab build url =>
      obtain rfl := Option.some.inj hstep
      refine ⟨h.createTab (h.fresh (hcount rfl)), GuiRuntime.createTab_options build url, ?_⟩
      simp only [List.length_append, List.countP_singleton, GuiEvent.isCreateTab, if_true]
      exact Nat.add_le_add_left (GuiRuntime.drawnId_length build url) _
  | closeTab targetId =>
      obtain rfl := Option.some.inj hstep
      obtain ⟨hrt, hremoval⟩ := h.consistent.closeTab targetId
      exact ⟨(hsame hrt hremoval).1, (hsame hrt hremoval).2, Nat.le_add_right _ _⟩
  | windowCloseRequested targetId =>
      obtain rfl := Option.some.inj hstep
      obtain ⟨hrt, hremoval⟩ := h.consistent.onWindowCloseRequested targetId
      exact ⟨(hsame hrt hremoval).1, (hsame hrt hremoval).2, Nat.le_add_right _ _⟩
  | removeClosedWindow targetId =>
      simp only [GuiRun.step] at hstep
      split at hstep
      · obtain rfl := Option.some.inj hstep
        obtain ⟨hrt, hremoval⟩ := h.consistent.runRemoval targetId
        exact ⟨(hsame hrt hremoval).1, (hsame hrt hremoval).2, Nat.le_add_right _ _⟩
      · cases hstep
  | resizeActive =>
      obtain rfl := Option.some.inj hstep
      exact ⟨h, rfl, Nat.le_add_right _ _⟩
  | shutdown =>
      obtain rfl := Option.some.inj hstep
      obtain ⟨hrt, hremoval⟩ := h.consistent.shutdown
      exact ⟨h.removal hrt hremoval fun _ => rfl, hremoval.options, Nat.le_add_right _ _⟩

/-- The run lemma: fewer than `2 ^ 64` calls of `CreateTab` in all. -/
theorem Inv.exec {events : List GuiEvent} (hrun : Exec (Step GuiRun.step) run events run')
    (h : run.Inv) (hcount : run.issued.length + events.countP GuiEvent.isCreateTab < 2 ^ 64) :
    run'.Inv ∧ run'.runtime.options = run.runtime.options ∧ run'.issued.length < 2 ^ 64 := by
  induction hrun with
  | nil => exact ⟨h, rfl, by simpa using hcount⟩
  | @cons s t u event events head tail ih =>
      have hcons : (event :: events).countP GuiEvent.isCreateTab =
          [event].countP GuiEvent.isCreateTab + events.countP GuiEvent.isCreateTab := by
        rw [← List.countP_append, List.singleton_append]
      have hone : event.isCreateTab → s.issued.length + 1 < 2 ^ 64 := by
        intro hcreate
        simp only [List.countP_cons, hcreate, if_true] at hcount
        omega
      obtain ⟨hinv, hoptions, hlength⟩ := h.step head hone
      obtain ⟨hinv, hoptions', hissued⟩ := ih hinv (by omega)
      exact ⟨hinv, hoptions'.trans hoptions, hissued⟩

theorem start_inv (options : RuntimeOptions) (quitCallback : Bool) :
    (start options quitCallback).Inv where
  consistent :=
    { nodup := List.nodup_nil
      active_mem := fun hne => absurd rfl hne
      active_empty := fun _ => rfl
      quits := rfl }
  counter := rfl
  issued := rfl
  tabs_issued := by simp [start, GuiRuntime.new, GuiRuntime.targetIds]
  gone_issued := by simp [start]
  gone_absent := by simp [start]
  pending := by simp [start, GuiRuntime.new]
  shutdown := by simp [start, GuiRuntime.new]

end GuiRun

end Browserd
