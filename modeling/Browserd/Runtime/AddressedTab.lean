import Browserd.Core.BrowserController
import Browserd.Runtime.TargetIds

/-!
# The tab that `CloseTab` closes

Every other operation finds its tab with `ResolveWebContents`. `CloseTab` of each runtime looks
for its target again, and takes an empty id for the id of a tab.
-/

namespace Browserd

open Transition

section Removes

variable {α β : Type*} {f : α → β}

/-- One occurrence of `a` is taken out, and nothing else. -/
def Removes (a : α) (before after : List α) : Prop :=
  ∃ front back, before = front ++ a :: back ∧ after = front ++ back

theorem Removes.map {a : α} {before after : List α} (h : Removes a before after) :
    Removes (f a) (before.map f) (after.map f) := by
  obtain ⟨front, back, rfl, rfl⟩ := h
  exact ⟨front.map f, back.map f, by simp, by simp⟩

theorem Removes.length {a : α} {before after : List α} (h : Removes a before after) :
    before.length = after.length + 1 := by
  obtain ⟨front, back, rfl, rfl⟩ := h
  simp only [List.length_append, List.length_cons]
  omega

theorem removes_eraseP {p : α → Bool} {a : α} {xs : List α} (h : xs.find? p = some a) :
    Removes a xs (xs.eraseP p) := by
  obtain ⟨hp, front, back, rfl, hfront⟩ := List.find?_eq_some_iff_append.mp h
  refine ⟨front, back, rfl, ?_⟩
  rw [List.eraseP_append_right _ (by simpa using hfront), List.eraseP_cons_of_pos hp]

/-- Keys that differ are filtered out one by one. -/
theorem removes_filter {κ : Type*} [BEq κ] [LawfulBEq κ] {key : α → κ} {a : α} {xs : List α}
    (hkeys : (xs.map key).Nodup) (h : a ∈ xs) :
    Removes a xs (xs.filter fun x => key x != key a) := by
  obtain ⟨front, back, rfl⟩ := List.append_of_mem h
  refine ⟨front, back, rfl, ?_⟩
  rw [List.map_append, List.map_cons, List.nodup_append, List.nodup_cons] at hkeys
  obtain ⟨-, ⟨hback, -⟩, hfront⟩ := hkeys
  have hkept : ∀ ys : List α, (∀ y ∈ ys, key y ≠ key a) →
      ys.filter (fun x => key x != key a) = ys := by
    intro ys hys
    exact List.filter_eq_self.mpr fun y hy => by simpa using hys y hy
  rw [List.filter_append, List.filter_cons_of_neg (by simp), hkept front, hkept back]
  · intro y hy heq
    exact hback (heq ▸ List.mem_map_of_mem hy)
  · intro y hy
    exact hfront (key y) (List.mem_map_of_mem hy) (key a) List.mem_cons_self

theorem removes_eraseIdx {a : α} {xs : List α} {i : Nat} (h : xs[i]? = some a) :
    Removes a xs (xs.eraseIdx i) := by
  obtain ⟨hi, rfl⟩ := List.getElem?_eq_some_iff.mp h
  refine ⟨xs.take i, xs.drop (i + 1), ?_, List.eraseIdx_eq_take_drop_succ ..⟩
  rw [← List.drop_eq_getElem_cons hi, List.take_append_drop]

/-- A removal inside one of the lists that make up a list. -/
theorem removes_flatMap {g : β → List α} {change : β → β} {a : α} {b : β} {xs : List β} {i : Nat}
    (hb : xs[i]? = some b) (h : Removes a (g b) (g (change b))) :
    Removes a (xs.flatMap g) ((xs.modify i change).flatMap g) := by
  obtain ⟨hi, rfl⟩ := List.getElem?_eq_some_iff.mp hb
  obtain ⟨front, back, hbefore, hafter⟩ := h
  refine ⟨(xs.take i).flatMap g ++ front, back ++ (xs.drop (i + 1)).flatMap g, ?_, ?_⟩
  · have hxs : xs = xs.take i ++ xs[i] :: xs.drop (i + 1) := by
      rw [← List.drop_eq_getElem_cons hi, List.take_append_drop]
    rw [hxs, List.flatMap_append, List.flatMap_cons, hbefore, ← hxs]
    simp
  · rw [List.modify_eq_take_cons_drop hi]
    simp [hafter]

end Removes

namespace BrowserController

variable {ρ : Type} [BrowserRuntime ρ]

/-- `CloseTab` closes the tab that `ResolveWebContents` yields for the same id, and no other; if
there is none it reports that and changes nothing. -/
structure ClosesAddressed (rt : ρ) (targetId : Option String) : Prop where
  closes : ∀ page, resolveWebContents rt targetId = some page →
    (closeTab targetId rt).2 = .ok ∧
      Removes page (BrowserRuntime.allWebContents rt)
        (BrowserRuntime.allWebContents (closeTab targetId rt).1)
  missing : resolveWebContents rt targetId = none →
    closeTab targetId rt = (rt, tabNotFound targetId)

/-- An empty id, which stands for the active tab everywhere else, stands for none. -/
def EmptyIdForNone (rt : ρ) (targetId : Option String) : Prop :=
  targetId = some "" → BrowserRuntime.activeWebContents rt = none

variable {rt : ρ} {targetId : Option String}

theorem resolveWebContents_none :
    resolveWebContents rt none = BrowserRuntime.activeWebContents rt := rfl

theorem resolveWebContents_empty :
    resolveWebContents rt (some "") = BrowserRuntime.activeWebContents rt := rfl

theorem resolveWebContents_id {id : String} (h : id ≠ "") :
    resolveWebContents rt (some id) = BrowserRuntime.getWebContentsByTargetId rt id := by
  rw [resolveWebContents, if_neg (by simpa [String.isEmpty_iff] using h)]

theorem closeTab_eq_ok (h : (BrowserRuntime.closeTab targetId rt).2 = true) :
    (closeTab targetId rt).2 = .ok := if_pos h

theorem closeTab_eq_tabNotFound (h : BrowserRuntime.closeTab targetId rt = (rt, false)) :
    closeTab targetId rt = (rt, tabNotFound targetId) := by
  rw [closeTab, h]
  rfl

/-- A runtime finds no tab under an empty id. -/
theorem closesAddressed_empty_iff (h : BrowserRuntime.closeTab (some "") rt = (rt, false)) :
    ClosesAddressed rt (some "") ↔ BrowserRuntime.activeWebContents rt = none := by
  rw [← resolveWebContents_empty]
  constructor
  · intro hcloses
    by_contra hactive
    obtain ⟨page, hpage⟩ := Option.ne_none_iff_exists'.mp hactive
    have hok := (hcloses.closes page hpage).1
    rw [closeTab_eq_tabNotFound h] at hok
    cases hok
  · intro hnone
    refine ⟨fun page hpage => ?_, fun _ => closeTab_eq_tabNotFound h⟩
    rw [hnone] at hpage
    cases hpage

/-- What is left is what a runtime does for the other ids. -/
theorem closesAddressed_iff_of {Closable : Prop}
    (h : BrowserRuntime.closeTab (some "") rt = (rt, false))
    (hother : targetId ≠ some "" → (ClosesAddressed rt targetId ↔ Closable))
    (hempty : targetId = some "" → Closable) :
    ClosesAddressed rt targetId ↔ EmptyIdForNone rt targetId ∧ Closable := by
  by_cases heq : targetId = some ""
  · rw [and_iff_left (hempty heq), EmptyIdForNone, heq, closesAddressed_empty_iff h]
    exact ⟨fun hnone _ => hnone, fun hnone => hnone rfl⟩
  · rw [hother heq, EmptyIdForNone]
    exact (and_iff_right fun hsome => absurd hsome heq).symm

end BrowserController

open BrowserController

namespace GuiRuntime

variable {rt : GuiRuntime} {targetId : Option String}

/-- What `CloseTab` does with the id it looks for. -/
theorem closeTab_of_id {id : String} (hid : targetId.getD rt.activeTargetId = id) (hne : id ≠ "") :
    rt.closeTab targetId =
      if (rt.findTab id).isNone then (rt, false) else (rt.eraseTab id, true) := by
  simp only [closeTab, hid]
  rw [if_neg (by simpa [String.isEmpty_iff] using hne)]

theorem removes_eraseTab {id : String} {tab : GuiTab} (h : rt.findTab id = some tab) :
    Removes tab.webContents rt.allWebContents (rt.eraseTab id).allWebContents := by
  have herased : Removes tab rt.tabs (rt.erased id).tabs := removes_eraseP h
  have hshutdown : (rt.erased id).tabs.isEmpty = true →
      (rt.erased id).shutdown.tabs = (rt.erased id).tabs := by
    intro hnil
    rw [List.isEmpty_iff] at hnil
    unfold shutdown
    split
    · rfl
    · exact hnil.symm
  rw [eraseTab_erased]
  split
  · rename_i hzero
    simp only [Bool.and_eq_true] at hzero
    rw [allWebContents, allWebContents, hshutdown hzero.1]
    exact herased.map
  · exact herased.map

theorem resolveWebContents_eq (h : targetId ≠ some "") :
    resolveWebContents rt targetId =
      (rt.findTab (targetId.getD rt.activeTargetId)).map GuiTab.webContents := by
  cases targetId with
  | none => rfl
  | some id => exact resolveWebContents_id fun hid => h (congrArg some hid)

theorem closesAddressed (hids : ∀ tab ∈ rt.tabs, tab.targetId ≠ "") (h : targetId ≠ some "") :
    ClosesAddressed rt targetId := by
  have hresolve := @resolveWebContents_eq rt targetId h
  generalize hid : targetId.getD rt.activeTargetId = id at hresolve
  by_cases hne : id = ""
  · have hnone : rt.findTab id = none := by
      refine List.find?_eq_none.mpr fun tab htab => ?_
      simpa [hne] using hids tab htab
    have hclose : rt.closeTab targetId = (rt, false) := by
      simp only [closeTab, hid]
      exact if_pos (by simp [hne])
    rw [hnone, Option.map_none] at hresolve
    refine ⟨fun page hpage => ?_, fun _ => closeTab_eq_tabNotFound hclose⟩
    rw [hresolve] at hpage
    cases hpage
  · have hclose := closeTab_of_id hid hne
    constructor
    case closes =>
      intro page hpage
      rw [hresolve] at hpage
      obtain ⟨tab, htab, rfl⟩ := Option.map_eq_some_iff.mp hpage
      have herased : rt.closeTab targetId = (rt.eraseTab id, true) := by
        rw [hclose, htab]
        rfl
      refine ⟨closeTab_eq_ok (congrArg Prod.snd herased), ?_⟩
      have hruntime : (BrowserController.closeTab targetId rt).1 = rt.eraseTab id :=
        congrArg Prod.fst herased
      rw [hruntime]
      exact removes_eraseTab htab
    case missing =>
      intro hnone
      rw [hresolve, Option.map_eq_none_iff] at hnone
      apply closeTab_eq_tabNotFound
      show rt.closeTab targetId = (rt, false)
      rw [hclose, hnone]
      rfl

theorem closeTab_empty : rt.closeTab (some "") = (rt, false) := rfl

theorem closesAddressed_iff (hids : ∀ tab ∈ rt.tabs, tab.targetId ≠ "")
    (targetId : Option String) : ClosesAddressed rt targetId ↔ EmptyIdForNone rt targetId := by
  rw [closesAddressed_iff_of closeTab_empty
    (fun h => iff_of_true (closesAddressed hids h) trivial) fun _ => trivial]
  exact and_iff_left trivial

end GuiRuntime

namespace HeadlessRuntime

variable {rt : HeadlessRuntime} {targetId : Option String}

theorem resolveWebContents_eq (h : targetId ≠ some "") :
    resolveWebContents rt targetId =
      (rt.closeTarget targetId).map HeadlessWebContents.webContents := by
  cases targetId with
  | none => rfl
  | some id => exact resolveWebContents_id fun hid => h (congrArg some hid)

theorem findByTargetId_empty : rt.findByTargetId "" = none := by
  refine List.find?_eq_none.mpr fun contents _ => ?_
  simp only [beq_iff_eq]
  intro heq
  have hlist := congrArg String.toList heq
  simp [makeTargetId] at hlist

theorem closeTab_empty : rt.closeTab (some "") = (rt, false) := by
  simp only [closeTab, closeTarget, findByTargetId_empty]

/-- Shutting down after the last tab takes no other tab away. -/
theorem closeTab_contents {closing : HeadlessWebContents}
    (h : rt.closeTarget targetId = some closing) :
    (rt.closeTab targetId).1.contents =
      rt.contents.filter fun contents => contents.address != closing.address := by
  simp only [closeTab, h]
  split
  · rename_i hnone
    have hnil : (rt.contents.filter fun contents => contents.address != closing.address) = [] := by
      simpa [closeContents, chooseFallbackActiveTab] using hnone
    exact hnil.symm
  · rfl

theorem closesAddressed (hlive : (rt.contents.map HeadlessWebContents.address).Nodup)
    (h : targetId ≠ some "") : ClosesAddressed rt targetId := by
  have hresolve := @resolveWebContents_eq rt targetId h
  constructor
  case closes =>
    intro page hpage
    rw [hresolve] at hpage
    obtain ⟨closing, hclosing, rfl⟩ := Option.map_eq_some_iff.mp hpage
    have hclosed : (rt.closeTab targetId).2 = true := by simp only [closeTab, hclosing]
    refine ⟨closeTab_eq_ok hclosed, ?_⟩
    have hremoves := removes_filter hlive (closeTarget_mem hclosing)
    rw [← closeTab_contents hclosing] at hremoves
    exact hremoves.map
  case missing =>
    intro hnone
    rw [hresolve, Option.map_eq_none_iff] at hnone
    apply closeTab_eq_tabNotFound
    show rt.closeTab targetId = (rt, false)
    simp only [closeTab, hnone]

theorem closesAddressed_iff (hlive : (rt.contents.map HeadlessWebContents.address).Nodup)
    (targetId : Option String) : ClosesAddressed rt targetId ↔ EmptyIdForNone rt targetId := by
  rw [closesAddressed_iff_of closeTab_empty
    (fun h => iff_of_true (closesAddressed hlive h) trivial) fun _ => trivial]
  exact and_iff_left trivial

end HeadlessRuntime

namespace NativeChromeRuntime

variable {rt : NativeChromeRuntime} {targetId : Option String}

/-- The tab at a place that `CloseTab` has found. -/
def tabAt (rt : NativeChromeRuntime) (place : Nat × Nat) : Option ChromeTab :=
  rt.windows[place.1]?.bind fun browser => browser.tabs[place.2]?

/-- The tab that `CloseTab` closes, if its page lets it. -/
def closingTab (rt : NativeChromeRuntime) (targetId : Option String) : Option ChromeTab :=
  (rt.closeTarget targetId).bind rt.tabAt

/-- The page of the tab goes at once, without asking its user. -/
def ClosesAtOnce (rt : NativeChromeRuntime) (targetId : Option String) : Prop :=
  ∀ tab, rt.closingTab targetId = some tab → tab.beforeUnload = false

/-- What the search finds is at its place. -/
theorem locate_some {target : Int32} {windows : List BrowserWindow} {located : LocatedTab}
    (h : locate target windows = some located) :
    ((windows[located.browser]?.bind fun browser => browser.tabs[located.index]?).map
      ChromeTab.webContents) = some located.webContents := by
  induction windows generalizing located with
  | nil => cases h
  | cons browser rest ih =>
      unfold locate at h
      split at h
      · rename_i tab index hfind
        obtain rfl := Option.some.inj h
        have hmem := List.mem_of_find?_eq_some hfind
        have hat := List.mem_zipIdx_iff_getElem?.mp hmem
        simp [hat]
      · obtain ⟨inner, hinner, rfl⟩ := Option.map_eq_some_iff.mp h
        simpa using ih hinner

theorem resolveWebContents_eq (h : targetId ≠ some "") :
    resolveWebContents rt targetId = (rt.closingTab targetId).map ChromeTab.webContents := by
  cases targetId with
  | none =>
      simp only [resolveWebContents_none, BrowserRuntime.activeWebContents, activeWebContents,
        closingTab, closeTarget]
      cases rt.activeBrowserWindow with
      | none => rfl
      | some i =>
          cases hwindow : rt.windows[i]? with
          | none => simp [hwindow]
          | some browser =>
              cases hactive : browser.activeIndex with
              | none => simp [hwindow, hactive]
              | some index => simp [hwindow, hactive, tabAt]
  | some id =>
      rw [resolveWebContents_id fun hid => h (congrArg some hid)]
      simp only [BrowserRuntime.getWebContentsByTargetId, getWebContentsByTargetId, closingTab,
        closeTarget]
      cases hfind : rt.findTabByTargetId id with
      | none => rfl
      | some located =>
          obtain ⟨target, -, hlocate⟩ := Option.bind_eq_some_iff.mp hfind
          exact (locate_some hlocate).symm

theorem closeTab_empty : rt.closeTab (some "") = (rt, false) := rfl

theorem closeTab_of_none (h : rt.closingTab targetId = none) :
    rt.closeTab targetId = (rt, false) := by
  unfold closeTab
  split
  · rfl
  · rename_i browser index htarget
    have hnone : rt.tabAt (browser, index) = none := by simpa [closingTab, htarget] using h
    apply if_pos
    cases hwindow : rt.windows[browser]? with
    | none => simp
    | some w =>
        rw [tabAt, hwindow, Option.bind_some, List.getElem?_eq_none_iff] at hnone
        simpa using hnone

theorem closeTab_of_some {tab : ChromeTab} (h : rt.closingTab targetId = some tab) :
    ∃ browser index w, rt.windows[browser]? = some w ∧ w.tabs[index]? = some tab ∧
      rt.closeTab targetId = (rt.closeWebContentsAt browser index, true) := by
  obtain ⟨⟨browser, index⟩, htarget, htab⟩ := Option.bind_eq_some_iff.mp h
  obtain ⟨w, hwindow, htab⟩ := Option.bind_eq_some_iff.mp htab
  refine ⟨browser, index, w, hwindow, htab, ?_⟩
  have hlt := (List.getElem?_eq_some_iff.mp htab).1
  simp only [closeTab, htarget, hwindow, Option.map_some, Option.getD_some]
  exact if_neg (Nat.not_le.mpr hlt)

/-- The tab strip takes the tab out unless its page asks first. -/
theorem removes_closeWebContentsAt_iff {browser index : Nat} {w : BrowserWindow} {tab : ChromeTab}
    (hwindow : rt.windows[browser]? = some w) (htab : w.tabs[index]? = some tab) :
    Removes tab.webContents rt.allWebContents (rt.closeWebContentsAt browser index).allWebContents ↔
      tab.beforeUnload = false := by
  cases hbefore : tab.beforeUnload with
  | false =>
      apply iff_of_true _ rfl
      have hstrip : Removes tab w.tabs
          (if (w.tabs[index]?.map ChromeTab.beforeUnload).getD true then w
            else { w with
              tabs := w.tabs.eraseIdx index
              activeIndex := rt.nextActive w index }).tabs := by
        rw [htab, Option.map_some, Option.getD_some, hbefore, if_neg (by simp)]
        exact removes_eraseIdx htab
      exact (removes_flatMap hwindow hstrip).map
  | true =>
      apply iff_of_false _ (by simp)
      obtain ⟨hlt, rfl⟩ := List.getElem?_eq_some_iff.mp hwindow
      have hsame : (rt.closeWebContentsAt browser index).windows = rt.windows := by
        simp only [closeWebContentsAt]
        rw [List.modify_eq_take_cons_drop hlt, if_pos (by simp [htab, hbefore]),
          ← List.drop_eq_getElem_cons hlt, List.take_append_drop]
      intro hremoves
      have hlength := hremoves.length
      simp only [allWebContents, tabs, hsame] at hlength
      omega

theorem closesAddressed_iff (rt : NativeChromeRuntime) (targetId : Option String) :
    ClosesAddressed rt targetId ↔
      EmptyIdForNone rt targetId ∧ rt.ClosesAtOnce targetId := by
  apply closesAddressed_iff_of closeTab_empty
  · intro h
    have hresolve := @resolveWebContents_eq rt targetId h
    cases hclosing : rt.closingTab targetId with
    | none =>
        have hclose := closeTab_of_none hclosing
        rw [hclosing, Option.map_none] at hresolve
        apply iff_of_true
        · refine ⟨fun page hpage => ?_, fun _ => closeTab_eq_tabNotFound hclose⟩
          rw [hresolve] at hpage
          cases hpage
        · intro tab htab
          rw [hclosing] at htab
          cases htab
    | some tab =>
        obtain ⟨browser, index, w, hwindow, htab, hclose⟩ := closeTab_of_some hclosing
        rw [hclosing, Option.map_some] at hresolve
        have hruntime : (BrowserController.closeTab targetId rt).1 =
            rt.closeWebContentsAt browser index := congrArg Prod.fst hclose
        have hremoves := removes_closeWebContentsAt_iff hwindow htab
        constructor
        · intro hcloses closing hsome
          obtain rfl : tab = closing := Option.some.inj (hclosing.symm.trans hsome)
          have hgone := (hcloses.closes _ hresolve).2
          rw [hruntime] at hgone
          exact hremoves.mp hgone
        · intro honce
          constructor
          case closes =>
            intro page hpage
            obtain rfl := Option.some.inj (hresolve.symm.trans hpage)
            refine ⟨closeTab_eq_ok (congrArg Prod.snd hclose), ?_⟩
            rw [hruntime]
            exact hremoves.mpr (honce tab hclosing)
          case missing =>
            intro hnone
            rw [hresolve] at hnone
            cases hnone
  · rintro rfl tab htab
    cases htab

end NativeChromeRuntime

namespace GuiRun

variable {run run' : GuiRun} {event : GuiEvent}

/-- An event lists no id but those listed before and one that `CreateTab` makes. -/
theorem targetIds_of_step {id : String} (h : run.step event = some run')
    (hid : id ∈ run'.runtime.targetIds) :
    id ∈ run.runtime.targetIds ∨ ∃ n, id = GuiRuntime.makeTargetId n := by
  have hkept {old new : GuiRuntime} (hsub : new.tabs.Sublist old.tabs)
      (hmem : id ∈ new.targetIds) : id ∈ old.targetIds := (hsub.map _).subset hmem
  cases event with
  | createTab build url =>
      obtain rfl := Option.some.inj h
      refine (GuiRuntime.createTab_drawn build url hid).imp_right ?_
      unfold GuiRuntime.drawnId
      split
      · simp
      · intro hdrawn
        exact ⟨_, List.mem_singleton.mp hdrawn⟩
  | closeTab targetId =>
      obtain rfl := Option.some.inj h
      exact .inl (hkept (GuiRuntime.closeTab_sublist targetId run.runtime) hid)
  | windowCloseRequested targetId =>
      obtain rfl := Option.some.inj h
      left
      simp only [next, GuiRuntime.onWindowCloseRequested] at hid
      split at hid
      · exact hid
      · split at hid
        · rwa [GuiRuntime.targetIds, GuiRuntime.takeCloseCallback_targetIds] at hid
        · exact hid
  | removeClosedWindow targetId =>
      simp only [step] at h
      split at h
      · obtain rfl := Option.some.inj h
        left
        simp only [next, GuiRuntime.removeClosedWindow] at hid
        split at hid
        · exact hid
        · have hsub := GuiRuntime.eraseTab_sublist targetId
            { run.runtime with pendingRemovals := run.runtime.pendingRemovals.erase targetId }
          exact hkept hsub hid
      · cases h
  | resizeActive =>
      obtain rfl := Option.some.inj h
      exact .inl hid
  | shutdown =>
      obtain rfl := Option.some.inj h
      exact .inl (hkept (GuiRuntime.shutdown_sublist run.runtime) hid)

theorem targetIds_ne_empty {options : RuntimeOptions} {quitCallback : Bool}
    {events : List GuiEvent} (h : Exec (Step GuiRun.step) (start options quitCallback) events run) :
    ∀ id ∈ run.runtime.targetIds, id ≠ "" := by
  apply h.invariant (I := fun run => ∀ id ∈ run.runtime.targetIds, id ≠ "")
  · intro run event run' hrun hstep id hid
    rcases targetIds_of_step hstep hid with hold | ⟨n, rfl⟩
    · exact hrun id hold
    · exact GuiRuntime.makeTargetId_ne_empty n
  · intro id hid
    cases hid

end GuiRun

/-- `CloseTab` closes the tab that every other operation would address, and no other, exactly when
an empty id does not stand for a tab and, in Chrome, the page of the tab goes at once. -/
theorem closeTab_addressed_iff (targetId : Option String) :
    (∀ (options : RuntimeOptions) (quitCallback : Bool) (events : List GuiEvent) (run : GuiRun),
        Exec (Step GuiRun.step) (.start options quitCallback) events run →
        (ClosesAddressed run.runtime targetId ↔ EmptyIdForNone run.runtime targetId)) ∧
      (∀ rt : HeadlessRuntime, (rt.contents.map HeadlessWebContents.address).Nodup →
        (ClosesAddressed rt targetId ↔ EmptyIdForNone rt targetId)) ∧
      ∀ rt : NativeChromeRuntime,
        ClosesAddressed rt targetId ↔ EmptyIdForNone rt targetId ∧ rt.ClosesAtOnce targetId := by
  refine ⟨?_, ?_, fun rt => NativeChromeRuntime.closesAddressed_iff rt targetId⟩
  · intro options quitCallback events run hrun
    apply GuiRuntime.closesAddressed_iff
    intro tab htab
    exact GuiRun.targetIds_ne_empty hrun tab.targetId (List.mem_map_of_mem htab)
  · intro rt hlive
    exact HeadlessRuntime.closesAddressed_iff hlive targetId

section Samples

private def plainTab (address : Nat) : GuiBuilder := fun url =>
  some (⟨address, "", url, false, false, false⟩, true)

/-- Two tabs, the second one active. -/
private def twoWindows : List GuiEvent :=
  [.createTab (plainTab 1) .aboutBlank, .createTab (plainTab 2) .aboutBlank]

theorem closeTab_addressed_sample :
    ∃ run, Exec (Step GuiRun.step) (.start {} true) twoWindows run ∧
      run.runtime.targetIds = ["gui-1", "gui-2"] ∧ ClosesAddressed run.runtime (some "gui-1") ∧
      ClosesAddressed (⟨[blankAt 256 1, blankAt 512 2], some 2, false⟩ : HeadlessRuntime)
        (some "0x100") := by
  have hend : ((twoWindows.foldlM GuiRun.step (.start {} true)).map fun run =>
      run.runtime.targetIds) = some ["gui-1", "gui-2"] := by
    decide +kernel
  obtain ⟨run, hrun, hids⟩ := Exec.exists_of_foldlM hend
  refine ⟨run, hrun, hids, ?_, ?_⟩
  · apply ((closeTab_addressed_iff (some "gui-1")).1 {} true twoWindows run hrun).mpr
    intro hempty
    simp at hempty
  · apply ((closeTab_addressed_iff (some "0x100")).2.1 _ (by decide)).mpr
    intro hempty
    simp at hempty

/-- Two tabs are open and an empty id is sent, which stands for the active one. -/
theorem closeTab_misses_empty :
    (∃ run, Exec (Step GuiRun.step) (.start {} true) twoWindows run ∧
      (resolveWebContents run.runtime (some "")).map WebContents.address = some 2 ∧
      ¬ ClosesAddressed run.runtime (some "")) ∧
      ¬ ClosesAddressed (⟨[blankAt 256 1, blankAt 512 2], some 2, false⟩ : HeadlessRuntime)
        (some "") := by
  constructor
  · have hend : ((twoWindows.foldlM GuiRun.step (.start {} true)).map fun run =>
        (resolveWebContents run.runtime (some "")).map WebContents.address) = some (some 2) := by
      decide +kernel
    obtain ⟨run, hrun, hactive⟩ := Exec.exists_of_foldlM hend
    refine ⟨run, hrun, hactive, fun hcloses => ?_⟩
    have hnone := (closesAddressed_empty_iff GuiRuntime.closeTab_empty).mp hcloses
    rw [resolveWebContents_empty, hnone] at hactive
    cases hactive
  · intro hcloses
    have hnone := (closesAddressed_empty_iff HeadlessRuntime.closeTab_empty).mp hcloses
    cases hnone

end Samples

end Browserd
