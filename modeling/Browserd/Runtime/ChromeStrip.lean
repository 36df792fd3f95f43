import Browserd.Lib.Digits
import Browserd.Runtime.NativeChromeRuntime

/-!
# The tabs of the native Chrome runtime

A target id is parsed back to the session id it was made from, and the search through the windows
is a search of the listed tabs. Creating a tab adds it to one strip, closing one takes it out.
-/

namespace Browserd

namespace NativeChromeRuntime

/-- What `makeTargetId` makes of a valid session id. -/
def idOf (n : Nat) : String := targetPrefix ++ n.repr

theorem idOf_injective : Function.Injective idOf := Digits.append_repr_injective _

/-- The number of a session id, if it is valid. -/
def sessionNumber (tab : ChromeTab) : Nat := tab.sessionId.toInt.toNat

theorem toInt_eq_sessionNumber {tab : ChromeTab} (hvalid : isValidSessionId tab.sessionId) :
    tab.sessionId.toInt = (sessionNumber tab : Int) ∧ 0 < sessionNumber tab := by
  have hpos : 0 < tab.sessionId := by simpa [isValidSessionId] using hvalid
  have hpos' : (0 : Int32).toInt < tab.sessionId.toInt := Int32.lt_iff_toInt_lt.mp hpos
  have hzero : (0 : Int32).toInt = 0 := rfl
  simp only [sessionNumber]
  omega

theorem makeTargetId_valid {tab : ChromeTab} (hvalid : isValidSessionId tab.sessionId) :
    makeTargetId tab = idOf (sessionNumber tab) := by
  simp only [makeTargetId, hvalid, if_true, idOf, (toInt_eq_sessionNumber hvalid).1]
  rfl

theorem parseTargetId_idOf (n : Nat) :
    parseTargetId (idOf n) =
      if n < 2147483648 ∧ 0 < n then some (.ofInt n) else none := by
  have hprefix : targetPrefix.toList.isPrefixOf (idOf n).toList := by
    simp [idOf]
  have hdrop : (idOf n).toList.drop targetPrefix.length = Nat.toDigits 10 n := by
    simp only [idOf, String.toList_append, Nat.toList_repr]
    exact List.drop_left' rfl
  simp only [parseTargetId, hprefix, if_true, hdrop, stringToInt_toDigits]
  by_cases hlt : n < 2147483648
  · have hvalid : isValidSessionId (.ofInt n) = decide (0 < n) := by
      have hval : (Int32.ofInt n).toInt = n := Int32.toInt_ofInt_of_le (by omega) (by omega)
      simp only [isValidSessionId, Int32.lt_iff_toInt_lt, hval]
      have hzero : (0 : Int32).toInt = 0 := rfl
      simp [hzero]
    simp [hlt, hvalid]
  · simp [hlt]

/-- The search of one strip, with places. -/
private theorem find_zipIdx (tabs : List ChromeTab) (target : Int32) (start : Nat) :
    ((tabs.zipIdx start).find? fun entry => entry.1.sessionId == target).map Prod.fst =
      tabs.find? fun tab => tab.sessionId == target := by
  induction tabs generalizing start with
  | nil => rfl
  | cons tab tabs ih =>
      simp only [List.zipIdx_cons, List.find?_cons]
      split
      · rfl
      · exact ih (start + 1)

theorem locate_webContents (target : Int32) (windows : List BrowserWindow) :
    (locate target windows).map LocatedTab.webContents =
      ((windows.flatMap BrowserWindow.tabs).find? fun tab => tab.sessionId == target).map
        ChromeTab.webContents := by
  induction windows with
  | nil => rfl
  | cons browser rest ih =>
      have hstrip := find_zipIdx browser.tabs target 0
      simp only [locate, List.flatMap_cons, List.find?_append]
      cases hfind : browser.tabs.zipIdx.find? fun entry => entry.1.sessionId == target with
      | none =>
          rw [hfind, Option.map_none] at hstrip
          rw [← hstrip, Option.none_or, ← ih, Option.map_map]
          rfl
      | some entry =>
          rw [hfind, Option.map_some] at hstrip
          rw [← hstrip]
          rfl

/-- Only the tab of the session id `n` has the id made from `n`. -/
theorem makeTargetId_eq_idOf {tab : ChromeTab} {n : Nat} :
    makeTargetId tab = idOf n ↔ (n < 2147483648 ∧ 0 < n) ∧ tab.sessionId = .ofInt n := by
  constructor
  · intro hid
    by_cases hvalid : isValidSessionId tab.sessionId
    · rw [makeTargetId_valid hvalid] at hid
      obtain ⟨hint, hpos⟩ := toInt_eq_sessionNumber hvalid
      have hnumber := idOf_injective hid
      have hmax := Int32.toInt_lt tab.sessionId
      have hlt : n < 2147483648 := by omega
      refine ⟨⟨hlt, hnumber ▸ hpos⟩, ?_⟩
      rw [← Int32.toInt_inj, Int32.toInt_ofInt_of_le (by omega) (by omega), hint, hnumber]
    · rw [makeTargetId, if_neg hvalid] at hid
      have hlist := congrArg String.toList hid
      simp [idOf, targetPrefix] at hlist
  · rintro ⟨⟨hlt, hpos⟩, hid⟩
    have hval : (Int32.ofInt n).toInt = n := Int32.toInt_ofInt_of_le (by omega) (by omega)
    have hvalid : isValidSessionId tab.sessionId := by
      have hzero : (0 : Int32).toInt = 0 := rfl
      simp only [isValidSessionId, hid, Int32.lt_iff_toInt_lt, hval, hzero]
      simpa using hpos
    rw [makeTargetId_valid hvalid, sessionNumber, hid, hval, Int.toNat_natCast]

/-- The target id of a session id. -/
def sessionTargetId (id : Int32) : String :=
  if isValidSessionId id then targetPrefix ++ id.toInt.repr else ""

theorem sessionTargetId_ofInt {n : Nat} (hn : n < 2147483648 ∧ 0 < n) :
    sessionTargetId (.ofInt n) = idOf n := by
  let tab : ChromeTab :=
    ⟨⟨0, "", .aboutBlank, false, false, false⟩, .ofInt n, none, .aboutBlank, false⟩
  have htab : makeTargetId tab = idOf n := makeTargetId_eq_idOf.mpr ⟨hn, rfl⟩
  exact htab

/-- The tab that is found under an id is listed under it. -/
theorem getWebContentsByTargetId_idOf (rt : NativeChromeRuntime) (n : Nat) :
    rt.getWebContentsByTargetId (idOf n) =
      (rt.tabs.find? fun tab => makeTargetId tab == idOf n).map ChromeTab.webContents := by
  simp only [getWebContentsByTargetId, findTabByTargetId, parseTargetId_idOf]
  by_cases hn : n < 2147483648 ∧ 0 < n
  · have hpred : (fun tab : ChromeTab => tab.sessionId == .ofInt n) =
        fun tab => makeTargetId tab == idOf n := by
      funext tab
      rw [Bool.eq_iff_iff, beq_iff_eq, beq_iff_eq, makeTargetId_eq_idOf]
      exact (and_iff_right hn).symm
    rw [if_pos hn, Option.bind_some, locate_webContents, hpred]
    rfl
  · have hnone : rt.tabs.find? (fun tab => makeTargetId tab == idOf n) = none := by
      refine List.find?_eq_none.mpr ?_
      intro tab _ hid
      exact hn (makeTargetId_eq_idOf.mp (by simpa using hid)).1
    rw [if_neg hn, hnone]
    rfl

/-- The tab that `CreateTab` makes, if it gets as far. -/
def newTab (builder : ChromeBuilder) (url : GURL) (rt : NativeChromeRuntime) : Option ChromeTab :=
  if rt.activeBrowserWindow.isNone && (!builder.profile || builder.openEmptyWindow.isNone) then none
  else builder.addTab url

theorem newTab_eq {builder : ChromeBuilder} {url : GURL} {rt : NativeChromeRuntime}
    {tab : ChromeTab} (h : newTab builder url rt = some tab) : builder.addTab url = some tab := by
  unfold newTab at h
  split at h
  · cases h
  · exact h

/-- Adding to one strip adds to the tabs. -/
private theorem modify_tabs (windows : List BrowserWindow) {i : Nat} (hi : i < windows.length)
    (tab : ChromeTab) :
    ((windows.modify i fun w =>
      { w with tabs := w.tabs ++ [tab], activeIndex := some w.tabs.length }).flatMap
        BrowserWindow.tabs).Perm (windows.flatMap BrowserWindow.tabs ++ [tab]) := by
  induction windows generalizing i with
  | nil => simp at hi
  | cons browser rest ih =>
      cases i with
      | zero =>
          simp only [List.modify_zero_cons, List.flatMap_cons, List.append_assoc]
          exact List.Perm.append_left _ List.perm_append_comm
      | succ i =>
          simp only [List.modify_succ_cons, List.flatMap_cons, List.append_assoc]
          exact List.Perm.append_left _ (ih (by simpa using hi))

theorem activeBrowserWindow_lt {rt : NativeChromeRuntime} {i : Nat}
    (h : rt.activeBrowserWindow = some i) : i < rt.windows.length := by
  unfold activeBrowserWindow at h
  split at h
  · rename_i browser hbrowser
    obtain rfl := Option.some.inj h
    obtain ⟨id, -, hfind⟩ := Option.bind_eq_some_iff.mp hbrowser
    exact (List.findIdx?_eq_some_iff_getElem.mp hfind).1
  · split at h
    · cases h
    · rename_i hne
      obtain rfl := Option.some.inj h
      rw [List.isEmpty_iff] at hne
      exact List.length_pos_iff.mpr hne

theorem createTab_none {builder : ChromeBuilder} {url : GURL} {rt : NativeChromeRuntime}
    (h : newTab builder url rt = none) :
    (createTab builder url rt).2 = none ∧ (createTab builder url rt).1.tabs = rt.tabs := by
  simp only [newTab] at h
  simp only [createTab]
  cases hactive : rt.activeBrowserWindow with
  | some browser =>
      simp only [hactive, Option.isNone_some, Bool.false_and, Bool.false_eq_true, if_false] at h
      simp [addTab, h]
  | none =>
      simp only [hactive, Option.isNone_none, Bool.true_and] at h
      cases hprofile : builder.profile with
      | false => exact ⟨rfl, rfl⟩
      | true =>
          cases hopen : builder.openEmptyWindow with
          | none => exact ⟨rfl, rfl⟩
          | some id =>
              have hadd : builder.addTab url = none := by simpa [hprofile, hopen] using h
              simp [addTab, hadd, tabs]

theorem createTab_some {builder : ChromeBuilder} {url : GURL} {rt : NativeChromeRuntime}
    {tab : ChromeTab} (h : newTab builder url rt = some tab) :
    (createTab builder url rt).2 = some (makeTabInfo tab) ∧
      (createTab builder url rt).1.tabs.Perm (rt.tabs ++ [tab]) := by
  simp only [newTab] at h
  simp only [createTab]
  cases hactive : rt.activeBrowserWindow with
  | some browser =>
      simp only [hactive, Option.isNone_some, Bool.false_and, Bool.false_eq_true, if_false] at h
      simp only [addTab, h, true_and]
      exact modify_tabs rt.windows (activeBrowserWindow_lt hactive) tab
  | none =>
      simp only [hactive, Option.isNone_none, Bool.true_and] at h
      split at h
      · cases h
      · rename_i hmade
        simp only [Bool.or_eq_true, not_or, Bool.not_eq_true', Bool.not_eq_false,
          Option.isNone_iff_eq_none] at hmade
        obtain ⟨id, hopen⟩ := Option.ne_none_iff_exists'.mp hmade.2
        simp only [hmade.1, Bool.not_true, Bool.false_eq_true, if_false, hopen, addTab, h, true_and]
        exact modify_tabs (⟨id, [], none⟩ :: rt.windows) (by simp) tab

/-- Taking a tab out of one strip, or leaving it. -/
private theorem modify_sublist (windows : List BrowserWindow) (i : Nat)
    {f : BrowserWindow → BrowserWindow} (hf : ∀ w, (f w).tabs.Sublist w.tabs) :
    ((windows.modify i f).flatMap BrowserWindow.tabs).Sublist
      (windows.flatMap BrowserWindow.tabs) := by
  induction windows generalizing i with
  | nil => simp
  | cons browser rest ih =>
      cases i with
      | zero =>
          simp only [List.modify_zero_cons, List.flatMap_cons]
          exact (hf browser).append (.refl _)
      | succ i =>
          simp only [List.modify_succ_cons, List.flatMap_cons]
          exact (List.Sublist.refl _).append (ih i)

theorem closeTab_sublist (targetId : Option String) (rt : NativeChromeRuntime) :
    (closeTab targetId rt).1.tabs.Sublist rt.tabs := by
  unfold closeTab
  split
  · exact .refl _
  · split
    · exact .refl _
    · refine modify_sublist rt.windows _ ?_
      intro w
      split
      · exact .refl _
      · exact List.eraseIdx_sublist _ _

end NativeChromeRuntime

end Browserd
