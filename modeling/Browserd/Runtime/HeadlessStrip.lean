import Browserd.Lib.Digits
import Browserd.Runtime.HeadlessRuntime
import Browserd.Runtime.TabStrip

/-!
# The headless runtime as a tab strip

`HeadlessRuntime::CloseTab` recomputes the active tab by a scan whatever tab it closes. It is
the `close` of a tab strip exactly when the scan does not move the active tab.
-/

namespace Browserd

namespace HeadlessRuntime

theorem makeTargetId_inj {a b : HeadlessWebContents} :
    makeTargetId a = makeTargetId b ↔ a.address = b.address := by
  constructor
  · intro h
    exact Digits.append_toDigits_injective _ (by decide) (by decide) h
  · intro h
    simp [makeTargetId, h]

/-- The addresses of `AllWebContents`. -/
def addresses (rt : HeadlessRuntime) : List Nat :=
  rt.contents.map fun contents => contents.webContents.address

/-- Live objects have different addresses. -/
structure Distinct (rt : HeadlessRuntime) : Prop where
  nodup : (rt.contents.map HeadlessWebContents.address).Nodup
  nodup_addresses : rt.addresses.Nodup

/-- Distinct live objects, one of them active unless there is none. -/
structure WellFormed (rt : HeadlessRuntime) : Prop extends rt.Distinct where
  active_mem : ∀ t, rt.activeWebContents = some t → t ∈ rt.addresses
  active_isSome : rt.addresses ≠ [] → rt.activeWebContents.isSome

def strip (rt : HeadlessRuntime) (h : rt.WellFormed) : TabStrip Nat where
  tabs := rt.addresses
  active := rt.activeWebContents
  nodup := h.nodup_addresses
  active_mem := h.active_mem
  active_isSome := h.active_isSome

/-- The id names no tab or the active one, or the active tab is the first of the tabs that the id
does not name. -/
def KeepsActive (rt : HeadlessRuntime) (targetId : Option String) : Prop :=
  ∀ closing, rt.closeTarget targetId = some closing →
    rt.activeWebContents = some closing.webContents.address ∨
      rt.activeWebContents = (rt.addresses.filter (· ≠ closing.webContents.address)).head?

theorem closeTarget_mem {rt : HeadlessRuntime} {targetId : Option String}
    {closing : HeadlessWebContents} (h : rt.closeTarget targetId = some closing) :
    closing ∈ rt.contents := by
  cases targetId with
  | some id => exact List.mem_of_find?_eq_some h
  | none =>
      simp only [closeTarget, activeHeadlessWebContents] at h
      cases hactive : rt.activeWebContents with
      | none => simp [hactive] at h
      | some active =>
          rw [hactive] at h
          exact List.mem_of_find?_eq_some h

section Close

variable {rt : HeadlessRuntime} {closing : HeadlessWebContents}

/-- The enumeration without the closed contents, as addresses of tabs. -/
theorem closeContents_addresses (hrt : rt.Distinct) (hmem : closing ∈ rt.contents) :
    (rt.closeContents closing).addresses =
      rt.addresses.filter (· ≠ closing.webContents.address) := by
  simp only [closeContents, addresses, List.filter_map]
  congr 1
  refine List.filter_congr ?_
  intro contents hcontents
  have hiff : contents.address = closing.address ↔
      contents.webContents.address = closing.webContents.address := by
    constructor
    · intro h
      rw [List.inj_on_of_nodup_map hrt.nodup hcontents hmem h]
    · intro h
      rw [List.inj_on_of_nodup_map hrt.nodup_addresses hcontents hmem h]
  simp only [ne_eq, decide_not, ← hiff, Function.comp_apply, bne, beq_eq_decide]

theorem fallback_eq (hrt : rt.Distinct) (hmem : closing ∈ rt.contents) :
    (rt.chooseFallbackActiveTab closing).activeWebContents =
      (rt.addresses.filter (· ≠ closing.webContents.address)).head? := by
  rw [← closeContents_addresses hrt hmem]
  simp [chooseFallbackActiveTab, closeContents, addresses, List.head?_filter]

/-- The tabs and the active tab that `CloseTab` leaves. -/
theorem closeTab_eq (hrt : rt.Distinct) {targetId : Option String}
    (htarget : rt.closeTarget targetId = some closing) :
    (rt.closeTab targetId).1.addresses =
        rt.addresses.filter (· ≠ closing.webContents.address) ∧
      (rt.closeTab targetId).1.activeWebContents =
        (rt.addresses.filter (· ≠ closing.webContents.address)).head? := by
  have hmem := closeTarget_mem htarget
  have hfallback := fallback_eq hrt hmem
  have haddresses := closeContents_addresses hrt hmem
  simp only [closeTab, htarget]
  split
  · rename_i hnone
    have hnil : rt.addresses.filter (· ≠ closing.webContents.address) = [] := by
      simpa [closeContents, hfallback] using hnone
    simp only [hnil, List.head?_nil] at hfallback ⊢
    exact ⟨rfl, hfallback⟩
  · exact ⟨haddresses, hfallback⟩

theorem closeTab_wellFormed (hrt : rt.WellFormed) (targetId : Option String) :
    (rt.closeTab targetId).1.WellFormed := by
  cases htarget : rt.closeTarget targetId with
  | none => simpa [closeTab, htarget] using hrt
  | some closing =>
      obtain ⟨haddresses, hactive⟩ := closeTab_eq hrt.toDistinct htarget
      refine ⟨⟨?_, ?_⟩, ?_, ?_⟩
      · have hsub : (rt.closeTab targetId).1.contents.Sublist rt.contents := by
          simp only [closeTab, htarget]
          split
          · simp [shutdown]
          · exact List.filter_sublist
        exact (hsub.map _).nodup hrt.nodup
      · rw [haddresses]
        exact hrt.nodup_addresses.filter _
      · intro t ht
        rw [haddresses]
        exact List.mem_of_mem_head? (hactive ▸ ht)
      · rw [haddresses, hactive]
        simp

/-- Closing a tab is the strip's `close` when it leaves the active tab alone. -/
theorem closeTab_strip (hrt : rt.WellFormed) {targetId : Option String}
    (htarget : rt.closeTarget targetId = some closing) (hkeeps : rt.KeepsActive targetId) :
    (rt.closeTab targetId).1.strip (closeTab_wellFormed hrt targetId) =
      (rt.strip hrt).close closing.webContents.address := by
  obtain ⟨haddresses, hactive⟩ := closeTab_eq hrt.toDistinct htarget
  have hkeeps := hkeeps closing htarget
  refine TabStrip.ext haddresses (hactive.trans ?_)
  by_cases hclosed : (rt.strip hrt).active = some closing.webContents.address
  · exact (TabStrip.close_active_self hclosed).symm
  · rw [TabStrip.close_active_ne hclosed]
    exact (hkeeps.resolve_left hclosed).symm

theorem closePolicy_iff (hrt : rt.Distinct) {targetId : Option String}
    (htarget : rt.closeTarget targetId = some closing) :
    ClosePolicy rt.activeWebContents (rt.closeTab targetId).1.activeWebContents
        (rt.closeTab targetId).1.addresses closing.webContents.address ↔
      rt.KeepsActive targetId := by
  obtain ⟨haddresses, hactive⟩ := closeTab_eq hrt htarget
  constructor
  · intro hpolicy closing' htarget'
    obtain rfl : closing = closing' := by simpa [htarget] using htarget'
    rw [← hactive]
    by_cases hclosed : rt.activeWebContents = some closing.webContents.address
    · exact .inl hclosed
    · exact .inr (hpolicy.inactive hclosed).symm
  · intro hkeeps
    have hkeeps := hkeeps closing htarget
    rw [hactive, haddresses]
    refine ⟨?_, ?_, ?_⟩
    · intro hopen
      exact (hkeeps.resolve_left hopen).symm
    · intro _ hnil
      rw [hnil, List.head?_nil]
    · intro _ hne
      obtain ⟨head, hhead⟩ := Option.isSome_iff_exists.mp (List.isSome_head?.mpr hne)
      exact ⟨head, List.mem_of_mem_head? hhead, hhead⟩

end Close

/-- `Build` makes contents at new addresses and adds them to the end of the enumeration. -/
structure BuildsLast (rt : HeadlessRuntime) (newContents : HeadlessWebContents)
    (enumeration : List HeadlessWebContents) : Prop where
  enumeration_eq : enumeration = rt.contents ++ [newContents]
  fresh : newContents.address ∉ rt.contents.map HeadlessWebContents.address
  fresh_webContents : newContents.webContents.address ∉ rt.addresses

/-- New contents take addresses that no live object has, and join the enumeration; the browser has
not shut down. -/
def Builds (build : HeadlessBuilder) (url : GURL) (rt : HeadlessRuntime) : Prop :=
  rt.isShutdown = false ∧
    ∀ newContents enumeration, build url = some (newContents, enumeration) →
      enumeration.Perm (rt.contents ++ [newContents]) ∧
        newContents.webContents.address ∉
          rt.contents.map fun contents => contents.webContents.address

section Create

variable {rt : HeadlessRuntime} {build : HeadlessBuilder} {url : GURL}
  {newContents : HeadlessWebContents} {enumeration : List HeadlessWebContents}

theorem createTab_addresses (hbuild : build url = some (newContents, enumeration))
    (hlast : rt.BuildsLast newContents enumeration) :
    (rt.createTab build url).1.addresses = rt.addresses ++ [newContents.webContents.address] := by
  simp [createTab, hbuild, addresses, hlast.enumeration_eq]

theorem createTab_wellFormed (hrt : rt.WellFormed)
    (hbuild : build url = some (newContents, enumeration))
    (hlast : rt.BuildsLast newContents enumeration) :
    (rt.createTab build url).1.WellFormed := by
  have haddresses := createTab_addresses hbuild hlast
  refine ⟨⟨?_, ?_⟩, ?_, ?_⟩
  · simpa [createTab, hbuild, hlast.enumeration_eq] using hrt.nodup.concat hlast.fresh
  · simpa [haddresses] using hrt.nodup_addresses.concat hlast.fresh_webContents
  · intro t ht
    obtain rfl : newContents.webContents.address = t := by
      simpa [createTab, hbuild] using ht
    simp [haddresses]
  · simp [createTab, hbuild]

theorem createTab_strip (hrt : rt.WellFormed)
    (hbuild : build url = some (newContents, enumeration))
    (hlast : rt.BuildsLast newContents enumeration) :
    (rt.createTab build url).1.strip (createTab_wellFormed hrt hbuild hlast) =
      (rt.strip hrt).create newContents.webContents.address hlast.fresh_webContents := by
  refine TabStrip.ext (createTab_addresses hbuild hlast) ?_
  simp [strip, TabStrip.create, createTab, hbuild]

end Create

end HeadlessRuntime

end Browserd
