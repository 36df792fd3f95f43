import Mathlib.Algebra.Group.Nat.Defs
import Browserd.Lib.Digits
import Browserd.Runtime.GuiRuntime
import Browserd.Runtime.TabStrip

/-!
# The GUI runtime as a tab strip

`GuiRuntime` keeps the active tab by its id and moves it only when that tab goes away, so its
operations are those of a tab strip.
-/

namespace Browserd

namespace GuiRuntime

/-- The addresses of `AllWebContents`. -/
def addresses (rt : GuiRuntime) : List Nat :=
  rt.tabs.map fun tab => tab.webContents.address

def activeAddress (rt : GuiRuntime) : Option Nat :=
  rt.activeWebContents.map WebContents.address

/-- `id` has been issued by `CreateTab`. -/
def Issued (rt : GuiRuntime) (id : String) : Prop :=
  ∃ k, k < rt.nextTabId ∧ id = makeTargetId k

/-- Distinct ids and distinct live objects; the active id names a tab unless there is none. -/
structure WellFormed (rt : GuiRuntime) : Prop where
  nodup : (rt.tabs.map GuiTab.targetId).Nodup
  nodup_addresses : rt.addresses.Nodup
  issued : ∀ tab ∈ rt.tabs, rt.Issued tab.targetId
  active_mem : rt.tabs ≠ [] → rt.activeTargetId ∈ rt.tabs.map GuiTab.targetId
  active_empty : rt.tabs = [] → rt.activeTargetId = ""

theorem makeTargetId_ne_empty (k : UInt64) : makeTargetId k ≠ "" := by
  intro h
  have hlist := congrArg String.toList h
  simp [makeTargetId] at hlist

theorem makeTargetId_inj {a b : UInt64} : makeTargetId a = makeTargetId b ↔ a = b := by
  constructor
  · intro h
    exact UInt64.toNat_inj.mp (Digits.append_repr_injective _ h)
  · rintro rfl
    rfl

section Find

variable {rt : GuiRuntime} {tab : GuiTab} {id : String}

theorem mem_of_findTab (h : rt.findTab id = some tab) : tab ∈ rt.tabs ∧ tab.targetId = id := by
  exact ⟨List.mem_of_find?_eq_some h, by simpa using List.find?_some h⟩

theorem findTab_of_mem (hrt : rt.WellFormed) (hmem : tab ∈ rt.tabs) :
    rt.findTab tab.targetId = some tab := by
  cases hfind : rt.findTab tab.targetId with
  | none => exact absurd (List.find?_eq_none.mp hfind tab hmem) (by simp)
  | some other =>
      obtain ⟨hother, hid⟩ := mem_of_findTab hfind
      rw [List.inj_on_of_nodup_map hrt.nodup hother hmem hid]

theorem activeAddress_eq_some (hrt : rt.WellFormed) (hmem : tab ∈ rt.tabs) :
    rt.activeAddress = some tab.webContents.address ↔ rt.activeTargetId = tab.targetId := by
  constructor
  · intro h
    simp only [activeAddress, activeWebContents, activeTab, Option.map_map,
      Option.map_eq_some_iff] at h
    obtain ⟨other, hfind, haddress⟩ := h
    obtain ⟨hother, hid⟩ := mem_of_findTab hfind
    rw [← hid, List.inj_on_of_nodup_map hrt.nodup_addresses hother hmem haddress]
  · intro h
    simp [activeAddress, activeWebContents, activeTab, h, findTab_of_mem hrt hmem]

end Find

private theorem eraseP_eq_filter {tabs : List GuiTab} (h : (tabs.map GuiTab.targetId).Nodup)
    (id : String) :
    (tabs.eraseP fun tab => tab.targetId == id) = tabs.filter fun tab => tab.targetId ≠ id := by
  induction tabs with
  | nil => rfl
  | cons tab tabs ih =>
      rw [List.map_cons, List.nodup_cons] at h
      by_cases hid : tab.targetId = id
      · have hrest : tabs.filter (fun tab => tab.targetId ≠ id) = tabs := by
          refine List.filter_eq_self.mpr ?_
          intro other hother
          have hne : other.targetId ≠ id := by
            rintro rfl
            exact h.1 (hid ▸ List.mem_map_of_mem hother)
          simpa using hne
        rw [List.eraseP_cons_of_pos (by simpa using hid),
          List.filter_cons_of_neg (by simpa using hid), hrest]
      · rw [List.eraseP_cons_of_neg (by simpa using hid),
          List.filter_cons_of_pos (by simpa using hid), ih h.2]

section Erase

variable {rt : GuiRuntime} {tab : GuiTab}

/-- `Shutdown` changes no tab when there is none. -/
private theorem shutdown_nil (htabs : rt.tabs = []) (hactive : rt.activeTargetId = "") :
    rt.shutdown.tabs = [] ∧ rt.shutdown.activeTargetId = "" ∧
      rt.shutdown.nextTabId = rt.nextTabId := by
  unfold shutdown
  split <;> simp [htabs, hactive]

/-- Erasing another tab leaves the active one. -/
private theorem active_remains
    (hactive : rt.tabs ≠ [] → rt.activeTargetId ∈ rt.tabs.map GuiTab.targetId)
    (hmem : tab ∈ rt.tabs) (hid : rt.activeTargetId ≠ tab.targetId) :
    ∃ other ∈ rt.tabs.filter fun other => other.targetId ≠ tab.targetId,
      other.targetId = rt.activeTargetId := by
  obtain ⟨other, hother, hname⟩ := List.mem_map.mp (hactive (List.ne_nil_of_mem hmem))
  exact ⟨other, by simpa [hother, hname] using hid, hname⟩

/-- What erasing the tab of `id` leaves. -/
theorem eraseTab_eq (hnodup : (rt.tabs.map GuiTab.targetId).Nodup)
    (hmem : rt.tabs ≠ [] → rt.activeTargetId ∈ rt.tabs.map GuiTab.targetId)
    (htab : tab ∈ rt.tabs) :
    (rt.eraseTab tab.targetId).tabs = rt.tabs.filter (fun other => other.targetId ≠ tab.targetId) ∧
      (rt.eraseTab tab.targetId).activeTargetId =
        (if rt.activeTargetId = tab.targetId then
          ((rt.tabs.filter fun other => other.targetId ≠ tab.targetId).head?.map
            GuiTab.targetId).getD ""
        else rt.activeTargetId) ∧
      (rt.eraseTab tab.targetId).nextTabId = rt.nextTabId := by
  have herase := eraseP_eq_filter hnodup tab.targetId
  generalize hrest : rt.tabs.filter (fun other => other.targetId ≠ tab.targetId) = rest at herase ⊢
  simp only [eraseTab, herase]
  by_cases hactive : rt.activeTargetId = tab.targetId
  · simp only [hactive, beq_self_eq_true, if_true, chooseFallbackActiveTab]
    split
    · rename_i hempty
      obtain rfl : rest = [] := by
        simp only [Bool.and_eq_true, List.isEmpty_iff] at hempty
        exact hempty.1
      exact shutdown_nil rfl rfl
    · exact ⟨rfl, rfl, rfl⟩
  · have hbeq : (rt.activeTargetId == tab.targetId) = false := by simpa using hactive
    have hne : rest ≠ [] := by
      obtain ⟨other, hother, -⟩ := active_remains hmem htab hactive
      exact List.ne_nil_of_mem (hrest ▸ hother)
    have hempty : rest.isEmpty = false := by simpa using hne
    simp [hbeq, hactive, hempty]

theorem eraseTab_addresses (hrt : rt.WellFormed) (hmem : tab ∈ rt.tabs) :
    (rt.eraseTab tab.targetId).addresses =
      rt.addresses.filter (· ≠ tab.webContents.address) := by
  rw [addresses, (eraseTab_eq hrt.nodup hrt.active_mem hmem).1, addresses, List.filter_map]
  congr 1
  refine List.filter_congr ?_
  intro other hother
  have hiff : other.targetId = tab.targetId ↔
      other.webContents.address = tab.webContents.address := by
    constructor
    · intro h
      rw [List.inj_on_of_nodup_map hrt.nodup hother hmem h]
    · intro h
      rw [List.inj_on_of_nodup_map hrt.nodup_addresses hother hmem h]
  simp [hiff]

theorem eraseTab_wellFormed (hrt : rt.WellFormed) (hmem : tab ∈ rt.tabs) :
    (rt.eraseTab tab.targetId).WellFormed := by
  obtain ⟨htabs, hactive, hnext⟩ := eraseTab_eq hrt.nodup hrt.active_mem hmem
  refine ⟨?_, ?_, ?_, ?_, ?_⟩
  · rw [htabs]
    exact (List.filter_sublist.map _).nodup hrt.nodup
  · rw [eraseTab_addresses hrt hmem]
    exact hrt.nodup_addresses.filter _
  · intro other hother
    rw [htabs] at hother
    simpa [Issued, hnext] using hrt.issued other (List.mem_of_mem_filter hother)
  · rw [htabs, hactive]
    intro hne
    split
    · obtain ⟨head, hhead⟩ := Option.isSome_iff_exists.mp (List.isSome_head?.mpr hne)
      rw [hhead]
      exact List.mem_map_of_mem (List.mem_of_mem_head? hhead)
    · rename_i hid
      obtain ⟨other, hother, hother'⟩ := active_remains hrt.active_mem hmem hid
      exact List.mem_map.mpr ⟨other, hother, hother'⟩
  · rw [htabs, hactive]
    intro hnil
    rw [hnil]
    split
    · rfl
    · rename_i hid
      obtain ⟨other, hother, -⟩ := active_remains hrt.active_mem hmem hid
      rw [hnil] at hother
      simp at hother

end Erase

def strip (rt : GuiRuntime) (h : rt.WellFormed) : TabStrip Nat where
  tabs := rt.addresses
  active := rt.activeAddress
  nodup := h.nodup_addresses
  active_mem := by
    intro t ht
    simp only [activeAddress, activeWebContents, activeTab, Option.map_map,
      Option.map_eq_some_iff] at ht
    obtain ⟨tab, hfind, rfl⟩ := ht
    exact List.mem_map.mpr ⟨tab, (mem_of_findTab hfind).1, rfl⟩
  active_isSome := by
    intro hne
    have htabs : rt.tabs ≠ [] := by simpa [addresses] using hne
    obtain ⟨tab, hmem, hid⟩ := List.mem_map.mp (h.active_mem htabs)
    rw [(activeAddress_eq_some h hmem).mpr hid.symm]
    rfl

section Operations

variable {rt : GuiRuntime}

theorem eraseTab_strip {tab : GuiTab} (hrt : rt.WellFormed) (hmem : tab ∈ rt.tabs) :
    (rt.eraseTab tab.targetId).strip (eraseTab_wellFormed hrt hmem) =
      (rt.strip hrt).close tab.webContents.address := by
  obtain ⟨htabs, hactive, -⟩ := eraseTab_eq hrt.nodup hrt.active_mem hmem
  have hwf := eraseTab_wellFormed hrt hmem
  refine TabStrip.ext (eraseTab_addresses hrt hmem) ?_
  by_cases hid : rt.activeTargetId = tab.targetId
  · have hclosed : (rt.strip hrt).active = some tab.webContents.address :=
      (activeAddress_eq_some hrt hmem).mpr hid
    rw [TabStrip.close_active_self hclosed]
    change (rt.eraseTab tab.targetId).activeAddress =
      (rt.addresses.filter (· ≠ tab.webContents.address)).head?
    rw [← eraseTab_addresses hrt hmem]
    rw [if_pos hid, ← htabs] at hactive
    cases hrest : (rt.eraseTab tab.targetId).tabs with
    | nil => simp [activeAddress, activeWebContents, activeTab, findTab, addresses, hrest]
    | cons head rest =>
        have hhead : head ∈ (rt.eraseTab tab.targetId).tabs := by simp [hrest]
        rw [(activeAddress_eq_some hwf hhead).mpr (by simp [hactive, hrest])]
        simp [addresses, hrest]
  · have hopen : (rt.strip hrt).active ≠ some tab.webContents.address :=
      fun h => hid ((activeAddress_eq_some hrt hmem).mp h)
    rw [TabStrip.close_active_ne hopen]
    obtain ⟨other, hother, hname⟩ := active_remains hrt.active_mem hmem hid
    rw [if_neg hid] at hactive
    have hold : rt.activeAddress = some other.webContents.address :=
      (activeAddress_eq_some hrt (List.mem_of_mem_filter hother)).mpr hname.symm
    have hnew : (rt.eraseTab tab.targetId).activeAddress = some other.webContents.address :=
      (activeAddress_eq_some hwf (htabs ▸ hother)).mpr (hactive.trans hname.symm)
    exact hnew.trans hold.symm

/-- The tab that `CloseTab` closes. -/
def closeTarget (rt : GuiRuntime) (targetId : Option String) : Option GuiTab :=
  rt.findTab (targetId.getD rt.activeTargetId)

theorem closeTab_eq (hrt : rt.WellFormed) (targetId : Option String) :
    rt.closeTab targetId =
      match rt.closeTarget targetId with
      | none => (rt, false)
      | some tab => (rt.eraseTab tab.targetId, true) := by
  simp only [closeTab, closeTarget]
  generalize targetId.getD rt.activeTargetId = id
  cases hfind : rt.findTab id with
  | none => simp
  | some tab =>
      obtain ⟨hmem, rfl⟩ := mem_of_findTab hfind
      obtain ⟨k, -, hk⟩ := hrt.issued tab hmem
      simp [hk, makeTargetId_ne_empty]

theorem closePolicy (hrt : rt.WellFormed) {targetId : Option String} {tab : GuiTab}
    (htarget : rt.closeTarget targetId = some tab) :
    ClosePolicy rt.activeAddress (rt.closeTab targetId).1.activeAddress
      (rt.closeTab targetId).1.addresses tab.webContents.address := by
  rw [closeTab_eq hrt, htarget]
  have hmem := (mem_of_findTab htarget).1
  have hpolicy := (rt.strip hrt).close_policy tab.webContents.address
  rw [← eraseTab_strip hrt hmem] at hpolicy
  exact hpolicy

end Operations

section Create

variable {rt : GuiRuntime} {build : GuiBuilder} {url : GURL} {webContents : WebContents}

/-- `CreateTab` builds nothing, throws a tab without a window away, or adds the tab. -/
theorem createTab_cases (rt : GuiRuntime) (build : GuiBuilder) (url : GURL) :
    (build url = none ∧ rt.createTab build url = (rt, none)) ∨
      (∃ webContents, build url = some (webContents, false) ∧
        rt.createTab build url = ({ rt with nextTabId := rt.nextTabId + 1 }, none)) ∨
      ∃ webContents, build url = some (webContents, true) ∧
        rt.createTab build url =
          ({ rt with
              nextTabId := rt.nextTabId + 1
              tabs := rt.tabs ++ [⟨makeTargetId rt.nextTabId, webContents, true⟩]
              activeTargetId := makeTargetId rt.nextTabId },
            some (makeTabInfo ⟨makeTargetId rt.nextTabId, webContents, true⟩)) := by
  unfold createTab
  cases build url with
  | none => exact .inl ⟨rfl, rfl⟩
  | some built =>
      obtain ⟨webContents, hasWindow⟩ := built
      cases hasWindow with
      | false => exact .inr (.inl ⟨webContents, rfl, rfl⟩)
      | true => exact .inr (.inr ⟨webContents, rfl, rfl⟩)

theorem createTab_eq (hbuild : build url = some (webContents, true)) :
    (rt.createTab build url).1 =
      { rt with
        nextTabId := rt.nextTabId + 1
        tabs := rt.tabs ++ [⟨makeTargetId rt.nextTabId, webContents, true⟩]
        activeTargetId := makeTargetId rt.nextTabId } := by
  simp [createTab, hbuild]

/-- The counter does not wrap. -/
private theorem nextTabId_lt (h : rt.nextTabId.toNat + 1 < 2 ^ 64) :
    rt.nextTabId < rt.nextTabId + 1 := by
  rw [UInt64.lt_iff_toNat_lt, UInt64.toNat_add]
  simp only [UInt64.toNat_one]
  omega

private theorem issued_mono (h : rt.nextTabId.toNat + 1 < 2 ^ 64) {id : String}
    (hid : rt.Issued id) : ∃ k, k < rt.nextTabId + 1 ∧ id = makeTargetId k := by
  obtain ⟨k, hk, rfl⟩ := hid
  exact ⟨k, UInt64.lt_trans hk (nextTabId_lt h), rfl⟩

theorem createTab_wellFormed (hrt : rt.WellFormed) (hcount : rt.nextTabId.toNat + 1 < 2 ^ 64)
    (hbuild : build url = some (webContents, true)) (hfresh : webContents.address ∉ rt.addresses) :
    (rt.createTab build url).1.WellFormed := by
  rw [createTab_eq hbuild]
  have hnew : makeTargetId rt.nextTabId ∉ rt.tabs.map GuiTab.targetId := by
    intro hmem
    obtain ⟨tab, htab, hid⟩ := List.mem_map.mp hmem
    obtain ⟨k, hk, hk'⟩ := hrt.issued tab htab
    rw [hid, makeTargetId_inj] at hk'
    exact UInt64.lt_irrefl k (hk' ▸ hk)
  refine ⟨?_, ?_, ?_, ?_, ?_⟩
  · simpa using hrt.nodup.concat hnew
  · simpa [addresses] using hrt.nodup_addresses.concat hfresh
  · intro tab htab
    rcases List.mem_append.mp htab with htab | htab
    · exact issued_mono hcount (hrt.issued tab htab)
    · obtain rfl := List.mem_singleton.mp htab
      exact ⟨rt.nextTabId, nextTabId_lt hcount, rfl⟩
  · simp
  · simp

/-- A failed `CreateTab` can use up an id but changes no tab. -/
theorem createTab_failed (hrt : rt.WellFormed) (hcount : rt.nextTabId.toNat + 1 < 2 ^ 64)
    (hbuild : ∀ webContents, build url ≠ some (webContents, true)) :
    (rt.createTab build url).1.WellFormed ∧ (rt.createTab build url).1.tabs = rt.tabs ∧
      (rt.createTab build url).1.activeTargetId = rt.activeTargetId := by
  rcases rt.createTab_cases build url with ⟨-, heq⟩ | ⟨_, -, heq⟩ | ⟨webContents, hbuilt, -⟩
  · rw [heq]
    exact ⟨hrt, rfl, rfl⟩
  · rw [heq]
    refine ⟨⟨hrt.nodup, hrt.nodup_addresses, ?_, hrt.active_mem, hrt.active_empty⟩, rfl, rfl⟩
    intro tab htab
    exact issued_mono hcount (hrt.issued tab htab)
  · exact absurd hbuilt (hbuild webContents)

theorem createTab_nextTabId (rt : GuiRuntime) (build : GuiBuilder) (url : GURL) :
    (rt.createTab build url).1.nextTabId = rt.nextTabId ∨
      (rt.createTab build url).1.nextTabId = rt.nextTabId + 1 := by
  rcases rt.createTab_cases build url with ⟨-, heq⟩ | ⟨_, -, heq⟩ | ⟨_, -, heq⟩
  · exact .inl (by rw [heq])
  · exact .inr (by rw [heq])
  · exact .inr (by rw [heq])

theorem createTab_strip (hrt : rt.WellFormed) (hcount : rt.nextTabId.toNat + 1 < 2 ^ 64)
    (hbuild : build url = some (webContents, true)) (hfresh : webContents.address ∉ rt.addresses) :
    (rt.createTab build url).1.strip (createTab_wellFormed hrt hcount hbuild hfresh) =
      (rt.strip hrt).create webContents.address hfresh := by
  have hwf := createTab_wellFormed hrt hcount hbuild hfresh
  refine TabStrip.ext ?_ ?_
  · simp [strip, TabStrip.create, createTab_eq hbuild, addresses]
  · have hmem : ⟨makeTargetId rt.nextTabId, webContents, true⟩ ∈
        (rt.createTab build url).1.tabs := by
      simp [createTab_eq hbuild]
    exact (activeAddress_eq_some hwf hmem).mpr (by simp [createTab_eq hbuild])

end Create

end GuiRuntime

end Browserd
