import Mathlib.Data.List.Nodup
import Mathlib.Data.List.Perm.Subperm
import Mathlib.Logic.Function.Basic
import Browserd.Lib.Exec
import Browserd.Runtime.BrowserRuntime

/-!
# Target ids over whole runs

A runtime makes the id of a tab from a number: an address, a counter or a session id. Which tab an
id stands for is followed through the life of the runtime, tabs being told apart by the order in
which they were made.
-/

namespace Browserd

open Transition

/-- What stays of a tab while its page changes. -/
def identity (entry : String × WebContents) : String × Nat := (entry.1, entry.2.address)

/-- How a runtime names its tabs, and what Chromium does to them. The numbers given to earlier tabs
are the first argument of `Promised` and `OpensOutside`. -/
class TabIds (ρ : Type) [BrowserRuntime ρ] where
  idOf : Nat → String
  idOf_injective : Function.Injective idOf
  /-- The ids and the pages of the tabs, in the order in which they are enumerated. -/
  entries : ρ → List (String × WebContents)
  listTabs_entries : ∀ rt,
    (BrowserRuntime.listTabs rt).map BrowserTabInfo.targetId = (entries rt).map Prod.fst
  allWebContents_entries : ∀ rt, BrowserRuntime.allWebContents rt = (entries rt).map Prod.snd
  getWebContents_entries : ∀ rt n, BrowserRuntime.getWebContentsByTargetId rt (idOf n) =
    ((entries rt).find? fun entry => entry.1 == idOf n).map Prod.snd
  /-- The number and the page of the tab that `CreateTab` makes. -/
  birth : BrowserRuntime.Builder ρ → GURL → ρ → Option (Nat × WebContents)
  Promised : List Nat → ρ → BrowserRuntime.Builder ρ → GURL → Prop
  createTab_none : ∀ {build url rt}, birth build url rt = none →
    (BrowserRuntime.createTab build url rt).2 = none ∧
      entries (BrowserRuntime.createTab build url rt).1 = entries rt
  createTab_some : ∀ {numbers build url rt n page}, Promised numbers rt build url →
    birth build url rt = some (n, page) →
    (BrowserRuntime.createTab build url rt).2.map BrowserTabInfo.targetId = some (idOf n) ∧
      (entries (BrowserRuntime.createTab build url rt).1).Perm (entries rt ++ [(idOf n, page)]) ∧
      page.address ∉ (entries rt).map fun entry => entry.2.address
  closeTab_sublist : ∀ targetId rt,
    (entries (BrowserRuntime.closeTab targetId rt).1).Sublist (entries rt)
  /-- What happens to the tabs between the calls. -/
  Outside : ρ → ρ → Prop
  outside_subperm : ∀ {rt rt'}, Outside rt rt' →
    ((entries rt').map identity).Subperm ((entries rt).map identity)
  /-- A tab that is not made by `CreateTab`. -/
  OpensOutside : List Nat → ρ → ρ → Nat → WebContents → Prop
  opensOutside_perm : ∀ {numbers rt rt' n page}, OpensOutside numbers rt rt' n page →
    ((entries rt').map identity).Perm ((entries rt).map identity ++ [(idOf n, page.address)]) ∧
      page.address ∉ (entries rt).map fun entry => entry.2.address

inductive TargetEvent (ρ : Type) [BrowserRuntime ρ] where
  | createTab (build : BrowserRuntime.Builder ρ) (url : GURL)
  | closeTab (targetId : Option String)
  | changed (rt : ρ)
  | opened (rt : ρ) (n : Nat) (page : WebContents)

/-- A runtime with the tabs it has had: their ids and the numbers these were made from, in the
order in which they were made, and the place in that order of the last tab at an address. -/
structure Tracked (ρ : Type) where
  runtime : ρ
  issued : List String
  numbers : List Nat
  tabAt : Nat → Nat

namespace Tracked

variable {ρ : Type} [BrowserRuntime ρ]

/-- A runtime that has had no tab. -/
def start (rt : ρ) : Tracked ρ where
  runtime := rt
  issued := []
  numbers := []
  tabAt := fun _ => 0

/-- The tab with the ids `ids`, of which there is one, is made at `address`. -/
def add (t : Tracked ρ) (rt : ρ) (ids : List String) (n address : Nat) : Tracked ρ where
  runtime := rt
  issued := t.issued ++ ids
  numbers := t.numbers ++ [n]
  tabAt := Function.update t.tabAt address t.numbers.length

/-- The ids of the listed tabs are distinct and lead back to them, and an issued id leads to its
own tab or to none. -/
structure Integrity (t : Tracked ρ) : Prop where
  distinct : ((BrowserRuntime.listTabs t.runtime).map BrowserTabInfo.targetId).Nodup
  resolves : (BrowserRuntime.listTabs t.runtime).map
      (fun tab => BrowserRuntime.getWebContentsByTargetId t.runtime tab.targetId) =
    (BrowserRuntime.allWebContents t.runtime).map some
  stable : ∀ k id page, t.issued[k]? = some id →
    BrowserRuntime.getWebContentsByTargetId t.runtime id = some page →
    page ∈ BrowserRuntime.allWebContents t.runtime ∧ t.tabAt page.address = k

variable [TabIds ρ]

/-- The steps of a run. -/
def Tr (t : Tracked ρ) : TargetEvent ρ → Tracked ρ → Prop
  | .createTab build url, t' =>
      TabIds.Promised t.numbers t.runtime build url ∧
        t' =
          let (rt, tab) := BrowserRuntime.createTab build url t.runtime
          match TabIds.birth build url t.runtime with
          | none => { t with runtime := rt }
          | some (n, page) => t.add rt (tab.toList.map BrowserTabInfo.targetId) n page.address
  | .closeTab targetId, t' =>
      t' = { t with runtime := (BrowserRuntime.closeTab targetId t.runtime).1 }
  | .changed rt, t' => TabIds.Outside t.runtime rt ∧ t' = { t with runtime := rt }
  | .opened rt n page, t' =>
      TabIds.OpensOutside t.numbers t.runtime rt n page ∧
        t' = t.add rt [TabIds.idOf ρ n] n page.address

/-- The event makes no tab from the number of an earlier one. -/
def NewNumber (t : Tracked ρ) : TargetEvent ρ → Prop
  | .createTab build url =>
      ∀ n page, TabIds.birth build url t.runtime = some (n, page) → n ∉ t.numbers
  | .opened _ n _ => n ∉ t.numbers
  | _ => True

/-- Every tab is listed under the id that was issued for it. -/
structure Inv (t : Tracked ρ) : Prop where
  issued : t.issued = t.numbers.map (TabIds.idOf ρ)
  addresses : ((TabIds.entries t.runtime).map fun entry => entry.2.address).Nodup
  listed : ∀ entry ∈ TabIds.entries t.runtime, t.issued[t.tabAt entry.2.address]? = some entry.1
  apart : ∀ entry ∈ TabIds.entries t.runtime, ∀ other ∈ TabIds.entries t.runtime,
    t.tabAt entry.2.address = t.tabAt other.2.address → entry.2.address = other.2.address

variable {t t' : Tracked ρ}

theorem Inv.nodup_issued (h : t.Inv) (hnew : t.numbers.Nodup) : t.issued.Nodup := by
  rw [h.issued]
  exact hnew.map TabIds.idOf_injective

/-- Tabs with one id are one tab. -/
theorem Inv.entry_eq (h : t.Inv) (hnew : t.numbers.Nodup) {entry other : String × WebContents}
    (hentry : entry ∈ TabIds.entries t.runtime) (hother : other ∈ TabIds.entries t.runtime)
    (hid : entry.1 = other.1) : entry = other := by
  have h₁ := h.listed entry hentry
  have h₂ := h.listed other hother
  have hlt := (List.getElem?_eq_some_iff.mp h₁).1
  have hplace : t.tabAt entry.2.address = t.tabAt other.2.address := by
    refine (List.getElem?_inj hlt (h.nodup_issued hnew)).mp ?_
    rw [h₁, h₂, hid]
  exact List.inj_on_of_nodup_map h.addresses hentry hother (h.apart _ hentry _ hother hplace)

/-- The id of an entry was made from some number. -/
theorem Inv.exists_number (h : t.Inv) {entry : String × WebContents}
    (hentry : entry ∈ TabIds.entries t.runtime) : ∃ n, entry.1 = TabIds.idOf ρ n := by
  have hmem := List.mem_of_getElem? (h.listed entry hentry)
  rw [h.issued] at hmem
  obtain ⟨n, -, hn⟩ := List.mem_map.mp hmem
  exact ⟨n, hn.symm⟩

theorem Inv.integrity (h : t.Inv) (hnew : t.numbers.Nodup) : t.Integrity where
  distinct := by
    rw [TabIds.listTabs_entries]
    refine List.Nodup.map_on ?_ (List.Nodup.of_map _ h.addresses)
    intro entry hentry other hother hid
    exact h.entry_eq hnew hentry hother hid
  resolves := by
    have hlist : (BrowserRuntime.listTabs t.runtime).map
          (fun tab => BrowserRuntime.getWebContentsByTargetId t.runtime tab.targetId) =
        ((TabIds.entries t.runtime).map Prod.fst).map
          (BrowserRuntime.getWebContentsByTargetId t.runtime) := by
      rw [← TabIds.listTabs_entries, List.map_map]
      rfl
    rw [hlist, TabIds.allWebContents_entries, List.map_map, List.map_map]
    refine List.map_congr_left ?_
    intro entry hentry
    obtain ⟨n, hn⟩ := h.exists_number hentry
    simp only [Function.comp_apply, hn, TabIds.getWebContents_entries]
    cases hfind : (TabIds.entries t.runtime).find? fun other => other.1 == TabIds.idOf ρ n with
    | none =>
        have hnone := List.find?_eq_none.mp hfind entry hentry
        simp [hn] at hnone
    | some other =>
        have hid : other.1 = TabIds.idOf ρ n := by simpa using List.find?_some hfind
        rw [h.entry_eq hnew (List.mem_of_find?_eq_some hfind) hentry (hid.trans hn.symm)]
        rfl
  stable := by
    intro k id page hk hpage
    have hid : id ∈ t.numbers.map (TabIds.idOf ρ) := h.issued ▸ List.mem_of_getElem? hk
    obtain ⟨n, -, rfl⟩ := List.mem_map.mp hid
    rw [TabIds.getWebContents_entries] at hpage
    obtain ⟨entry, hfind, rfl⟩ := Option.map_eq_some_iff.mp hpage
    have hentry := List.mem_of_find?_eq_some hfind
    have hname : entry.1 = TabIds.idOf ρ n := by simpa using List.find?_some hfind
    refine ⟨?_, ?_⟩
    · rw [TabIds.allWebContents_entries]
      exact List.mem_map_of_mem hentry
    · have hlisted := h.listed entry hentry
      refine (List.getElem?_inj (List.getElem?_eq_some_iff.mp hlisted).1
        (h.nodup_issued hnew)).mp ?_
      rw [hlisted, hk, hname]

omit [TabIds ρ] in
private theorem mem_identity {old new : List (String × WebContents)}
    (hsub : new.map identity ⊆ old.map identity) {entry : String × WebContents}
    (hentry : entry ∈ new) :
    ∃ before ∈ old, before.1 = entry.1 ∧ before.2.address = entry.2.address := by
  obtain ⟨before, hbefore, heq⟩ := List.mem_map.mp (hsub (List.mem_map_of_mem hentry))
  exact ⟨before, hbefore, (Prod.mk.inj heq).1, (Prod.mk.inj heq).2⟩

omit [TabIds ρ] in
private theorem identity_addresses (entries : List (String × WebContents)) :
    (entries.map identity).map Prod.snd = entries.map fun entry => entry.2.address := by
  rw [List.map_map]
  rfl

/-- Tabs that go, move or change their pages. -/
theorem Inv.keeps {rt : ρ} (h : t.Inv)
    (hsub : ((TabIds.entries rt).map identity).Subperm
      ((TabIds.entries t.runtime).map identity)) :
    Inv { t with runtime := rt } where
  issued := h.issued
  addresses := by
    obtain ⟨kept, hperm, hkept⟩ := hsub
    have hold := h.addresses
    rw [← identity_addresses] at hold ⊢
    exact (hperm.map Prod.snd).nodup_iff.mp ((hkept.map Prod.snd).nodup hold)
  listed := by
    intro entry hentry
    obtain ⟨before, hbefore, hid, haddress⟩ := mem_identity hsub.subset hentry
    rw [← hid, ← haddress]
    exact h.listed before hbefore
  apart := by
    intro entry hentry other hother hplace
    obtain ⟨before, hbefore, -, haddress⟩ := mem_identity hsub.subset hentry
    obtain ⟨before', hbefore', -, haddress'⟩ := mem_identity hsub.subset hother
    rw [← haddress, ← haddress'] at hplace ⊢
    exact h.apart before hbefore before' hbefore' hplace

/-- An entry after a tab is made: that tab, or one from before. -/
private theorem mem_added {old new : List (String × WebContents)} {id : String} {address : Nat}
    (hperm : (new.map identity).Perm (old.map identity ++ [(id, address)]))
    {entry : String × WebContents} (hentry : entry ∈ new) :
    (∃ before ∈ old, before.1 = entry.1 ∧ before.2.address = entry.2.address) ∨
      entry.1 = id ∧ entry.2.address = address := by
  have hmem := hperm.subset (List.mem_map_of_mem hentry)
  rcases List.mem_append.mp hmem with hmem | hmem
  · obtain ⟨before, hbefore, heq⟩ := List.mem_map.mp hmem
    exact .inl ⟨before, hbefore, (Prod.mk.inj heq).1, (Prod.mk.inj heq).2⟩
  · have heq := List.mem_singleton.mp hmem
    exact .inr ⟨(Prod.mk.inj heq).1, (Prod.mk.inj heq).2⟩

theorem Inv.place_lt (h : t.Inv) {entry : String × WebContents}
    (hentry : entry ∈ TabIds.entries t.runtime) : t.tabAt entry.2.address < t.numbers.length := by
  have hlt := (List.getElem?_eq_some_iff.mp (h.listed entry hentry)).1
  simpa [h.issued] using hlt

/-- A tab is made at an address at which no tab lives. -/
theorem Inv.add {rt : ρ} {n address : Nat} (h : t.Inv)
    (hperm : ((TabIds.entries rt).map identity).Perm
      ((TabIds.entries t.runtime).map identity ++ [(TabIds.idOf ρ n, address)]))
    (hfresh : address ∉ (TabIds.entries t.runtime).map fun entry => entry.2.address) :
    (t.add rt [TabIds.idOf ρ n] n address).Inv := by
  have hlength : t.issued.length = t.numbers.length := by simp [h.issued]
  have hold {before : String × WebContents} (hbefore : before ∈ TabIds.entries t.runtime) :
      Function.update t.tabAt address t.numbers.length before.2.address =
        t.tabAt before.2.address := by
    refine Function.update_of_ne ?_ _ _
    rintro rfl
    exact hfresh (List.mem_map_of_mem hbefore)
  refine ⟨by simp [Tracked.add, h.issued], ?_, ?_, ?_⟩
  · have hnodup := h.addresses.concat hfresh
    rw [List.concat_eq_append, ← identity_addresses] at hnodup
    rw [← identity_addresses]
    refine (hperm.map Prod.snd).nodup_iff.mpr ?_
    rw [List.map_append]
    exact hnodup
  · intro entry hentry
    rcases mem_added hperm hentry with ⟨before, hbefore, hid, haddress⟩ | ⟨hid, haddress⟩
    · rw [← hid, ← haddress]
      simp only [Tracked.add, hold hbefore]
      rw [List.getElem?_append_left (hlength ▸ h.place_lt hbefore)]
      exact h.listed before hbefore
    · simp [Tracked.add, haddress, hid, ← hlength]
  · intro entry hentry other hother hplace
    simp only [Tracked.add] at hplace
    rcases mem_added hperm hentry with ⟨before, hbefore, -, haddress⟩ | ⟨-, haddress⟩
    · rw [← haddress, hold hbefore] at hplace
      rcases mem_added hperm hother with ⟨before', hbefore', -, haddress'⟩ | ⟨-, haddress'⟩
      · rw [← haddress', hold hbefore'] at hplace
        rw [← haddress, ← haddress']
        exact h.apart before hbefore before' hbefore' hplace
      · rw [haddress', Function.update_self] at hplace
        exact absurd (h.place_lt hbefore) (by omega)
    · rw [haddress, Function.update_self] at hplace
      rcases mem_added hperm hother with ⟨before', hbefore', -, haddress'⟩ | ⟨-, haddress'⟩
      · rw [← haddress', hold hbefore'] at hplace
        exact absurd (h.place_lt hbefore') (by omega)
      · rw [haddress, haddress']

/-- A listed id leads back to its tab. -/
theorem Integrity.resolves_entry (h : t.Integrity) {entry : String × WebContents}
    (hentry : entry ∈ TabIds.entries t.runtime) :
    BrowserRuntime.getWebContentsByTargetId t.runtime entry.1 = some entry.2 := by
  have hlist := h.resolves
  rw [TabIds.allWebContents_entries] at hlist
  have hmap : (BrowserRuntime.listTabs t.runtime).map
        (fun tab => BrowserRuntime.getWebContentsByTargetId t.runtime tab.targetId) =
      (TabIds.entries t.runtime).map fun entry =>
        BrowserRuntime.getWebContentsByTargetId t.runtime entry.1 := by
    rw [← Function.comp_def (BrowserRuntime.getWebContentsByTargetId t.runtime) Prod.fst,
      ← List.map_map, ← TabIds.listTabs_entries, List.map_map]
    rfl
  rw [hmap, List.map_map] at hlist
  exact List.map_inj_left.mp hlist entry hentry

/-- The id of a new tab leads to it, and so to no earlier one. -/
theorem Integrity.new_number {rt : ρ} {n address : Nat} (ht : t.Inv)
    (hperm : ((TabIds.entries rt).map identity).Perm
      ((TabIds.entries t.runtime).map identity ++ [(TabIds.idOf ρ n, address)]))
    (h : (t.add rt [TabIds.idOf ρ n] n address).Integrity) : n ∉ t.numbers := by
  intro hmem
  obtain ⟨k, hk, hget⟩ := List.getElem_of_mem hmem
  have hnew : (TabIds.idOf ρ n, address) ∈ (TabIds.entries rt).map identity :=
    hperm.mem_iff.mpr (by simp)
  obtain ⟨entry, hentry, heq⟩ := List.mem_map.mp hnew
  have hid : entry.1 = TabIds.idOf ρ n := (Prod.mk.inj heq).1
  have haddress : entry.2.address = address := (Prod.mk.inj heq).2
  have hresolved := h.resolves_entry hentry
  have hissued : (t.add rt [TabIds.idOf ρ n] n address).issued[k]? = some entry.1 := by
    simp only [Tracked.add, ht.issued]
    rw [List.getElem?_append_left (by simpa using hk)]
    simp [hk, hget, hid]
  have hplace := (h.stable k entry.1 entry.2 hissued hresolved).2
  simp only [Tracked.add, haddress, Function.update_self] at hplace
  omega

/-- Making a tab from the number `n` is harmless exactly when `n` is new. -/
theorem Inv.add_spec {rt : ρ} {n address : Nat} (h : t.Inv) (hnodup : t.numbers.Nodup)
    (hperm : ((TabIds.entries rt).map identity).Perm
      ((TabIds.entries t.runtime).map identity ++ [(TabIds.idOf ρ n, address)]))
    (hfresh : address ∉ (TabIds.entries t.runtime).map fun entry => entry.2.address) :
    let t' := t.add rt [TabIds.idOf ρ n] n address
    (t'.Integrity ↔ n ∉ t.numbers) ∧ (n ∉ t.numbers → t'.Inv ∧ t'.numbers.Nodup) := by
  intro t'
  have hinv : t'.Inv := h.add hperm hfresh
  have hnumbers (hnew : n ∉ t.numbers) : t'.numbers.Nodup := by
    have hconcat := hnodup.concat hnew
    rwa [List.concat_eq_append] at hconcat
  constructor
  · constructor
    · exact Integrity.new_number h hperm
    · intro hnew
      exact hinv.integrity (hnumbers hnew)
  · intro hnew
    exact ⟨hinv, hnumbers hnew⟩

/-- An event that makes no tab is harmless. -/
private theorem Inv.keeps_spec (rt : ρ) (h : t.Inv) (hnodup : t.numbers.Nodup)
    (hsub : ((TabIds.entries rt).map identity).Subperm
      ((TabIds.entries t.runtime).map identity)) :
    let t' := { t with runtime := rt }
    (t'.Integrity ↔ True) ∧ (True → t'.Inv ∧ t'.numbers.Nodup) := by
  intro t'
  have hinv : t'.Inv := h.keeps hsub
  exact ⟨iff_true_intro (hinv.integrity hnodup), fun _ => ⟨hinv, hnodup⟩⟩

theorem Tr.spec {event : TargetEvent ρ} (h : t.Inv) (hnodup : t.numbers.Nodup)
    (hstep : t.Tr event t') :
    (t'.Integrity ↔ t.NewNumber event) ∧ (t.NewNumber event → t'.Inv ∧ t'.numbers.Nodup) := by
  cases event with
  | createTab build url =>
      obtain ⟨hpromised, rfl⟩ := hstep
      simp only [NewNumber]
      cases hbirth : TabIds.birth build url t.runtime with
      | none =>
          obtain ⟨-, hentries⟩ := TabIds.createTab_none hbirth
          have hspec := h.keeps_spec (BrowserRuntime.createTab build url t.runtime).1 hnodup
            (by rw [hentries])
          simpa using hspec
      | some born =>
          obtain ⟨n, page⟩ := born
          obtain ⟨hid, hperm, hfresh⟩ := TabIds.createTab_some hpromised hbirth
          have hids : (BrowserRuntime.createTab build url t.runtime).2.toList.map
              BrowserTabInfo.targetId = [TabIds.idOf ρ n] := by
            rw [← Option.toList_map, hid, Option.toList_some]
          have hmap := hperm.map identity
          rw [List.map_append] at hmap
          have hspec := h.add_spec hnodup hmap hfresh
          simpa [hids] using hspec
  | closeTab targetId =>
      obtain rfl := hstep
      exact h.keeps_spec _ hnodup
        ((TabIds.closeTab_sublist targetId t.runtime).map identity).subperm
  | changed rt =>
      obtain ⟨houtside, rfl⟩ := hstep
      exact h.keeps_spec _ hnodup (TabIds.outside_subperm houtside)
  | opened rt n page =>
      obtain ⟨hopens, rfl⟩ := hstep
      obtain ⟨hperm, hfresh⟩ := TabIds.opensOutside_perm hopens
      exact h.add_spec hnodup hperm hfresh

theorem start_inv {rt : ρ} (hrt : TabIds.entries rt = []) : (start rt).Inv where
  issued := rfl
  addresses := by simp [start, hrt]
  listed := by simp [start, hrt]
  apart := by simp [start, hrt]

/-- The ids are sound all the way exactly when no number is used twice. -/
theorem exec_integrity {events : List (TargetEvent ρ)} {rt : ρ} (hrt : TabIds.entries rt = []) :
    Exec (Through Tr Integrity) (start rt) events t' ↔
      Exec (Guarded Tr NewNumber) (start rt) events t' := by
  refine Exec.through_iff_guarded (J := fun t => t.Inv ∧ t.numbers.Nodup) ?_
    ⟨start_inv hrt, List.nodup_nil⟩
  intro s e t hs hstep
  exact Tr.spec hs.1 hs.2 hstep

end Tracked

end Browserd
