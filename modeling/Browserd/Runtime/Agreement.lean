import Browserd.Lib.Exec
import Browserd.Runtime.GuiStrip
import Browserd.Runtime.HeadlessStrip

/-!
# Do the two runtimes agree on the active tab?

Both runtimes driven by one sequence of operations, the ids of each call naming tabs in the
same places. They agree as long as no close of an inactive tab moves the headless runtime's
active tab to the front of its enumeration.
-/

namespace Browserd

structure BothRuntimes where
  headless : HeadlessRuntime
  gui : GuiRuntime

inductive TabOperation where
  | createTab (url : GURL) (headless : HeadlessBuilder) (gui : GuiBuilder)
  | closeTab (headlessId guiId : Option String)

namespace BothRuntimes

/-- Nothing can be asked of a headless browser that has shut down. -/
def step (b : BothRuntimes) (op : TabOperation) : Option BothRuntimes :=
  if b.headless.isShutdown then none
  else
    match op with
    | .createTab url headless gui =>
        some ⟨(b.headless.createTab headless url).1, (b.gui.createTab gui url).1⟩
    | .closeTab headlessId guiId =>
        some ⟨(b.headless.closeTab headlessId).1, (b.gui.closeTab guiId).1⟩

/-- The tabs in the same places of the two enumerations. -/
def places (b : BothRuntimes) : List (Nat × Nat) :=
  b.headless.addresses.zip b.gui.addresses

/-- The operation is the same for both runtimes: creation succeeds or fails in both and adds its
tab at the end, and the ids of a close name tabs in the same place, or none. -/
def SameOperation (b : BothRuntimes) : TabOperation → Prop
  | .createTab url headless gui =>
      (headless url = none ∧ ∀ webContents, gui url ≠ some (webContents, true)) ∨
        ∃ contents enumeration webContents,
          headless url = some (contents, enumeration) ∧ gui url = some (webContents, true) ∧
            b.headless.BuildsLast contents enumeration ∧ webContents.address ∉ b.gui.addresses
  | .closeTab none none => True
  | .closeTab (some headlessId) (some guiId) =>
      (b.headless.findByTargetId headlessId = none ∧ b.gui.findTab guiId = none) ∨
        ∃ contents tab,
          b.headless.findByTargetId headlessId = some contents ∧
            b.gui.findTab guiId = some tab ∧
            (contents.webContents.address, tab.webContents.address) ∈ b.places
  | _ => False

/-- A close names the active tab of the headless runtime, or the active tab is the first of those
that it does not name. -/
def KeepsActive (b : BothRuntimes) : TabOperation → Prop
  | .closeTab headlessId _ => b.headless.KeepsActive headlessId
  | .createTab .. => True

structure WellFormed (b : BothRuntimes) : Prop where
  headless : b.headless.WellFormed
  gui : b.gui.WellFormed

/-- The same number of tabs, and tabs in the same place are active together. -/
def ActiveTabsCorrespond (b : BothRuntimes) : Prop :=
  b.headless.addresses.length = b.gui.addresses.length ∧
    ∀ p ∈ b.places, b.headless.activeWebContents = some p.1 ↔ b.gui.activeAddress = some p.2

theorem activeTabsCorrespond_iff {b : BothRuntimes} (hb : b.WellFormed) :
    b.ActiveTabsCorrespond ↔
      (b.headless.strip hb.headless).Corresponding (b.gui.strip hb.gui) := by
  constructor
  · rintro ⟨hlength, hactive⟩
    refine ⟨b.places, ?_, ?_, hactive⟩
    · exact (List.map_fst_zip hlength.le).symm
    · exact (List.map_snd_zip hlength.ge).symm
  · rintro ⟨pairs, hheadless, hgui, hactive⟩
    have hheadless : b.headless.addresses = pairs.map Prod.fst := hheadless
    have hgui : b.gui.addresses = pairs.map Prod.snd := hgui
    have hplaces : b.places = pairs := by
      simp [places, hheadless, hgui, List.zip_map']
    rw [ActiveTabsCorrespond, hplaces]
    exact ⟨by simp [hheadless, hgui], hactive⟩

/-- The two calls close nothing, or tabs in the same place. -/
private theorem closeTargets {b : BothRuntimes} (hb : b.WellFormed)
    (hcorr : b.ActiveTabsCorrespond) {headlessId guiId : Option String}
    (hsame : b.SameOperation (.closeTab headlessId guiId)) :
    (b.headless.closeTarget headlessId = none ∧ b.gui.closeTarget guiId = none) ∨
      ∃ contents tab,
        b.headless.closeTarget headlessId = some contents ∧ b.gui.closeTarget guiId = some tab ∧
          (contents.webContents.address, tab.webContents.address) ∈ b.places := by
  match headlessId, guiId, hsame with
  | some headlessId, some guiId, hsame => exact hsame
  | none, none, _ =>
      obtain ⟨hlength, hactive⟩ := hcorr
      cases haddress : b.headless.activeWebContents with
      | none =>
          have hnil : b.headless.addresses = [] := by
            by_contra hne
            simpa [haddress] using hb.headless.active_isSome hne
          have htabs : b.gui.tabs = [] := by
            simpa [hnil, GuiRuntime.addresses] using hlength.symm
          refine .inl ⟨?_, ?_⟩
          · simp [HeadlessRuntime.closeTarget, HeadlessRuntime.activeHeadlessWebContents, haddress]
          · simp [GuiRuntime.closeTarget, GuiRuntime.findTab, htabs]
      | some address =>
          -- The active tab's place in the first enumeration names the second active tab.
          obtain ⟨i, hi, hget⟩ := List.getElem_of_mem (hb.headless.active_mem address haddress)
          have hi' : i < b.gui.tabs.length := by
            rw [hlength] at hi
            simpa [GuiRuntime.addresses] using hi
          have hplace : (address, (b.gui.tabs[i]).webContents.address) ∈ b.places := by
            refine List.mem_iff_getElem.mpr ⟨i, ?_, ?_⟩
            · simp only [places, List.length_zip]
              omega
            · simp [places, List.getElem_zip, hget, GuiRuntime.addresses]
          have hgui := (hactive _ hplace).mp haddress
          have hmem : b.gui.tabs[i] ∈ b.gui.tabs := List.getElem_mem hi'
          have hid := (GuiRuntime.activeAddress_eq_some hb.gui hmem).mp hgui
          obtain ⟨contents, hcontents, hcaddress⟩ :=
            List.mem_map.mp (hb.headless.active_mem address haddress)
          refine .inr ⟨contents, b.gui.tabs[i], ?_, ?_, hcaddress ▸ hplace⟩
          · simp only [HeadlessRuntime.closeTarget, HeadlessRuntime.activeHeadlessWebContents,
              haddress]
            cases hfind : b.headless.contents.find? fun c => c.webContents.address == address with
            | none =>
                have hmissing := List.find?_eq_none.mp hfind contents hcontents
                simp [hcaddress] at hmissing
            | some other =>
                have hother : other.webContents.address = address := by
                  simpa using List.find?_some hfind
                rw [List.inj_on_of_nodup_map hb.headless.nodup_addresses
                  (List.mem_of_find?_eq_some hfind) hcontents (hother.trans hcaddress.symm)]
          · simp [GuiRuntime.closeTarget, hid, GuiRuntime.findTab_of_mem hb.gui hmem]

/-- One operation keeps the correspondence, and uses up at most one id. -/
theorem step_corresponds {b b' : BothRuntimes} {op : TabOperation} (hb : b.WellFormed)
    (hcorr : b.ActiveTabsCorrespond) (hcount : b.gui.nextTabId.toNat + 1 < 2 ^ 64)
    (hstep : b.step op = some b') (hsame : b.SameOperation op) (hkeeps : b.KeepsActive op) :
    b'.WellFormed ∧ b'.ActiveTabsCorrespond ∧
      b'.gui.nextTabId.toNat ≤ b.gui.nextTabId.toNat + 1 := by
  have hstrips := (activeTabsCorrespond_iff hb).mp hcorr
  simp only [step] at hstep
  split at hstep
  · cases hstep
  cases op with
  | createTab url headless gui =>
      obtain rfl := (Option.some.inj hstep).symm
      have hnext : (b.gui.createTab gui url).1.nextTabId.toNat ≤ b.gui.nextTabId.toNat + 1 := by
        rcases b.gui.createTab_nextTabId gui url with h | h
        · rw [h]
          omega
        · rw [h, UInt64.toNat_add, UInt64.toNat_one]
          exact Nat.mod_le _ _
      rcases hsame with ⟨hheadless, hgui⟩ |
        ⟨contents, enumeration, webContents, hheadless, hgui, hlast, hfresh⟩
      · obtain ⟨hwf, htabs, hactive⟩ := GuiRuntime.createTab_failed hb.gui hcount hgui
        have heq : (b.headless.createTab headless url).1 = b.headless := by
          simp [HeadlessRuntime.createTab, hheadless]
        refine ⟨⟨by simpa [heq] using hb.headless, hwf⟩, ?_, hnext⟩
        simpa [ActiveTabsCorrespond, places, heq, GuiRuntime.addresses, htabs, hactive,
          GuiRuntime.activeAddress, GuiRuntime.activeWebContents, GuiRuntime.activeTab,
          GuiRuntime.findTab] using hcorr
      · have hwf : BothRuntimes.WellFormed
            ⟨(b.headless.createTab headless url).1, (b.gui.createTab gui url).1⟩ :=
          ⟨HeadlessRuntime.createTab_wellFormed hb.headless hheadless hlast,
            GuiRuntime.createTab_wellFormed hb.gui hcount hgui hfresh⟩
        refine ⟨hwf, (activeTabsCorrespond_iff hwf).mpr ?_, hnext⟩
        have hcreate := hstrips.create (a := contents.webContents.address)
          (b := webContents.address)
          hlast.fresh_webContents hfresh
        rw [← HeadlessRuntime.createTab_strip hb.headless hheadless hlast,
          ← GuiRuntime.createTab_strip hb.gui hcount hgui hfresh] at hcreate
        exact hcreate
  | closeTab headlessId guiId =>
      obtain rfl := (Option.some.inj hstep).symm
      have hgui := GuiRuntime.closeTab_eq hb.gui guiId
      rcases closeTargets hb hcorr hsame with ⟨hheadless, hnone⟩ |
        ⟨contents, tab, hheadless, htab, hplace⟩
      · have heq : (b.headless.closeTab headlessId).1 = b.headless := by
          simp [HeadlessRuntime.closeTab, hheadless]
        have heq' : (b.gui.closeTab guiId).1 = b.gui := by simp [hgui, hnone]
        simp only [heq, heq']
        exact ⟨hb, hcorr, by omega⟩
      · have hmem := (GuiRuntime.mem_of_findTab htab).1
        have heq' : (b.gui.closeTab guiId).1 = b.gui.eraseTab tab.targetId := by
          simp [hgui, htab]
        simp only [heq']
        have hwf : BothRuntimes.WellFormed
            ⟨(b.headless.closeTab headlessId).1, b.gui.eraseTab tab.targetId⟩ :=
          ⟨HeadlessRuntime.closeTab_wellFormed hb.headless headlessId,
            GuiRuntime.eraseTab_wellFormed hb.gui hmem⟩
        refine ⟨hwf, (activeTabsCorrespond_iff hwf).mpr ?_, ?_⟩
        · have hclose := hstrips.close hplace
          rw [← HeadlessRuntime.closeTab_strip hb.headless hheadless hkeeps,
            ← GuiRuntime.eraseTab_strip hb.gui hmem] at hclose
          exact hclose
        · simp only [(GuiRuntime.eraseTab_eq hb.gui.nodup hb.gui.active_mem hmem).2.2]
          omega

open Transition

/-- Runs of one sequence of operations in which no close finds another tab first. -/
def AgreeingRun : BothRuntimes → List TabOperation → BothRuntimes → Prop :=
  Exec (Guarded (Step step) fun b op => b.SameOperation op ∧ b.KeepsActive op)

theorem run_corresponds {b b' : BothRuntimes} {ops : List TabOperation}
    (hrun : AgreeingRun b ops b') (hb : b.WellFormed) (hcorr : b.ActiveTabsCorrespond)
    (hcount : b.gui.nextTabId.toNat + ops.length < 2 ^ 64) :
    b'.WellFormed ∧ b'.ActiveTabsCorrespond := by
  induction hrun with
  | nil => exact ⟨hb, hcorr⟩
  | cons head _ ih =>
      obtain ⟨hstep, hsame, hkeeps⟩ := head
      rw [List.length_cons] at hcount
      obtain ⟨hb', hcorr', hnext⟩ :=
        step_corresponds hb hcorr (by omega) hstep hsame hkeeps
      exact ih hb' hcorr' (by omega)

end BothRuntimes

/-- `CloseTab` of the GUI runtime only moves the active tab when it closes it. In the headless
runtime that is so exactly for the calls at which the active tab is closed or is the first of the
others; in a run of such calls the two runtimes have corresponding active tabs. -/
theorem activeTab_agreement (rt : HeadlessRuntime) (targetId : Option String)
    (closing : HeadlessWebContents) (hrt : rt.Distinct)
    (htarget : rt.closeTarget targetId = some closing) :
    (ClosePolicy rt.activeWebContents (rt.closeTab targetId).1.activeWebContents
        (rt.closeTab targetId).1.addresses closing.webContents.address ↔
      rt.KeepsActive targetId) ∧
      (∀ (gui : GuiRuntime) (guiTargetId : Option String) (tab : GuiTab),
        gui.WellFormed → gui.closeTarget guiTargetId = some tab →
          ClosePolicy gui.activeAddress (gui.closeTab guiTargetId).1.activeAddress
            (gui.closeTab guiTargetId).1.addresses tab.webContents.address) ∧
      ∀ (b b' : BothRuntimes) (ops : List TabOperation),
        BothRuntimes.AgreeingRun b ops b' → b.WellFormed → b.ActiveTabsCorrespond →
          b.gui.nextTabId.toNat + ops.length < 2 ^ 64 → b'.ActiveTabsCorrespond := by
  refine ⟨HeadlessRuntime.closePolicy_iff hrt htarget, ?_, ?_⟩
  · intro gui guiTargetId tab hgui hguiTarget
    exact GuiRuntime.closePolicy hgui hguiTarget
  · intro b b' ops hrun hb hcorr hcount
    exact (BothRuntimes.run_corresponds hrun hb hcorr hcount).2

/-- A blank page at `address`. -/
def blankPage (address : Nat) : WebContents where
  address := address
  title := ""
  lastCommittedURL := .aboutBlank
  isLoading := false
  canGoBack := false
  canGoForward := false

def sampleContents (address : Nat) : HeadlessWebContents := ⟨address, blankPage (10 * address)⟩

/-- Three tabs, the last one active. -/
def threeTabs : HeadlessRuntime where
  contents := [sampleContents 1, sampleContents 2, sampleContents 3]
  activeWebContents := some 30
  isShutdown := false

theorem threeTabs_wellFormed : threeTabs.WellFormed where
  nodup := by decide
  nodup_addresses := by decide
  active_mem t ht := by
    obtain rfl : 30 = t := by simpa [threeTabs] using ht
    decide
  active_isSome _ := rfl

theorem threeTabs_closeTarget :
    threeTabs.closeTarget (some (HeadlessRuntime.makeTargetId (sampleContents 2))) =
      some (sampleContents 2) := by
  simp [HeadlessRuntime.closeTarget, HeadlessRuntime.findByTargetId, threeTabs,
    HeadlessRuntime.makeTargetId_inj, sampleContents]

/-- Closing the second tab makes the first one active. -/
theorem closeTab_moves_active :
    ¬ ∀ (rt : HeadlessRuntime) (targetId : Option String) (closing : HeadlessWebContents),
        rt.WellFormed → rt.closeTarget targetId = some closing →
          ClosePolicy rt.activeWebContents (rt.closeTab targetId).1.activeWebContents
            (rt.closeTab targetId).1.addresses closing.webContents.address := by
  intro h
  have hpolicy := h threeTabs _ _ threeTabs_wellFormed threeTabs_closeTarget
  have hmoved := hpolicy.inactive (by decide)
  rw [(HeadlessRuntime.closeTab_eq threeTabs_wellFormed.toDistinct
    threeTabs_closeTarget).2] at hmoved
  revert hmoved
  decide

def sampleGuiTab (k : UInt64) : GuiTab :=
  ⟨GuiRuntime.makeTargetId k, blankPage (100 * k.toNat), true⟩

/-- Two tabs in each runtime, the second ones active. -/
def twoTabs : BothRuntimes where
  headless := ⟨[sampleContents 1, sampleContents 2], some 20, false⟩
  gui :=
    { options := {}
      tabs := [sampleGuiTab 1, sampleGuiTab 2]
      activeTargetId := GuiRuntime.makeTargetId 2
      nextTabId := 3
      quitCallback := true
      shutdownStarted := false
      pendingRemovals := []
      quits := 0 }

private theorem twoTabs_wellFormed : twoTabs.WellFormed where
  headless :=
    { nodup := by decide
      nodup_addresses := by decide
      active_mem := by
        intro t ht
        obtain rfl : 20 = t := by simpa [twoTabs] using ht
        decide
      active_isSome := fun _ => rfl }
  gui :=
    { nodup := by simp [twoTabs, sampleGuiTab, GuiRuntime.makeTargetId_inj]
      nodup_addresses := by decide
      issued := by
        simp only [twoTabs, List.forall_mem_cons, sampleGuiTab]
        exact ⟨⟨1, by decide, rfl⟩, ⟨2, by decide, rfl⟩, by simp⟩
      active_mem := fun _ => by simp [twoTabs, sampleGuiTab]
      active_empty := fun h => by simp [twoTabs] at h }

private theorem twoTabs_gui_target :
    twoTabs.gui.closeTarget (some (GuiRuntime.makeTargetId 1)) = some (sampleGuiTab 1) := by
  simp [twoTabs, GuiRuntime.closeTarget, GuiRuntime.findTab, sampleGuiTab]

private theorem twoTabs_correspond : twoTabs.ActiveTabsCorrespond := by
  have hmem : sampleGuiTab 2 ∈ twoTabs.gui.tabs := by simp [twoTabs]
  have hgui : twoTabs.gui.activeAddress = some 200 :=
    (GuiRuntime.activeAddress_eq_some twoTabs_wellFormed.gui hmem).mpr rfl
  refine ⟨rfl, ?_⟩
  rw [hgui]
  decide

theorem activeTab_agreement_sample :
    ¬ threeTabs.KeepsActive (some (HeadlessRuntime.makeTargetId (sampleContents 2))) ∧
      (twoTabs.gui.closeTab (some (GuiRuntime.makeTargetId 1))).1.activeAddress =
        twoTabs.gui.activeAddress ∧
      BothRuntimes.ActiveTabsCorrespond
        ⟨(twoTabs.headless.closeTab none).1, (twoTabs.gui.closeTab none).1⟩ := by
  obtain ⟨hheadless, hgui, hruns⟩ :=
    activeTab_agreement threeTabs _ _ threeTabs_wellFormed.toDistinct threeTabs_closeTarget
  refine ⟨?_, ?_, ?_⟩
  · rw [← hheadless]
    intro hpolicy
    have hmoved := hpolicy.inactive (by decide)
    rw [(HeadlessRuntime.closeTab_eq threeTabs_wellFormed.toDistinct
      threeTabs_closeTarget).2] at hmoved
    revert hmoved
    decide
  · refine (hgui twoTabs.gui _ _ twoTabs_wellFormed.gui twoTabs_gui_target).inactive ?_
    intro hactive
    have hid := (GuiRuntime.activeAddress_eq_some twoTabs_wellFormed.gui
      (GuiRuntime.mem_of_findTab twoTabs_gui_target).1).mp hactive
    simp [twoTabs, sampleGuiTab, GuiRuntime.makeTargetId_inj] at hid
  · refine hruns twoTabs _ [.closeTab none none] ?_ twoTabs_wellFormed twoTabs_correspond
      (by decide)
    refine .cons ⟨rfl, trivial, ?_⟩ (.nil _)
    intro closing hclosing
    obtain rfl : sampleContents 2 = closing := by
      simpa [twoTabs, HeadlessRuntime.closeTarget, HeadlessRuntime.activeHeadlessWebContents,
        sampleContents, blankPage] using hclosing
    exact .inl rfl

end Browserd
