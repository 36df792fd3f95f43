import Browserd.Runtime.ChromeStrip
import Browserd.Runtime.GuiRuns
import Browserd.Runtime.HeadlessStrip
import Browserd.Runtime.TabIds

/-!
# Are target ids sound?

The headless runtime names a tab by the address of its contents, the GUI runtime by a counter and
the Chrome runtime by a session id. An id is sound as long as the number it is made from is not
used again.
-/

namespace Browserd

open Transition

section Keys

variable {α κ : Type*} {old new : List α} {e : α → String × WebContents} {key : α → κ × Nat}
  {f : κ → String}

/-- The identities of the entries, from the numbers and addresses of the tabs. -/
private theorem map_identity (hentry : ∀ a, identity (e a) = (f (key a).1, (key a).2))
    (tabs : List α) :
    (tabs.map e).map identity = (tabs.map key).map fun k => (f k.1, k.2) := by
  rw [List.map_map, List.map_map]
  exact List.map_congr_left fun a _ => hentry a

private theorem subperm_identity (h : (new.map key).Subperm (old.map key))
    (hentry : ∀ a, identity (e a) = (f (key a).1, (key a).2)) :
    ((new.map e).map identity).Subperm ((old.map e).map identity) := by
  rw [map_identity hentry, map_identity hentry]
  obtain ⟨kept, hperm, hsub⟩ := h
  exact ⟨kept.map _, hperm.map _, hsub.map _⟩

private theorem perm_identity {n : κ} {address : Nat}
    (h : (new.map key).Perm (old.map key ++ [(n, address)]))
    (hentry : ∀ a, identity (e a) = (f (key a).1, (key a).2)) :
    ((new.map e).map identity).Perm ((old.map e).map identity ++ [(f n, address)]) := by
  rw [map_identity hentry, map_identity hentry]
  have hmap := h.map fun k => (f k.1, k.2)
  rwa [List.map_append] at hmap

end Keys

/-- The addresses of the contents and of their page. -/
def HeadlessWebContents.addresses (contents : HeadlessWebContents) : Nat × Nat :=
  (contents.address, contents.webContents.address)

namespace HeadlessRuntime

def idOf (address : Nat) : String := "0x" ++ String.ofList (Nat.toDigits 16 address)

theorem idOf_injective : Function.Injective idOf :=
  Digits.append_toDigits_injective _ (by decide) (by decide)

theorem closeTab_sublist (targetId : Option String) (rt : HeadlessRuntime) :
    (rt.closeTab targetId).1.contents.Sublist rt.contents := by
  unfold closeTab
  split
  · exact .refl _
  · simp only
    split
    · exact List.nil_sublist _
    · exact List.filter_sublist

end HeadlessRuntime

/-- Pages close themselves, change and open others, and the context may enumerate its contents in
another order. -/
instance : TabIds HeadlessRuntime where
  idOf := HeadlessRuntime.idOf
  idOf_injective := HeadlessRuntime.idOf_injective
  entries rt := rt.contents.map fun contents =>
    (HeadlessRuntime.makeTargetId contents, contents.webContents)
  listTabs_entries rt := by
    simp only [BrowserRuntime.listTabs, HeadlessRuntime.listTabs, List.map_map]
    rfl
  allWebContents_entries rt := by
    simp only [BrowserRuntime.allWebContents, HeadlessRuntime.allWebContents, List.map_map]
    rfl
  getWebContents_entries rt n := by
    simp only [BrowserRuntime.getWebContentsByTargetId, HeadlessRuntime.getWebContentsByTargetId,
      HeadlessRuntime.findByTargetId, List.find?_map, Option.map_map]
    rfl
  birth build url _ := (build url).map fun built => (built.1.address, built.1.webContents)
  Promised _ rt build url := HeadlessRuntime.Builds build url rt
  createTab_none := by
    intro build url rt hbirth
    have hbuild : build url = none := by simpa using hbirth
    simp [BrowserRuntime.createTab, HeadlessRuntime.createTab, hbuild]
  createTab_some := by
    intro _ build url rt n page hbuilds hbirth
    obtain ⟨built, hbuild, heq⟩ := Option.map_eq_some_iff.mp hbirth
    obtain ⟨newContents, enumeration⟩ := built
    obtain ⟨rfl, rfl⟩ := Prod.mk.inj heq
    obtain ⟨hperm, hfresh⟩ := hbuilds.2 newContents enumeration hbuild
    simp only [BrowserRuntime.createTab, HeadlessRuntime.createTab, hbuild]
    refine ⟨rfl, ?_, ?_⟩
    · have hmap := hperm.map fun contents =>
        (HeadlessRuntime.makeTargetId contents, contents.webContents)
      rwa [List.map_append] at hmap
    · simpa using hfresh
  closeTab_sublist targetId rt := (HeadlessRuntime.closeTab_sublist targetId rt).map _
  Outside rt rt' :=
    (rt.isShutdown → rt'.isShutdown) ∧
      (rt'.contents.map HeadlessWebContents.addresses).Subperm
        (rt.contents.map HeadlessWebContents.addresses)
  outside_subperm := by
    intro rt rt' houtside
    exact subperm_identity (f := HeadlessRuntime.idOf) houtside.2 fun _ => rfl
  OpensOutside _ rt rt' n page :=
    rt.isShutdown = false ∧
      (rt'.contents.map HeadlessWebContents.addresses).Perm
          (rt.contents.map HeadlessWebContents.addresses ++ [(n, page.address)]) ∧
        page.address ∉ rt.contents.map fun contents => contents.webContents.address
  opensOutside_perm := by
    intro _ rt rt' n page hopens
    exact ⟨perm_identity (f := HeadlessRuntime.idOf) hopens.2.1 fun _ => rfl,
      by simpa using hopens.2.2⟩

namespace GuiRuntime

def idOf (n : Nat) : String := "gui-" ++ n.repr

theorem idOf_injective : Function.Injective idOf := Digits.append_repr_injective _

theorem shutdown_sublist (rt : GuiRuntime) : rt.shutdown.tabs.Sublist rt.tabs := by
  unfold shutdown
  split
  · exact .refl _
  · exact List.nil_sublist _

theorem eraseTab_sublist (id : String) (rt : GuiRuntime) :
    (rt.eraseTab id).tabs.Sublist rt.tabs := by
  have herased : (rt.erased id).tabs.Sublist rt.tabs := List.eraseP_sublist
  rw [eraseTab_erased]
  split
  · exact (shutdown_sublist _).trans herased
  · exact herased

theorem closeTab_sublist (targetId : Option String) (rt : GuiRuntime) :
    (rt.closeTab targetId).1.tabs.Sublist rt.tabs := by
  simp only [closeTab]
  split
  · exact .refl _
  · split
    · exact .refl _
    · exact eraseTab_sublist _ _

theorem closeTab_nextTabId (targetId : Option String) (rt : GuiRuntime) :
    (rt.closeTab targetId).1.nextTabId = rt.nextTabId := by
  have hshutdown (rt : GuiRuntime) : rt.shutdown.nextTabId = rt.nextTabId := by
    unfold shutdown
    split <;> rfl
  simp only [closeTab]
  split
  · rfl
  · split
    · rfl
    · rw [eraseTab_erased]
      split
      · exact hshutdown _
      · rfl

end GuiRuntime

/-- Windows are closed, pages change, and the runtime shuts down; nothing but `CreateTab` moves the
counter. -/
instance : TabIds GuiRuntime where
  idOf := GuiRuntime.idOf
  idOf_injective := GuiRuntime.idOf_injective
  entries rt := rt.tabs.map fun tab => (tab.targetId, tab.webContents)
  listTabs_entries rt := by
    simp only [BrowserRuntime.listTabs, GuiRuntime.listTabs, List.map_map]
    rfl
  allWebContents_entries rt := by
    simp only [BrowserRuntime.allWebContents, GuiRuntime.allWebContents, List.map_map]
    rfl
  getWebContents_entries rt n := by
    simp only [BrowserRuntime.getWebContentsByTargetId, GuiRuntime.getWebContentsByTargetId,
      GuiRuntime.findTab, List.find?_map, Option.map_map]
    rfl
  birth build url rt :=
    match build url with
    | some (webContents, true) => some (rt.nextTabId.toNat, webContents)
    | _ => none
  Promised _ rt build url :=
    ∀ webContents, build url = some (webContents, true) → webContents.address ∉ rt.addresses
  createTab_none := by
    intro build url rt hbirth
    simp only [BrowserRuntime.createTab]
    rcases rt.createTab_cases build url with ⟨-, heq⟩ | ⟨_, -, heq⟩ | ⟨_, hbuild, -⟩
    · simp [heq]
    · simp [heq]
    · simp [hbuild] at hbirth
  createTab_some := by
    intro _ build url rt n page hpromised hbirth
    simp only [BrowserRuntime.createTab]
    rcases rt.createTab_cases build url with
      ⟨hbuild, -⟩ | ⟨_, hbuild, -⟩ | ⟨webContents, hbuild, heq⟩
    · simp [hbuild] at hbirth
    · simp [hbuild] at hbirth
    · simp only [hbuild, Option.some.injEq, Prod.mk.injEq] at hbirth
      obtain ⟨rfl, rfl⟩ := hbirth
      have hfresh := hpromised webContents hbuild
      rw [heq]
      refine ⟨rfl, ?_, ?_⟩
      · rw [List.map_append]
        exact .refl _
      · simpa [GuiRuntime.addresses] using hfresh
  closeTab_sublist targetId rt := (GuiRuntime.closeTab_sublist targetId rt).map _
  Outside rt rt' :=
    rt'.nextTabId = rt.nextTabId ∧
      (rt'.tabs.map fun tab => (tab.targetId, tab.webContents.address)).Subperm
        (rt.tabs.map fun tab => (tab.targetId, tab.webContents.address))
  outside_subperm := by
    intro rt rt' houtside
    rw [List.map_map, List.map_map]
    exact houtside.2
  OpensOutside _ _ _ _ _ := False
  opensOutside_perm := by
    intro _ _ _ _ _ hopens
    exact hopens.elim

/-- Every tab has a valid session id, which no other tab has had. The user opens, closes and moves
tabs and windows. -/
instance : TabIds NativeChromeRuntime where
  idOf := NativeChromeRuntime.idOf
  idOf_injective := NativeChromeRuntime.idOf_injective
  entries rt := rt.tabs.map fun tab => (NativeChromeRuntime.makeTargetId tab, tab.webContents)
  listTabs_entries rt := by
    simp only [BrowserRuntime.listTabs, NativeChromeRuntime.listTabs, List.map_map]
    rfl
  allWebContents_entries rt := by
    simp only [BrowserRuntime.allWebContents, NativeChromeRuntime.allWebContents, List.map_map]
    rfl
  getWebContents_entries rt n := by
    simp only [BrowserRuntime.getWebContentsByTargetId,
      NativeChromeRuntime.getWebContentsByTargetId_idOf, List.find?_map, Option.map_map]
    rfl
  birth builder url rt := (NativeChromeRuntime.newTab builder url rt).map fun tab =>
    (NativeChromeRuntime.sessionNumber tab, tab.webContents)
  Promised numbers rt builder url :=
    ∀ tab, builder.addTab url = some tab →
      NativeChromeRuntime.isValidSessionId tab.sessionId ∧
        NativeChromeRuntime.sessionNumber tab ∉ numbers ∧
        tab.webContents.address ∉ rt.tabs.map fun tab => tab.webContents.address
  createTab_none := by
    intro builder url rt hbirth
    have hnew : NativeChromeRuntime.newTab builder url rt = none := by simpa using hbirth
    obtain ⟨hnone, htabs⟩ := NativeChromeRuntime.createTab_none hnew
    exact ⟨hnone, congrArg (List.map _) htabs⟩
  createTab_some := by
    intro numbers builder url rt n page hpromised hbirth
    obtain ⟨tab, hnew, heq⟩ := Option.map_eq_some_iff.mp hbirth
    obtain ⟨rfl, rfl⟩ := Prod.mk.inj heq
    obtain ⟨hinfo, hperm⟩ := NativeChromeRuntime.createTab_some hnew
    obtain ⟨hvalid, -, hfresh⟩ := hpromised tab (NativeChromeRuntime.newTab_eq hnew)
    have hid := NativeChromeRuntime.makeTargetId_valid hvalid
    refine ⟨?_, ?_, by simpa using hfresh⟩
    · simp only [BrowserRuntime.createTab, hinfo, Option.map_some, ← hid]
      rfl
    · have hmap := hperm.map fun tab =>
        (NativeChromeRuntime.makeTargetId tab, tab.webContents)
      rw [List.map_append, List.map_singleton, hid] at hmap
      exact hmap
  closeTab_sublist targetId rt := (NativeChromeRuntime.closeTab_sublist targetId rt).map _
  Outside rt rt' :=
    (rt'.tabs.map fun tab => (tab.sessionId, tab.webContents.address)).Subperm
      (rt.tabs.map fun tab => (tab.sessionId, tab.webContents.address))
  outside_subperm := by
    intro rt rt' houtside
    exact subperm_identity (f := NativeChromeRuntime.sessionTargetId) houtside fun _ => rfl
  OpensOutside numbers rt rt' n page :=
    0 < n ∧ n < 2147483648 ∧ n ∉ numbers ∧
      (rt'.tabs.map fun tab => (tab.sessionId, tab.webContents.address)).Perm
          (rt.tabs.map (fun tab => (tab.sessionId, tab.webContents.address)) ++
            [(.ofInt n, page.address)]) ∧
        page.address ∉ rt.tabs.map fun tab => tab.webContents.address
  opensOutside_perm := by
    intro _ rt rt' n page hopens
    obtain ⟨hpos, hlt, -, hperm, hfresh⟩ := hopens
    have hmap := perm_identity (f := NativeChromeRuntime.sessionTargetId)
      (e := fun tab => (NativeChromeRuntime.makeTargetId tab, tab.webContents)) hperm fun _ => rfl
    rw [NativeChromeRuntime.sessionTargetId_ofInt ⟨hlt, hpos⟩] at hmap
    exact ⟨hmap, by simpa using hfresh⟩

/-- No window is open yet. -/
def NativeChromeRuntime.new (nextActive : BrowserWindow → Nat → Option Nat) :
    NativeChromeRuntime where
  windows := []
  lastActive := none
  nextActive := nextActive

/-- Session ids are never used again, so every step makes its tab from a new number. -/
theorem NativeChromeRuntime.newNumber {t t' : Tracked NativeChromeRuntime}
    {event : TargetEvent NativeChromeRuntime} (hstep : t.Tr event t') : t.NewNumber event := by
  cases event with
  | createTab builder url =>
      intro n page hbirth
      obtain ⟨tab, hnew, heq⟩ := Option.map_eq_some_iff.mp hbirth
      obtain ⟨rfl, rfl⟩ := Prod.mk.inj heq
      exact (hstep.1 tab (newTab_eq hnew)).2.1
  | opened rt n page => exact hstep.1.2.2.1
  | closeTab targetId => trivial
  | changed rt => trivial

namespace GuiRuntime

/-- The `CreateTab` calls among the events. -/
def creations (events : List (TargetEvent GuiRuntime)) : Nat :=
  events.countP fun event => match event with
    | .createTab .. => true
    | _ => false

/-- The counter has been drawn from `drawn` times, and every tab was made from a number drawn. -/
structure Counted (drawn : Nat) (t : Tracked GuiRuntime) : Prop where
  counter : t.runtime.nextTabId = .ofNat (drawn + 1)
  numbers : ∀ n ∈ t.numbers, n ≤ drawn

theorem start_counted (options : RuntimeOptions) (quitCallback : Bool) :
    Counted 0 (.start (.new options quitCallback)) where
  counter := rfl
  numbers := by simp [Tracked.start]

section Counter

variable {t t' : Tracked GuiRuntime} {drawn : Nat}

theorem Counted.nextTabId_eq (h : Counted drawn t) (hdrawn : drawn + 1 < 2 ^ 64) :
    t.runtime.nextTabId.toNat = drawn + 1 := by
  rw [h.counter, UInt64.toNat_ofNat']
  exact Nat.mod_eq_of_lt hdrawn

/-- The next number is not one of those drawn before. -/
theorem Counted.newNumber (h : Counted drawn t) {event : TargetEvent GuiRuntime}
    (hcount : drawn + creations [event] < 2 ^ 64) (hstep : t.Tr event t') : t.NewNumber event := by
  cases event with
  | createTab build url =>
      intro n page hbirth hmem
      have hnumber : n = t.runtime.nextTabId.toNat := by
        simp only [TabIds.birth] at hbirth
        split at hbirth
        · exact (Prod.mk.inj (Option.some.inj hbirth)).1.symm
        · cases hbirth
      have hle := h.numbers n hmem
      rw [hnumber, h.nextTabId_eq hcount] at hle
      omega
  | closeTab targetId => trivial
  | changed rt => trivial
  | opened rt n page => exact hstep.1.elim

/-- Only `CreateTab` draws from the counter, and it draws at most once. -/
theorem Counted.step (h : Counted drawn t) {event : TargetEvent GuiRuntime}
    (hcount : drawn + creations [event] < 2 ^ 64) (hstep : t.Tr event t') :
    ∃ drawn', drawn' ≤ drawn + creations [event] ∧ Counted drawn' t' := by
  cases event with
  | createTab build url =>
      obtain ⟨-, rfl⟩ := hstep
      have hcounter : t.runtime.nextTabId + 1 = .ofNat (drawn + 1 + 1) := by
        rw [h.counter, ← UInt64.ofNat_one, ← UInt64.ofNat_add]
      rcases t.runtime.createTab_cases build url with
        ⟨hbuild, heq⟩ | ⟨_, hbuild, heq⟩ | ⟨webContents, hbuild, heq⟩
      · refine ⟨drawn, Nat.le_add_right .., ?_⟩
        simpa [TabIds.birth, BrowserRuntime.createTab, hbuild, heq] using h
      · refine ⟨drawn + 1, by simp [creations], ?_⟩
        simp only [TabIds.birth, BrowserRuntime.createTab, hbuild, heq]
        exact ⟨hcounter, fun n hn => (h.numbers n hn).trans (Nat.le_succ _)⟩
      · refine ⟨drawn + 1, by simp [creations], ?_⟩
        simp only [TabIds.birth, BrowserRuntime.createTab, hbuild, heq, Tracked.add]
        refine ⟨hcounter, ?_⟩
        intro n hn
        rcases List.mem_append.mp hn with hold | hnew
        · exact (h.numbers n hold).trans (Nat.le_succ _)
        · rw [List.mem_singleton.mp hnew]
          exact (h.nextTabId_eq hcount).le
  | closeTab targetId =>
      obtain rfl := hstep
      exact ⟨drawn, Nat.le_add_right .., (closeTab_nextTabId targetId _).trans h.counter,
        h.numbers⟩
  | changed rt =>
      obtain ⟨houtside, rfl⟩ := hstep
      exact ⟨drawn, Nat.le_add_right .., houtside.1.trans h.counter, h.numbers⟩
  | opened rt n page => exact hstep.1.elim

/-- Before the counter comes round every tab is made from a new number. -/
theorem Counted.run {events : List (TargetEvent GuiRuntime)} (h : Counted drawn t)
    (hcount : drawn + creations events < 2 ^ 64) (hrun : Exec Tracked.Tr t events t') :
    Exec (Guarded Tracked.Tr Tracked.NewNumber) t events t' := by
  induction hrun generalizing drawn with
  | nil => exact .nil _
  | @cons t next t' event events head tail ih =>
      have hcreations : creations (event :: events) = creations [event] + creations events := by
        rw [← List.singleton_append, creations, List.countP_append]
        rfl
      obtain ⟨drawn', hdrawn, hnext⟩ := h.step (by omega) head
      exact .cons ⟨head, h.newNumber (by omega) head⟩ (ih hnext (by omega))

end Counter

end GuiRuntime

theorem targetIds_integrity (options : RuntimeOptions) (quitCallback : Bool)
    (nextActive : BrowserWindow → Nat → Option Nat)
    (headlessEvents : List (TargetEvent HeadlessRuntime)) (headless : Tracked HeadlessRuntime)
    (guiEvents : List (TargetEvent GuiRuntime)) (gui : Tracked GuiRuntime)
    (chromeEvents : List (TargetEvent NativeChromeRuntime)) (chrome : Tracked NativeChromeRuntime)
    (hchrome : Exec Tracked.Tr (.start (.new nextActive)) chromeEvents chrome) :
    (Exec (Through Tracked.Tr Tracked.Integrity) (.start .new) headlessEvents headless ↔
        Exec (Guarded Tracked.Tr Tracked.NewNumber) (.start .new) headlessEvents headless) ∧
      (Exec (Through Tracked.Tr Tracked.Integrity) (.start (.new options quitCallback))
          guiEvents gui ↔
        Exec (Guarded Tracked.Tr Tracked.NewNumber) (.start (.new options quitCallback))
          guiEvents gui) ∧
      (Exec Tracked.Tr (.start (.new options quitCallback)) guiEvents gui →
        GuiRuntime.creations guiEvents < 2 ^ 64 →
          Exec (Through Tracked.Tr Tracked.Integrity) (.start (.new options quitCallback))
            guiEvents gui) ∧
      Exec (Through Tracked.Tr Tracked.Integrity) (.start (.new nextActive))
        chromeEvents chrome := by
  refine ⟨Tracked.exec_integrity rfl, Tracked.exec_integrity rfl, ?_,
    (Tracked.exec_integrity rfl).mpr (hchrome.mono ?_)⟩
  · intro hgui hcount
    refine (Tracked.exec_integrity rfl).mpr ?_
    exact (GuiRuntime.start_counted options quitCallback).run (by omega) hgui
  · intro t event t' hstep
    exact ⟨hstep, NativeChromeRuntime.newNumber hstep⟩

/-- Windows open for every tab, with a page at `address`. -/
def sampleWindow (address : Nat) : GuiBuilder := fun url =>
  some (⟨address, "", url, false, false, false⟩, true)

def sampleChrome : ChromeBuilder where
  profile := true
  openEmptyWindow := some 1
  addTab url := some ⟨⟨1, "", url, false, false, false⟩, 7, none, url, false⟩

theorem targetIds_integrity_sample :
    ∃ (gui : Tracked GuiRuntime) (chrome : Tracked NativeChromeRuntime),
      Exec (Through Tracked.Tr Tracked.Integrity) (.start (.new {} true))
        [.createTab (sampleWindow 1) .aboutBlank, .createTab (sampleWindow 2) .aboutBlank,
          .closeTab (some "gui-1"), .createTab (sampleWindow 1) .aboutBlank] gui ∧
      gui.issued = ["gui-1", "gui-2", "gui-3"] ∧
      Exec (Through Tracked.Tr Tracked.Integrity) (.start (.new fun _ _ => none))
        [.createTab sampleChrome .aboutBlank, .closeTab (some "chrome-7")] chrome ∧
      chrome.issued = ["chrome-7"] ∧ chrome.runtime.tabs = [] := by
  have hwindow {rt : GuiRuntime} {address : Nat} (hfresh : address ∉ rt.addresses) :
      ∀ webContents, sampleWindow address .aboutBlank = some (webContents, true) →
        webContents.address ∉ rt.addresses := by
    intro webContents hbuild
    obtain ⟨rfl, -⟩ := Prod.mk.inj (Option.some.inj hbuild)
    exact hfresh
  obtain ⟨gui, hgui, hissued⟩ : ∃ gui, Exec Tracked.Tr (.start (GuiRuntime.new {} true))
      [.createTab (sampleWindow 1) .aboutBlank, .createTab (sampleWindow 2) .aboutBlank,
        .closeTab (some "gui-1"), .createTab (sampleWindow 1) .aboutBlank] gui ∧
      gui.issued = ["gui-1", "gui-2", "gui-3"] := by
    refine ⟨_, .cons ⟨hwindow ?_, rfl⟩ (.cons ⟨hwindow ?_, rfl⟩ (.cons rfl
      (.cons ⟨hwindow ?_, rfl⟩ (.nil _)))), rfl⟩ <;> decide
  have hpromised : ∀ tab, sampleChrome.addTab .aboutBlank = some tab →
      NativeChromeRuntime.isValidSessionId tab.sessionId ∧
        NativeChromeRuntime.sessionNumber tab ∉ ([] : List Nat) ∧
        tab.webContents.address ∉ ([] : List Nat) := by
    intro tab htab
    obtain rfl := Option.some.inj htab
    decide
  have hchrome : Exec Tracked.Tr (.start (NativeChromeRuntime.new fun _ _ => none))
      [.createTab sampleChrome .aboutBlank, .closeTab (some "chrome-7")] _ :=
    .cons ⟨hpromised, rfl⟩ (.cons rfl (.nil _))
  obtain ⟨-, -, hcounted, hsession⟩ :=
    targetIds_integrity {} true (fun _ _ => none) [] (.start .new) _ gui _ _ hchrome
  exact ⟨gui, _, hcounted hgui (by decide), hissued, hsession, rfl, rfl⟩

section Reuse

/-- Contents at `address` with a page at `page`, enumerated after `before`. -/
def builtAt (before : List HeadlessWebContents) (address page : Nat) : HeadlessBuilder := fun url =>
  let contents : HeadlessWebContents := ⟨address, ⟨page, "", url, false, false, false⟩⟩
  some (contents, before ++ [contents])

def blankAt (address page : Nat) : HeadlessWebContents :=
  ⟨address, ⟨page, "", .aboutBlank, false, false, false⟩⟩

/-- A tab is closed and the next one gets the address of its contents. -/
def staleId : List (TargetEvent HeadlessRuntime) :=
  [.createTab (builtAt [] 256 1) .aboutBlank,
    .createTab (builtAt [blankAt 256 1] 512 2) .aboutBlank, .closeTab (some "0x100"),
    .createTab (builtAt [blankAt 512 2] 256 3) .aboutBlank]

private theorem builtAt_builds {rt : HeadlessRuntime} {address page : Nat} (url : GURL)
    {before : List HeadlessWebContents} (hrt : rt.isShutdown = false)
    (hbefore : rt.contents = before)
    (hfresh : page ∉ before.map fun contents => contents.webContents.address) :
    HeadlessRuntime.Builds (builtAt before address page) url rt := by
  refine ⟨hrt, ?_⟩
  intro newContents enumeration hbuild
  obtain ⟨rfl, rfl⟩ := Prod.mk.inj (Option.some.inj hbuild)
  rw [hbefore]
  exact ⟨.refl _, hfresh⟩

theorem staleId_resolves :
    ∃ t, Exec Tracked.Tr (.start HeadlessRuntime.new) staleId t ∧
      t.issued = ["0x100", "0x200", "0x100"] ∧
      (t.runtime.getWebContentsByTargetId "0x100").map WebContents.address = some 3 ∧
      t.tabAt 3 = 2 ∧ ¬ t.Integrity := by
  refine ⟨_, .cons ⟨builtAt_builds _ rfl rfl (by decide), rfl⟩
    (.cons ⟨builtAt_builds _ rfl rfl (by decide), rfl⟩ (.cons rfl
      (.cons ⟨builtAt_builds _ rfl rfl (by decide), rfl⟩ (.nil _)))), rfl, rfl, rfl, ?_⟩
  intro hintegrity
  have hplace := (hintegrity.stable 0 "0x100" _ rfl rfl).2
  exact absurd hplace (by decide)

end Reuse

end Browserd
