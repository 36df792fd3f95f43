import Browserd.Lib.Exec
import Browserd.Runtime.HeadlessStrip

/-!
# The headless runtime and its destroyed objects

`HeadlessRuntime` keeps raw pointers to its browser context and to the active page. Its operations
are taken with the pointers they follow, as the host and the controller call them, while pages
close themselves and the browser shuts down.
-/

namespace Browserd

open Transition

/-- What a raw pointer of the runtime points to. -/
inductive Pointee where
  | browserContext
  | webContents (address : Nat)

inductive HeadlessCall where
  | createTab (build : HeadlessBuilder) (url : GURL)
  | closeTab (targetId : Option String)
  | getWebContentsByTargetId (targetId : String)
  | allWebContents
  | listTabs
  | resizeActive
  | shutdown

namespace HeadlessRuntime

def alive (rt : HeadlessRuntime) : Pointee → Bool
  | .browserContext => !rt.isShutdown
  | .webContents address => decide (address ∈ rt.addresses)

/-- The state after a call; the lookups and `ResizeActive` leave the runtime as it is. -/
def call (rt : HeadlessRuntime) : HeadlessCall → HeadlessRuntime
  | .createTab build url => (rt.createTab build url).1
  | .closeTab targetId => (rt.closeTab targetId).1
  | .shutdown => rt.shutdown
  | _ => rt

/-- The pointers that a call follows. `CloseTab` finds its target through the context or through
the active page, and then scans the context for the next active tab. -/
def uses (rt : HeadlessRuntime) : HeadlessCall → List Pointee
  | .createTab .. => [.browserContext]
  | .closeTab targetId =>
      (match targetId with
        | some _ => [.browserContext]
        | none => (rt.activeWebContents.map Pointee.webContents).toList) ++
      (match rt.closeTarget targetId with
        | some _ => [.browserContext]
        | none => [])
  | .getWebContentsByTargetId _ => [.browserContext]
  | .allWebContents => [.browserContext]
  | .listTabs => [.browserContext]
  | .resizeActive => (rt.activeWebContents.map Pointee.webContents).toList
  | .shutdown => []

/-- A page closes its own contents. -/
def pageCloses (address : Nat) (rt : HeadlessRuntime) : HeadlessRuntime :=
  { rt with contents := rt.contents.filter fun contents => contents.webContents.address != address }

end HeadlessRuntime

inductive LifeEvent where
  | call (c : HeadlessCall)
  | controllerCreateTab (build : HeadlessBuilder) (url : GURL)
  | controllerCloseTab (targetId : Option String)
  | pageCloses (address : Nat)

/-- A runtime, and whether it has followed a pointer to a destroyed object. -/
structure HeadlessLife where
  runtime : HeadlessRuntime
  deadUse : Bool

namespace HeadlessLife

def start : HeadlessLife where
  runtime := .new
  deadUse := false

def call (s : HeadlessLife) (c : HeadlessCall) : HeadlessLife where
  runtime := s.runtime.call c
  deadUse := s.deadUse || (s.runtime.uses c).any fun pointee => !s.runtime.alive pointee

/-- `BrowserController::RefreshSharedRuntimeBehavior` enumerates all tabs. -/
def refreshSharedRuntimeBehavior (s : HeadlessLife) : HeadlessLife := s.call .allWebContents

/-- `BrowserController::CreateTab`, up to the navigation of the new tab. -/
def controllerCreateTab (build : HeadlessBuilder) (url : GURL) (s : HeadlessLife) : HeadlessLife :=
  if !url.isValid then s
  else
    let tab := (s.runtime.createTab build url).2
    let s := (s.call (.createTab build url)).refreshSharedRuntimeBehavior
    match tab with
    | none => s
    | some tab =>
        if url.spec == "about:blank" then s else s.call (.getWebContentsByTargetId tab.targetId)

def controllerCloseTab (targetId : Option String) (s : HeadlessLife) : HeadlessLife :=
  let closed := (s.runtime.closeTab targetId).2
  let s := s.call (.closeTab targetId)
  if closed then s.refreshSharedRuntimeBehavior else s

def next (s : HeadlessLife) : LifeEvent → HeadlessLife
  | .call c => s.call c
  | .controllerCreateTab build url => s.controllerCreateTab build url
  | .controllerCloseTab targetId => s.controllerCloseTab targetId
  | .pageCloses address => { s with runtime := s.runtime.pageCloses address }

/-- New contents are made as Chromium makes them while the context lives. -/
def Promised (s : HeadlessLife) : LifeEvent → Prop
  | .call (.createTab build url) | .controllerCreateTab build url =>
      s.runtime.isShutdown = false → HeadlessRuntime.Builds build url s.runtime
  | _ => True

def Tr (s : HeadlessLife) (event : LifeEvent) (t : HeadlessLife) : Prop :=
  s.Promised event ∧ t = s.next event

/-- Nothing destroyed has been touched, and the active tab is none or one of the context's. -/
structure Sound (s : HeadlessLife) : Prop where
  deadUse : s.deadUse = false
  active : ∀ address, s.runtime.activeWebContents = some address → address ∈ s.runtime.addresses

/-- The context lives where an event goes through it, a page that closes itself is not the active
one, `Shutdown` finds no active tab, and the controller closes no last tab. -/
def KeepsAlive (s : HeadlessLife) : LifeEvent → Prop
  | .call .shutdown => s.runtime.activeWebContents = none
  | .call .resizeActive => True
  | .call (.closeTab none) => True
  | .call _ => s.runtime.isShutdown = false
  | .controllerCreateTab _ url => url.isValid → s.runtime.isShutdown = false
  | .controllerCloseTab targetId =>
      (targetId.isSome → s.runtime.isShutdown = false) ∧
        ∀ closing, s.runtime.closeTarget targetId = some closing →
          ∃ other ∈ s.runtime.contents, other.address ≠ closing.address
  | .pageCloses address => s.runtime.activeWebContents ≠ some address

end HeadlessLife

namespace HeadlessRuntime

variable {rt : HeadlessRuntime}

/-- A destroyed context owns nothing. -/
def Owned (rt : HeadlessRuntime) : Prop := rt.isShutdown → rt.contents = []

/-- The active tab is none or one of the context's. -/
def ActiveLives (rt : HeadlessRuntime) : Prop :=
  ∀ address, rt.activeWebContents = some address → address ∈ rt.addresses

/-- A live active tab belongs to a live context. -/
theorem ActiveLives.notShutdown {address : Nat} (hactive : rt.ActiveLives) (howned : rt.Owned)
    (h : rt.activeWebContents = some address) : rt.isShutdown = false := by
  have hmem := hactive address h
  cases hdown : rt.isShutdown with
  | false => rfl
  | true => simp [addresses, howned hdown] at hmem

theorem createTab_lives {build : HeadlessBuilder} {url : GURL} (hactive : rt.ActiveLives)
    (hbuilds : Builds build url rt) :
    (rt.createTab build url).1.ActiveLives ∧ (rt.createTab build url).1.isShutdown = false := by
  obtain ⟨hdown, hbuild⟩ := hbuilds
  unfold createTab
  cases hbuilt : build url with
  | none => exact ⟨hactive, hdown⟩
  | some built =>
      obtain ⟨newContents, enumeration⟩ := built
      refine ⟨?_, hdown⟩
      intro address haddress
      obtain rfl := Option.some.inj haddress
      have hmem : newContents ∈ enumeration :=
        (hbuild newContents enumeration hbuilt).1.mem_iff.mpr (by simp)
      exact List.mem_map.mpr ⟨newContents, hmem, rfl⟩

/-- The fallback is one of the tabs that remain. -/
theorem fallback_lives (closing : HeadlessWebContents) :
    ((rt.chooseFallbackActiveTab closing).closeContents closing).ActiveLives := by
  intro address haddress
  simp only [chooseFallbackActiveTab, closeContents] at haddress
  obtain ⟨fallback, hfind, rfl⟩ := Option.map_eq_some_iff.mp haddress
  have hne := List.find?_some hfind
  exact List.mem_map.mpr ⟨fallback, List.mem_filter.mpr ⟨List.mem_of_find?_eq_some hfind, hne⟩, rfl⟩

theorem fallback_isNone (closing : HeadlessWebContents) :
    ((rt.chooseFallbackActiveTab closing).closeContents closing).activeWebContents.isNone ↔
      ¬ ∃ other ∈ rt.contents, other.address ≠ closing.address := by
  simp [chooseFallbackActiveTab, closeContents]

theorem closeTab_lives (targetId : Option String) (hactive : rt.ActiveLives) (howned : rt.Owned) :
    (rt.closeTab targetId).1.ActiveLives ∧ (rt.closeTab targetId).1.Owned := by
  unfold closeTab
  cases rt.closeTarget targetId with
  | none => exact ⟨hactive, howned⟩
  | some closing =>
      have hlives := rt.fallback_lives closing
      simp only
      split
      · rename_i hnone
        refine ⟨?_, fun _ => rfl⟩
        intro address haddress
        have hsome :
            ((rt.chooseFallbackActiveTab closing).closeContents closing).activeWebContents =
              some address := haddress
        simp [hsome] at hnone
      · refine ⟨hlives, ?_⟩
        intro hdown
        simp [closeContents, chooseFallbackActiveTab, howned hdown]

/-- Closing a tab destroys the context when no other tab is left. -/
theorem closeTab_isShutdown {targetId : Option String} {closing : HeadlessWebContents}
    (htarget : rt.closeTarget targetId = some closing) (hdown : rt.isShutdown = false) :
    (rt.closeTab targetId).1.isShutdown = false ↔
      ∃ other ∈ rt.contents, other.address ≠ closing.address := by
  simp only [closeTab, htarget]
  split
  · rename_i hnone
    have hlast := (rt.fallback_isNone closing).mp hnone
    simpa [shutdown] using hlast
  · rename_i hsome
    have hother := not_not.mp (mt (rt.fallback_isNone closing).mpr hsome)
    exact iff_of_true hdown hother

/-- A destroyed context has no tab to close. -/
theorem closeTarget_notShutdown {targetId : Option String} {closing : HeadlessWebContents}
    (howned : rt.Owned) (htarget : rt.closeTarget targetId = some closing) :
    rt.isShutdown = false := by
  have hmem := closeTarget_mem htarget
  cases hdown : rt.isShutdown with
  | false => rfl
  | true => simp [howned hdown] at hmem

/-- Every pointer that `CloseTab` follows is alive while the context is, or there is no tab to
find. -/
theorem closeTab_uses (targetId : Option String) (hactive : rt.ActiveLives) (howned : rt.Owned) :
    (∀ pointee ∈ rt.uses (.closeTab targetId), rt.alive pointee) ↔
      (targetId.isSome → rt.isShutdown = false) := by
  cases targetId with
  | some id =>
      constructor
      · intro h _
        have hcontext := h .browserContext (by simp [uses])
        simpa [alive] using hcontext
      · intro hdown pointee hpointee
        simp only [uses, List.singleton_append, List.mem_cons] at hpointee
        have hpointee : pointee = .browserContext := by
          rcases hpointee with hpointee | hpointee
          · exact hpointee
          · split at hpointee
            · simpa using hpointee
            · simp at hpointee
        simp [hpointee, alive, hdown rfl]
  | none =>
      refine iff_of_true ?_ (by simp)
      intro pointee hpointee
      cases haddress : rt.activeWebContents with
      | none => simp [uses, haddress, closeTarget, activeHeadlessWebContents] at hpointee
      | some address =>
          have hdown := hactive.notShutdown howned haddress
          simp only [uses, haddress, Option.map_some, Option.toList_some, List.singleton_append,
            List.mem_cons] at hpointee
          rcases hpointee with rfl | hpointee
          · simpa [alive] using hactive address haddress
          · split at hpointee
            · obtain rfl : pointee = .browserContext := by simpa using hpointee
              simp [alive, hdown]
            · simp at hpointee

end HeadlessRuntime

namespace HeadlessLife

variable {s t : HeadlessLife}

/-- What the steps keep. -/
structure Inv (s : HeadlessLife) : Prop extends s.Sound where
  owned : s.runtime.Owned

theorem call_deadUse (h : s.Sound) (c : HeadlessCall) :
    (s.call c).deadUse = false ↔ ∀ pointee ∈ s.runtime.uses c, s.runtime.alive pointee := by
  simp [call, h.deadUse]

/-- A lookup is sound while the context lives. -/
private theorem lookup_spec {c : HeadlessCall} (h : s.Inv)
    (huses : s.runtime.uses c = [.browserContext]) (hcall : s.runtime.call c = s.runtime) :
    ((s.call c).Sound ↔ s.runtime.isShutdown = false) ∧
      (s.runtime.isShutdown = false → (s.call c).Inv) := by
  have hdead := call_deadUse h.toSound c
  simp only [huses, List.mem_singleton, forall_eq, HeadlessRuntime.alive,
    Bool.not_eq_true'] at hdead
  have hactive : (s.call c).runtime = s.runtime := hcall
  constructor
  · constructor
    · intro hsound
      exact hdead.mp hsound.deadUse
    · intro hdown
      exact ⟨hdead.mpr hdown, by rw [hactive]; exact h.active⟩
  · intro hdown
    exact ⟨⟨hdead.mpr hdown, by rw [hactive]; exact h.active⟩, by rw [hactive]; exact h.owned⟩

theorem createTab_spec {build : HeadlessBuilder} {url : GURL} (h : s.Inv)
    (hbuilds : s.runtime.isShutdown = false → HeadlessRuntime.Builds build url s.runtime) :
    ((s.call (.createTab build url)).Sound ↔ s.runtime.isShutdown = false) ∧
      (s.runtime.isShutdown = false →
        (s.call (.createTab build url)).Inv ∧
          (s.call (.createTab build url)).runtime.isShutdown = false) := by
  have hdead := call_deadUse h.toSound (.createTab build url)
  simp only [HeadlessRuntime.uses, List.mem_singleton, forall_eq, HeadlessRuntime.alive,
    Bool.not_eq_true'] at hdead
  have hmade (hdown : s.runtime.isShutdown = false) :
      (s.call (.createTab build url)).Inv ∧
        (s.call (.createTab build url)).runtime.isShutdown = false := by
    obtain ⟨hactive, hdown'⟩ := HeadlessRuntime.createTab_lives h.active (hbuilds hdown)
    refine ⟨⟨⟨hdead.mpr hdown, hactive⟩, ?_⟩, hdown'⟩
    intro hshutdown
    exact absurd (hdown'.symm.trans hshutdown) Bool.false_ne_true
  refine ⟨⟨fun hsound => hdead.mp hsound.deadUse, fun hdown => (hmade hdown).1.toSound⟩, hmade⟩

theorem closeTab_spec (targetId : Option String) (h : s.Inv) :
    ((s.call (.closeTab targetId)).Sound ↔
        (targetId.isSome → s.runtime.isShutdown = false)) ∧
      ((targetId.isSome → s.runtime.isShutdown = false) →
        (s.call (.closeTab targetId)).Inv) := by
  have hdead := call_deadUse h.toSound (.closeTab targetId)
  rw [HeadlessRuntime.closeTab_uses targetId h.active h.owned] at hdead
  obtain ⟨hactive, howned⟩ := HeadlessRuntime.closeTab_lives targetId h.active h.owned
  constructor
  · exact ⟨fun hsound => hdead.mp hsound.deadUse, fun hdown => ⟨hdead.mpr hdown, hactive⟩⟩
  · intro hdown
    exact ⟨⟨hdead.mpr hdown, hactive⟩, howned⟩

theorem call_spec (c : HeadlessCall) (h : s.Inv) (hpromised : s.Promised (.call c)) :
    ((s.call c).Sound ↔ s.KeepsAlive (.call c)) ∧ (s.KeepsAlive (.call c) → (s.call c).Inv) := by
  cases c with
  | createTab build url =>
      have hspec := createTab_spec h hpromised
      exact ⟨hspec.1, fun hdown => (hspec.2 hdown).1⟩
  | closeTab targetId =>
      have hspec := closeTab_spec targetId h
      cases targetId with
      | none => simpa [KeepsAlive] using hspec
      | some id => simpa [KeepsAlive] using hspec
  | getWebContentsByTargetId targetId => exact lookup_spec h rfl rfl
  | allWebContents => exact lookup_spec h rfl rfl
  | listTabs => exact lookup_spec h rfl rfl
  | resizeActive =>
      have hinv : (s.call .resizeActive).Inv := by
        refine ⟨⟨(call_deadUse h.toSound _).mpr ?_, h.active⟩, h.owned⟩
        intro pointee hpointee
        obtain ⟨address, haddress, rfl⟩ :=
          Option.map_eq_some_iff.mp (Option.mem_toList.mp hpointee)
        simpa [HeadlessRuntime.alive] using h.active address haddress
      exact ⟨iff_of_true hinv.toSound trivial, fun _ => hinv⟩
  | shutdown =>
      have hdead : (s.call .shutdown).deadUse = false := by
        rw [call_deadUse h.toSound]
        simp [HeadlessRuntime.uses]
      have hinv (hnone : s.runtime.activeWebContents = none) : (s.call .shutdown).Inv := by
        refine ⟨⟨hdead, ?_⟩, fun _ => rfl⟩
        intro address haddress
        exact absurd (hnone.symm.trans haddress) (by simp)
      refine ⟨⟨?_, fun hnone => (hinv hnone).toSound⟩, hinv⟩
      intro hsound
      by_contra hsome
      obtain ⟨address, haddress⟩ := Option.ne_none_iff_exists'.mp hsome
      have hmem := hsound.active address haddress
      simp [call, HeadlessRuntime.call, HeadlessRuntime.shutdown, HeadlessRuntime.addresses] at hmem

/-- A dead use is never forgotten. -/
theorem deadUse_of_call {c : HeadlessCall} (h : (s.call c).deadUse = false) :
    s.deadUse = false := by
  simp only [call, Bool.or_eq_false_iff] at h
  exact h.1

theorem controllerCreateTab_deadUse {build : HeadlessBuilder} {url : GURL} (hvalid : url.isValid)
    (h : (s.controllerCreateTab build url).deadUse = false) :
    (s.call (.createTab build url)).deadUse = false := by
  simp only [controllerCreateTab, hvalid, Bool.not_true, Bool.false_eq_true, if_false] at h
  split at h
  · exact deadUse_of_call h
  · split at h
    · exact deadUse_of_call h
    · exact deadUse_of_call (deadUse_of_call h)

theorem controllerCreateTab_inv {build : HeadlessBuilder} {url : GURL} (hvalid : url.isValid)
    (hmade : (s.call (.createTab build url)).Inv)
    (hdown : (s.call (.createTab build url)).runtime.isShutdown = false) :
    (s.controllerCreateTab build url).Inv := by
  simp only [controllerCreateTab, hvalid, Bool.not_true, Bool.false_eq_true, if_false]
  have hrefreshed : (s.call (.createTab build url)).refreshSharedRuntimeBehavior.Inv :=
    (lookup_spec hmade rfl rfl).2 hdown
  split
  · exact hrefreshed
  · split
    · exact hrefreshed
    · exact (lookup_spec hrefreshed rfl rfl).2 hdown

theorem controllerCreateTab_spec {build : HeadlessBuilder} {url : GURL} (h : s.Inv)
    (hbuilds : s.runtime.isShutdown = false → HeadlessRuntime.Builds build url s.runtime) :
    ((s.controllerCreateTab build url).Sound ↔ (url.isValid → s.runtime.isShutdown = false)) ∧
      ((url.isValid → s.runtime.isShutdown = false) → (s.controllerCreateTab build url).Inv) := by
  by_cases hvalid : url.isValid
  · obtain ⟨hsound, hmade⟩ := createTab_spec h hbuilds
    have hinv (hdown : s.runtime.isShutdown = false) : (s.controllerCreateTab build url).Inv :=
      controllerCreateTab_inv hvalid (hmade hdown).1 (hmade hdown).2
    refine ⟨⟨?_, fun hdown => (hinv (hdown hvalid)).toSound⟩, fun hdown => hinv (hdown hvalid)⟩
    intro hfinal _
    -- Had the context been destroyed, the builder itself would have gone through it.
    by_contra hdown
    have hdead := (call_deadUse h.toSound (.createTab build url)).mp
      (controllerCreateTab_deadUse hvalid hfinal.deadUse) .browserContext (by
        simp [HeadlessRuntime.uses])
    simp [HeadlessRuntime.alive, hdown] at hdead
  · have hsame : s.controllerCreateTab build url = s := by simp [controllerCreateTab, hvalid]
    rw [hsame]
    exact ⟨iff_of_true h.toSound fun hurl => absurd hurl hvalid, fun _ => h⟩

/-- `CloseTab` reports success when it finds a tab. -/
theorem closeTab_found (rt : HeadlessRuntime) (targetId : Option String) :
    (rt.closeTab targetId).2 = (rt.closeTarget targetId).isSome := by
  unfold HeadlessRuntime.closeTab
  cases rt.closeTarget targetId <;> rfl

theorem controllerCloseTab_spec (targetId : Option String) (h : s.Inv) :
    ((s.controllerCloseTab targetId).Sound ↔ s.KeepsAlive (.controllerCloseTab targetId)) ∧
      (s.KeepsAlive (.controllerCloseTab targetId) → (s.controllerCloseTab targetId).Inv) := by
  obtain ⟨hsound, hclosed⟩ := closeTab_spec targetId h
  simp only [controllerCloseTab, closeTab_found]
  cases htarget : s.runtime.closeTarget targetId with
  | none =>
      simp only [Option.isSome_none, Bool.false_eq_true, if_false, KeepsAlive, htarget,
        reduceCtorEq, false_imp_iff, implies_true, and_true]
      exact ⟨hsound, hclosed⟩
  | some closing =>
      simp only [Option.isSome_some, if_true, KeepsAlive, htarget, Option.some.injEq,
        forall_eq']
      have hother (hdown : s.runtime.isShutdown = false) :=
        HeadlessRuntime.closeTab_isShutdown htarget hdown
      have hdown : s.runtime.isShutdown = false :=
        HeadlessRuntime.closeTarget_notShutdown h.owned htarget
      have hinv := hclosed fun _ => hdown
      have hrefresh := lookup_spec (c := .allWebContents) hinv rfl rfl
      rw [refreshSharedRuntimeBehavior, hrefresh.1]
      constructor
      · constructor
        · intro hlast
          exact ⟨fun _ => hdown, (hother hdown).mp hlast⟩
        · intro hkeeps
          exact (hother hdown).mpr hkeeps.2
      · intro hkeeps
        exact hrefresh.2 ((hother hdown).mpr hkeeps.2)

theorem pageCloses_spec (address : Nat) (h : s.Inv) :
    let t := { s with runtime := s.runtime.pageCloses address }
    (t.Sound ↔ s.runtime.activeWebContents ≠ some address) ∧
      (s.runtime.activeWebContents ≠ some address → t.Inv) := by
  intro t
  have haddresses : t.runtime.addresses = s.runtime.addresses.filter (· != address) := by
    simp only [t, HeadlessRuntime.addresses, HeadlessRuntime.pageCloses, List.filter_map]
    rfl
  have hinv (hactive : s.runtime.activeWebContents ≠ some address) : t.Inv := by
    refine ⟨⟨h.deadUse, ?_⟩, ?_⟩
    · intro other hother
      have hne : other ≠ address := by
        rintro rfl
        exact hactive hother
      rw [haddresses]
      simpa [hne] using h.active other hother
    · intro hdown
      simp [t, HeadlessRuntime.pageCloses, h.owned hdown]
  refine ⟨⟨?_, fun hactive => (hinv hactive).toSound⟩, hinv⟩
  intro hsound hactive
  have hmem := hsound.active address hactive
  rw [haddresses] at hmem
  simp at hmem

theorem Tr.spec {event : LifeEvent} (h : s.Inv) (hstep : s.Tr event t) :
    (t.Sound ↔ s.KeepsAlive event) ∧ (s.KeepsAlive event → t.Inv) := by
  obtain ⟨hpromised, rfl⟩ := hstep
  cases event with
  | call c => exact call_spec c h hpromised
  | controllerCreateTab build url => exact controllerCreateTab_spec h hpromised
  | controllerCloseTab targetId => exact controllerCloseTab_spec targetId h
  | pageCloses address => exact pageCloses_spec address h

theorem start_inv : start.Inv where
  deadUse := rfl
  active := by simp [start, HeadlessRuntime.new]
  owned := fun _ => rfl

theorem sound_iff (events : List LifeEvent) (last : HeadlessLife) :
    Exec (Through Tr Sound) start events last ↔ Exec (Guarded Tr KeepsAlive) start events last :=
  Exec.through_iff_guarded (fun _ _ _ hs hstep => Tr.spec hs hstep) start_inv

def lastTab : HeadlessBuilder := fun url =>
  let contents : HeadlessWebContents := ⟨256, ⟨1, "", url, false, false, false⟩⟩
  some (contents, [contents])

/-- Closing the only tab shuts the browser down, and the refresh enumerates its context. -/
theorem closesLastTab :
    ∃ last, Exec Tr start
        [.call (.createTab lastTab .aboutBlank), .controllerCloseTab none] last ∧
      last.runtime.isShutdown ∧ last.deadUse ∧ ¬ last.Sound := by
  have hbuilds : HeadlessRuntime.Builds lastTab .aboutBlank .new := by
    refine ⟨rfl, ?_⟩
    intro newContents enumeration hbuild
    obtain ⟨rfl, rfl⟩ := Prod.mk.inj (Option.some.inj hbuild)
    exact ⟨.refl _, by decide⟩
  refine ⟨_, .cons ⟨fun _ => hbuilds, rfl⟩ (.cons ⟨trivial, rfl⟩ (.nil _)), rfl, rfl, ?_⟩
  intro hsound
  exact absurd hsound.deadUse (by decide)

end HeadlessLife

end Browserd
