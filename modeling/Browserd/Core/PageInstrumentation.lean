import Browserd.Core.NavigationCompleteness
import Browserd.Lib.Exec
import Browserd.Lib.Registry
import Browserd.Runtime.NativeChromeRuntime

/-!
# Instrumentation of the tabs

The observers that `RefreshSharedRuntimeBehavior` puts on the pages of the runtime. It keeps those
of pages that are still there and adds the missing ones, so no page has two.
-/

namespace Browserd

open Transition (Exec Step)

/-- An observer is an object of its own; its page is `none` once that is destroyed. Pages go by
their addresses. -/
structure PageInstrumentation where
  object : Nat
  webContents : Option Nat
  deriving DecidableEq

structure BehaviorSimulator where
  webContents : Option Nat
  deriving DecidableEq

def BehaviorSimulator.updateWebContents (webContents : Option Nat) (_ : BehaviorSimulator) :
    BehaviorSimulator :=
  ⟨webContents⟩

/-- The part of a controller that all its runtimes share; `nextObject` is the next observer. -/
structure SharedBehavior where
  instrumentation : List PageInstrumentation
  behaviorSimulator : Option BehaviorSimulator
  nextObject : Nat

namespace SharedBehavior

def addInstrumentation (s : SharedBehavior) (webContents : Nat) : SharedBehavior :=
  if s.instrumentation.any fun observer => observer.webContents == some webContents then s
  else
    { s with
      instrumentation := s.instrumentation ++ [⟨s.nextObject, some webContents⟩]
      nextObject := s.nextObject + 1 }

/-- The observers to erase are those whose page is gone. -/
def removeGone (all : List Nat) (s : SharedBehavior) : SharedBehavior :=
  { s with
    instrumentation := s.instrumentation.filter fun observer =>
      match observer.webContents with
      | none => false
      | some observed => all.contains observed }

def updateWebContents (webContents : Option Nat) (s : SharedBehavior) : SharedBehavior :=
  { s with
    behaviorSimulator := s.behaviorSimulator.map (BehaviorSimulator.updateWebContents webContents) }

/-- `WebContentsDestroyed` of all the observers of a page. -/
def webContentsDestroyed (webContents : Nat) (s : SharedBehavior) : SharedBehavior where
  instrumentation := s.instrumentation.map fun observer =>
    if observer.webContents = some webContents then ⟨observer.object, none⟩ else observer
  behaviorSimulator := s.behaviorSimulator.map fun simulator =>
    if simulator.webContents = some webContents then ⟨none⟩ else simulator
  nextObject := s.nextObject

end SharedBehavior

section Runtime

variable {ρ : Type} [BrowserRuntime ρ]

/-- The addresses of `AllWebContents`. -/
def allAddresses (rt : ρ) : List Nat :=
  (BrowserRuntime.allWebContents rt).map WebContents.address

def activeAddress (rt : ρ) : Option Nat :=
  (BrowserRuntime.activeWebContents rt).map WebContents.address

/-- A controller without a runtime observes nothing. -/
def refreshSharedRuntimeBehavior (runtime : Option ρ) (s : SharedBehavior) : SharedBehavior :=
  match runtime with
  | none => { s with instrumentation := [] }.updateWebContents none
  | some rt =>
      let s := s.removeGone (allAddresses rt)
      let s := (allAddresses rt).foldl SharedBehavior.addInstrumentation s
      s.updateWebContents (activeAddress rt)

end Runtime

namespace SharedBehavior

open Registry

/-- The pages that have an observer. -/
def observed (s : SharedBehavior) : List Nat :=
  s.instrumentation.filterMap PageInstrumentation.webContents

/-- No page has two observers, and the observers are different objects. -/
structure WellFormed (s : SharedBehavior) : Prop where
  observed : s.observed.Nodup
  objects : (s.instrumentation.map PageInstrumentation.object).Nodup
  made : ∀ observer ∈ s.instrumentation, observer.object < s.nextObject

/-- New observers of the pages, in their order. -/
def newInstrumentation (nextObject : Nat) (pages : List Nat) : List PageInstrumentation :=
  (pages.zipIdx nextObject).map fun page => ⟨page.2, some page.1⟩

def missing (all : List Nat) (s : SharedBehavior) : List Nat :=
  Registry.missing PageInstrumentation.webContents all s.instrumentation

variable {s : SharedBehavior} {all : List Nat}

theorem removeGone_instrumentation :
    (s.removeGone all).instrumentation =
      kept PageInstrumentation.webContents all s.instrumentation := by
  apply List.filter_congr
  intro observer _
  cases observer.webContents with
  | none => rfl
  | some page => simp

theorem newInstrumentation_cons (nextObject page : Nat) (pages : List Nat) :
    newInstrumentation nextObject (page :: pages) =
      ⟨nextObject, some page⟩ :: newInstrumentation (nextObject + 1) pages := by
  simp [newInstrumentation]

@[simp] theorem newInstrumentation_webContents (nextObject : Nat) (pages : List Nat) :
    (newInstrumentation nextObject pages).map PageInstrumentation.webContents =
      pages.map some := by
  induction pages generalizing nextObject with
  | nil => rfl
  | cons page pages ih => rw [newInstrumentation_cons, List.map_cons, ih, List.map_cons]

@[simp] theorem newInstrumentation_object (nextObject : Nat) (pages : List Nat) :
    (newInstrumentation nextObject pages).map PageInstrumentation.object =
      List.range' nextObject pages.length := by
  induction pages generalizing nextObject with
  | nil => rfl
  | cons page pages ih =>
      rw [newInstrumentation_cons, List.map_cons, ih, List.length_cons, List.range'_succ]

/-- The second scan adds an observer for each page that has none. -/
theorem foldl_addInstrumentation (hall : all.Nodup) :
    all.foldl addInstrumentation s =
      { s with
        instrumentation := s.instrumentation ++ newInstrumentation s.nextObject (s.missing all)
        nextObject := s.nextObject + (s.missing all).length } := by
  induction all generalizing s with
  | nil => simp [missing, Registry.missing, newInstrumentation]
  | cons page all ih =>
      obtain ⟨hpage, hall⟩ := List.nodup_cons.mp hall
      rw [List.foldl_cons, ih hall]
      by_cases hkey : hasKey PageInstrumentation.webContents s.instrumentation page = true
      · have hadd : s.addInstrumentation page = s := by
          rw [addInstrumentation]
          exact if_pos hkey
        have hmissing : s.missing (page :: all) = s.missing all := by
          simp [missing, Registry.missing, hkey]
        rw [hadd, hmissing]
      · have hadd : s.addInstrumentation page =
            { s with
              instrumentation := s.instrumentation ++ [⟨s.nextObject, some page⟩]
              nextObject := s.nextObject + 1 } := by
          rw [addInstrumentation]
          exact if_neg hkey
        have hrest : (s.addInstrumentation page).missing all = s.missing all := by
          rw [hadd]
          apply List.filter_congr
          intro other hother
          have hne : page ≠ other := by
            rintro rfl
            exact hpage hother
          rw [hasKey_append]
          simp [hasKey, hne]
        have hmissing : s.missing (page :: all) = page :: s.missing all := by
          simp [missing, Registry.missing, hkey]
        rw [hrest, hadd, hmissing, newInstrumentation_cons]
        simp only [List.append_assoc, List.singleton_append, List.length_cons]
        congr 1
        omega

theorem removeGone_missing : (s.removeGone all).missing all = s.missing all := by
  rw [missing, removeGone_instrumentation, missing_kept, missing]

theorem mem_newInstrumentation {observer : PageInstrumentation} {nextObject : Nat}
    {pages : List Nat} (h : observer ∈ newInstrumentation nextObject pages) :
    nextObject ≤ observer.object ∧ ∃ page ∈ pages, observer.webContents = some page := by
  constructor
  · have hobject := List.mem_map_of_mem (f := PageInstrumentation.object) h
    rw [newInstrumentation_object, List.mem_range'_1] at hobject
    exact hobject.1
  · have hpage := List.mem_map_of_mem (f := PageInstrumentation.webContents) h
    rw [newInstrumentation_webContents, List.mem_map] at hpage
    obtain ⟨page, hmem, heq⟩ := hpage
    exact ⟨page, hmem, heq.symm⟩

end SharedBehavior

section Refresh

open Registry SharedBehavior

variable {ρ : Type} [BrowserRuntime ρ] {rt : ρ} {s : SharedBehavior}

/-- What a refresh leaves, from what was there before. -/
theorem refresh_eq (hall : (allAddresses rt).Nodup) :
    refreshSharedRuntimeBehavior (some rt) s =
      ⟨kept PageInstrumentation.webContents (allAddresses rt) s.instrumentation ++
          newInstrumentation s.nextObject (s.missing (allAddresses rt)),
        s.behaviorSimulator.map (BehaviorSimulator.updateWebContents (activeAddress rt)),
        s.nextObject + (s.missing (allAddresses rt)).length⟩ := by
  simp only [refreshSharedRuntimeBehavior]
  rw [foldl_addInstrumentation hall, removeGone_missing, removeGone_instrumentation]
  rfl

/-- What a refresh of `s` for the pages of the runtime has to leave as `after`. -/
structure Refreshed (rt : ρ) (s after : SharedBehavior) : Prop where
  observed : (after.instrumentation.map PageInstrumentation.webContents).Perm
    ((allAddresses rt).map some)
  kept : ∀ observer ∈ s.instrumentation, ∀ page ∈ allAddresses rt,
    observer.webContents = some page → observer ∈ after.instrumentation
  added : ∀ observer ∈ after.instrumentation, observer ∈ s.instrumentation ∨
    (s.nextObject ≤ observer.object ∧
      ∃ page, observer.webContents = some page ∧ page ∉ s.observed)
  simulator : after.behaviorSimulator = s.behaviorSimulator.map fun _ => ⟨activeAddress rt⟩
  again : refreshSharedRuntimeBehavior (some rt) after = after
  wellFormed : after.WellFormed

theorem refresh_webContents (hs : s.WellFormed) (hall : (allAddresses rt).Nodup) :
    ((refreshSharedRuntimeBehavior (some rt) s).instrumentation.map
        PageInstrumentation.webContents).Perm ((allAddresses rt).map some) := by
  have hkey : ∀ observer ∈ kept PageInstrumentation.webContents (allAddresses rt) s.instrumentation,
      ∃ page, observer.webContents = some page := by
    intro observer hobserver
    obtain ⟨-, page, -, heq⟩ := mem_kept_iff.mp hobserver
    exact ⟨page, heq⟩
  rw [refresh_eq hall, List.map_append, map_key hkey, newInstrumentation_webContents,
    ← List.map_append]
  exact (keys_perm hs.observed hall).map some

theorem observed_eq_of_webContents {all : List Nat}
    (h : (s.instrumentation.map PageInstrumentation.webContents).Perm (all.map some)) :
    s.observed.Perm all := by
  have hfilter := h.filterMap id
  simpa [List.filterMap_map, SharedBehavior.observed] using hfilter

theorem refresh_wellFormed (hs : s.WellFormed) (hall : (allAddresses rt).Nodup) :
    (refreshSharedRuntimeBehavior (some rt) s).WellFormed where
  observed := (observed_eq_of_webContents (refresh_webContents hs hall)).nodup_iff.mpr hall
  objects := by
    rw [refresh_eq hall, List.map_append, newInstrumentation_object]
    have hsub : (kept PageInstrumentation.webContents (allAddresses rt) s.instrumentation).Sublist
        s.instrumentation := List.filter_sublist
    apply List.Nodup.append (hs.objects.sublist (hsub.map _)) List.nodup_range'
    intro object hold hnew
    obtain ⟨observer, hobserver, rfl⟩ := List.mem_map.mp hold
    have hmade := hs.made observer (hsub.subset hobserver)
    have hle := (List.mem_range'_1.mp hnew).1
    omega
  made := by
    rw [refresh_eq hall]
    intro observer hobserver
    rcases List.mem_append.mp hobserver with hold | hnew
    · have hmade := hs.made observer (mem_kept_iff.mp hold).1
      exact Nat.lt_add_right _ hmade
    · have hobject := List.mem_map_of_mem (f := PageInstrumentation.object) hnew
      rw [newInstrumentation_object, List.mem_range'_1] at hobject
      exact hobject.2

/-- A second refresh finds every page observed and no other. -/
theorem refresh_again (hs : s.WellFormed) (hall : (allAddresses rt).Nodup) :
    refreshSharedRuntimeBehavior (some rt) (refreshSharedRuntimeBehavior (some rt) s) =
      refreshSharedRuntimeBehavior (some rt) s := by
  have hperm := refresh_webContents hs hall
  have hsimulator : (refreshSharedRuntimeBehavior (some rt) s).behaviorSimulator.map
      (BehaviorSimulator.updateWebContents (activeAddress rt)) =
        (refreshSharedRuntimeBehavior (some rt) s).behaviorSimulator := by
    rw [refresh_eq hall]
    cases s.behaviorSimulator <;> rfl
  generalize refreshSharedRuntimeBehavior (some rt) s = after at hperm hsimulator ⊢
  have hkept : kept PageInstrumentation.webContents (allAddresses rt) after.instrumentation =
      after.instrumentation := by
    apply kept_eq_self
    intro observer hobserver
    obtain ⟨page, hpage, heq⟩ := List.mem_map.mp
      (hperm.subset (List.mem_map_of_mem (f := PageInstrumentation.webContents) hobserver))
    exact ⟨page, hpage, heq.symm⟩
  have hmissing : after.missing (allAddresses rt) = [] := by
    apply missing_eq_nil
    intro page hpage
    exact (observed_eq_of_webContents hperm).symm.subset hpage
  rw [refresh_eq hall, hkept, hmissing, hsimulator]
  simp [newInstrumentation]

theorem refresh_refreshed (hs : s.WellFormed) (hall : (allAddresses rt).Nodup) :
    Refreshed rt s (refreshSharedRuntimeBehavior (some rt) s) where
  observed := refresh_webContents hs hall
  kept := by
    intro observer hobserver page hpage heq
    rw [refresh_eq hall]
    exact List.mem_append_left _ (mem_kept_iff.mpr ⟨hobserver, page, hpage, heq⟩)
  added := by
    rw [refresh_eq hall]
    intro observer hobserver
    rcases List.mem_append.mp hobserver with hold | hnew
    · exact .inl (mem_kept_iff.mp hold).1
    · obtain ⟨hobject, page, hpage, heq⟩ := mem_newInstrumentation hnew
      exact .inr ⟨hobject, page, heq, (mem_missing_iff.mp hpage).2⟩
  simulator := by
    rw [refresh_eq hall]
    rfl
  again := refresh_again hs hall
  wellFormed := refresh_wellFormed hs hall

end Refresh

/-- What happens to the tabs and their pages; a runtime changes by the creation and the closing of
tabs, and a page is made before its tab and may outlive it. -/
inductive PageEvent (ρ : Type) where
  | created (webContents : Nat)
  | runtimeChanged (rt : ρ)
  | destroyed (webContents : Nat)
  | refreshed

/-- A controller, with the addresses of the pages that exist. -/
structure InstrumentedTabs (ρ : Type) where
  runtime : ρ
  existing : List Nat
  behavior : SharedBehavior

namespace InstrumentedTabs

open SharedBehavior

variable {ρ : Type} [BrowserRuntime ρ]

/-- The constructor of the controller, before its refresh. -/
def start (runtime : ρ) (existing : List Nat) : InstrumentedTabs ρ :=
  ⟨runtime, existing, ⟨[], some ⟨none⟩, 0⟩⟩

/-- The runtime has different pages, and they exist. -/
def Live (s : InstrumentedTabs ρ) : Prop :=
  (allAddresses s.runtime).Nodup ∧ ∀ page ∈ allAddresses s.runtime, page ∈ s.existing

instance (s : InstrumentedTabs ρ) : Decidable s.Live := inferInstanceAs (Decidable (_ ∧ _))

/-- The address of a page that exists is not given to another one. -/
def step (s : InstrumentedTabs ρ) : PageEvent ρ → Option (InstrumentedTabs ρ)
  | .created page =>
      if page ∈ s.existing then none else some { s with existing := page :: s.existing }
  | .runtimeChanged rt => some { s with runtime := rt }
  | .destroyed page =>
      some { s with
        existing := s.existing.filter fun other => decide (other ≠ page)
        behavior := s.behavior.webContentsDestroyed page }
  | .refreshed =>
      if s.Live then
        some { s with behavior := refreshSharedRuntimeBehavior (some s.runtime) s.behavior }
      else none

/-- No page has two observers, and those that have one exist. -/
structure Instrumented (s : InstrumentedTabs ρ) : Prop where
  wellFormed : s.behavior.WellFormed
  existing : ∀ page ∈ s.behavior.observed, page ∈ s.existing

theorem webContentsDestroyed_observed (page : Nat) (s : SharedBehavior) :
    (s.webContentsDestroyed page).observed = s.observed.filter fun other => other ≠ page := by
  rw [observed, webContentsDestroyed, List.filterMap_map, observed, List.filter_filterMap]
  apply List.filterMap_congr
  intro observer _
  cases hpage : observer.webContents with
  | none => simp [hpage]
  | some other =>
      by_cases heq : other = page
      · simp [hpage, heq, Option.filter]
      · simp [hpage, heq, Option.filter]

theorem webContentsDestroyed_wellFormed {s : SharedBehavior} (h : s.WellFormed) (page : Nat) :
    (s.webContentsDestroyed page).WellFormed := by
  have hobject (observer : PageInstrumentation) :
      (if observer.webContents = some page then (⟨observer.object, none⟩ : PageInstrumentation)
        else observer).object = observer.object := by
    split <;> rfl
  refine ⟨?_, ?_, ?_⟩
  · rw [webContentsDestroyed_observed]
    exact h.observed.filter _
  · have hsame : (s.webContentsDestroyed page).instrumentation.map PageInstrumentation.object =
        s.instrumentation.map PageInstrumentation.object := by
      rw [webContentsDestroyed, List.map_map]
      exact List.map_congr_left fun observer _ => hobject observer
    rw [hsame]
    exact h.objects
  · intro observer hobserver
    obtain ⟨before, hbefore, rfl⟩ := List.mem_map.mp hobserver
    rw [hobject before]
    exact h.made before hbefore

theorem step_instrumented {s t : InstrumentedTabs ρ} {event : PageEvent ρ}
    (h : s.Instrumented) (hstep : s.step event = some t) : t.Instrumented := by
  cases event with
  | created page =>
      rw [step] at hstep
      split at hstep
      · cases hstep
      · cases hstep
        exact ⟨h.wellFormed, fun other hother => List.mem_cons_of_mem _ (h.existing other hother)⟩
  | runtimeChanged rt =>
      cases hstep
      exact ⟨h.wellFormed, h.existing⟩
  | destroyed page =>
      cases hstep
      refine ⟨webContentsDestroyed_wellFormed h.wellFormed page, ?_⟩
      intro other hother
      simp only [webContentsDestroyed_observed, List.mem_filter] at hother ⊢
      exact ⟨h.existing other hother.1, hother.2⟩
  | refreshed =>
      rw [step] at hstep
      split at hstep
      · rename_i hlive
        cases hstep
        have hperm := refresh_webContents h.wellFormed hlive.1
        refine ⟨refresh_wellFormed h.wellFormed hlive.1, ?_⟩
        intro page hpage
        exact hlive.2 page ((observed_eq_of_webContents hperm).subset hpage)
      · cases hstep

theorem run_instrumented {runtime : ρ} {existing : List Nat} {events : List (PageEvent ρ)}
    {t : InstrumentedTabs ρ} (hrun : Exec (Step step) (start runtime existing) events t) :
    t.Instrumented := by
  apply hrun.invariant (fun _ _ _ h hstep => step_instrumented h hstep)
  exact ⟨⟨.nil, .nil, fun _ h => by cases h⟩, fun _ h => by cases h⟩

end InstrumentedTabs

open InstrumentedTabs in
/-- A refresh leaves one observer for each page of the runtime and no other, keeps the observers
of pages that had one, and is not changed by a second one. In every run no page has two, and a
page that is gone has none. -/
theorem instrumentation_tracks_pages {ρ : Type} [BrowserRuntime ρ] :
    (∀ (rt : ρ) (s : SharedBehavior), s.WellFormed → (allAddresses rt).Nodup →
      Refreshed rt s (refreshSharedRuntimeBehavior (some rt) s)) ∧
    (∀ (runtime : ρ) (existing : List Nat) (events : List (PageEvent ρ))
      (t : InstrumentedTabs ρ), Exec (Step step) (start runtime existing) events t →
        t.behavior.observed.Nodup ∧ (∀ page ∈ t.behavior.observed, page ∈ t.existing) ∧
        ∀ after, t.step .refreshed = some after →
          Refreshed t.runtime t.behavior after.behavior) := by
  refine ⟨fun rt s hs hall => refresh_refreshed hs hall, ?_⟩
  intro runtime existing events t hrun
  have hinstrumented := run_instrumented hrun
  refine ⟨hinstrumented.wellFormed.observed, hinstrumented.existing, ?_⟩
  intro after hstep
  rw [step] at hstep
  split at hstep
  · rename_i hlive
    cases hstep
    exact refresh_refreshed hinstrumented.wellFormed hlive.1
  · cases hstep

def cartPage : WebContents := { shopPage with address := 2 }

def cartRuntime : HeadlessRuntime :=
  { shopRuntime with contents := [⟨100, shopPage⟩, ⟨101, cartPage⟩] }

/-- An observer whose page was destroyed, one whose page has left the runtime, and one to keep. -/
def staleBehavior : SharedBehavior := ⟨[⟨0, none⟩, ⟨1, some 7⟩, ⟨2, some 1⟩], some ⟨some 7⟩, 3⟩

/-- A second tab is opened, and the first one goes. -/
def cartEvents : List (PageEvent HeadlessRuntime) :=
  [.refreshed, .created 2, .runtimeChanged cartRuntime, .refreshed, .destroyed 1,
    .runtimeChanged { cartRuntime with contents := [⟨101, cartPage⟩], activeWebContents := some 2 },
    .refreshed]

open InstrumentedTabs in
theorem instrumentation_tracks_pages_sample :
    Refreshed cartRuntime staleBehavior
        (refreshSharedRuntimeBehavior (some cartRuntime) staleBehavior) ∧
      (refreshSharedRuntimeBehavior (some cartRuntime) staleBehavior).instrumentation =
        [⟨2, some 1⟩, ⟨3, some 2⟩] ∧
      ∃ t, Exec (Step step) (start shopRuntime [1]) cartEvents t ∧ t.behavior.observed.Nodup ∧
        t.behavior.instrumentation = [⟨1, some 2⟩] ∧
        t.behavior.behaviorSimulator = some ⟨some 2⟩ := by
  obtain ⟨hrefreshed, hruns⟩ := @instrumentation_tracks_pages HeadlessRuntime _
  have hwellFormed : staleBehavior.WellFormed := ⟨by decide, by decide, by decide⟩
  have hrun : Exec (Step step) (start shopRuntime [1]) cartEvents _ :=
    .cons rfl (.cons rfl (.cons rfl (.cons rfl (.cons rfl (.cons rfl (.cons rfl (.nil _)))))))
  exact ⟨hrefreshed cartRuntime staleBehavior hwellFormed (by decide), rfl, _, hrun,
    (hruns _ _ _ _ hrun).1, rfl, rfl⟩

end Browserd
