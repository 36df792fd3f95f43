import Browserd.Embed.SwitchMerge

/-!
# What a switch policy does to a command line

In each process the entries of the policy that reach it are appended one after the other, and in the
GPU process the switches that browserd wants there by default come after them.
-/

namespace Browserd

/-- The processes that the policy tells apart. -/
inductive ProcessKind where
  | browser
  | gpuChild
  | rendererChild
  | otherChild
  deriving DecidableEq

namespace ProcessKind

def ofChild (commandLine : CommandLine) : ProcessKind :=
  let processType := commandLine.getSwitchValueASCII kProcessType
  if processType == kGpuProcess then .gpuChild
  else if processType == kRendererProcess then .rendererChild
  else .otherChild

/-- The scopes that reach a process. -/
def scopes : ProcessKind → List UInt32
  | browser => [kSwitchScopeBrowser]
  | gpuChild => [kSwitchScopeAllChildren, kSwitchScopeGpuChild]
  | rendererChild => [kSwitchScopeAllChildren, kSwitchScopeRendererChild]
  | otherChild => [kSwitchScopeAllChildren]

/-- The switches without a value that a process has by default. -/
def defaultSwitches : ProcessKind → List String
  | gpuChild => [kDisableWaylandGbmSurfaceless, kBrowserdForceGles2Context]
  | _ => []

/-- The features that a process disables by default, if those of its switches are `enabled`. -/
def defaultDisabled (enabled : List String) : ProcessKind → List String
  | gpuChild =>
      if kFallbackToSWIfGLES3NotSupported ∈ enabled then [] else [kFallbackToSWIfGLES3NotSupported]
  | _ => []

end ProcessKind

def EmbedderSwitch.reaches (kind : ProcessKind) (embedderSwitch : EmbedderSwitch) : Bool :=
  kind.scopes.any fun scope => embedderSwitch.scope &&& scope != 0

/-- The entries that take effect in a process. -/
def effectiveSwitches (kind : ProcessKind) (policy : List EmbedderSwitch) : List EmbedderSwitch :=
  policy.filter fun embedderSwitch => !embedderSwitch.name.isEmpty && embedderSwitch.reaches kind

/-- The names of the switches that are appended in a process. -/
def appendedNames (kind : ProcessKind) (policy : List EmbedderSwitch) (enabled : List String) :
    List String :=
  (effectiveSwitches kind policy).map EmbedderSwitch.name ++ kind.defaultSwitches ++
    (kind.defaultDisabled enabled).map fun _ => kDisableFeatures

/-- The command line that a policy makes of the initial one. -/
structure PolicyApplied (kind : ProcessKind) (policy : List EmbedderSwitch)
    (initial result : CommandLine) : Prop where
  enabled : (result.featureList kEnableFeatures).eraseDups =
    (initial.featureList kEnableFeatures ++
      (effectiveSwitches kind policy).flatMap (·.features kEnableFeatures)).eraseDups
  disabled : (result.featureList kDisableFeatures).eraseDups =
    (initial.featureList kDisableFeatures ++
      (effectiveSwitches kind policy).flatMap (·.features kDisableFeatures) ++
      kind.defaultDisabled (result.featureList kEnableFeatures)).eraseDups
  last : ∀ name embedderSwitch, isCommaMergedSwitch name = false → name ∉ kind.defaultSwitches →
    ((effectiveSwitches kind policy).findRev? fun entry => entry.name == name) =
      some embedderSwitch →
    result.hasSwitch name = true ∧
      result.getSwitchValueNative name = embedderSwitch.value.getD ""
  unchanged : ∀ names : String → Bool,
    (∀ name ∈ appendedNames kind policy (result.featureList kEnableFeatures),
      names name = false) →
    result.restrict names = initial.restrict names
  defaults : ∀ name ∈ kind.defaultSwitches,
    result.hasSwitch name = true ∧ result.getSwitchValueNative name = ""

section Policy

variable {kind : ProcessKind} {policy : List EmbedderSwitch} {initial : CommandLine}

theorem and_or_ne_zero (scope a b : UInt32) :
    (scope &&& (a ||| b) != 0) = (scope &&& a != 0 || scope &&& b != 0) := by
  have hdistrib : scope &&& (a ||| b) = scope &&& a ||| scope &&& b := by
    rw [← UInt32.toBitVec_inj]
    simp only [UInt32.toBitVec_and, UInt32.toBitVec_or]
    ext i hi
    simp [Bool.and_or_distrib_left]
  rw [Bool.eq_iff_iff]
  simp only [hdistrib, bne_iff_ne, Bool.or_eq_true, ne_eq, UInt32.or_eq_zero_iff]
  exact Decidable.not_and_iff_or_not

theorem scopeForChildProcess_eq (commandLine : CommandLine)
    (embedderSwitch : EmbedderSwitch) :
    (embedderSwitch.scope &&& scopeForChildProcess commandLine != 0) =
      embedderSwitch.reaches (.ofChild commandLine) := by
  simp only [scopeForChildProcess, ProcessKind.ofChild, EmbedderSwitch.reaches]
  split
  · simp [ProcessKind.scopes, and_or_ne_zero]
  split
  · simp [ProcessKind.scopes, and_or_ne_zero]
  · simp [ProcessKind.scopes]

/-- The entries of a policy that reach a process are appended one after the other. -/
theorem appendSwitchesForScope_eq {scope : UInt32} (hscope : scope ≠ 0)
    (hreaches : ∀ embedderSwitch : EmbedderSwitch,
      (embedderSwitch.scope &&& scope != 0) = embedderSwitch.reaches kind) :
    appendSwitchesForScope policy scope initial =
      (effectiveSwitches kind policy).foldl (fun commandLine entry => entry.append commandLine)
        initial := by
  rw [appendSwitchesForScope, if_neg (by simpa using hscope), effectiveSwitches, List.foldl_filter]
  congr 1
  funext commandLine embedderSwitch
  rw [hreaches]
  by_cases hempty : embedderSwitch.name.isEmpty
  · simp [EmbedderSwitch.append, hempty]
  · simp [hempty]

/-- The entries that `AppendDefaultGpuChildSwitches` appends. -/
def defaultEntries (kind : ProcessKind) (enabled : List String) : List EmbedderSwitch :=
  (kind.defaultSwitches.map fun name => ⟨name, none, kSwitchScopeGpuChild⟩) ++
    (kind.defaultDisabled enabled).map fun feature =>
      ⟨kDisableFeatures, some feature, kSwitchScopeGpuChild⟩

theorem name_of_mem_defaultEntries {enabled : List String} {entry : EmbedderSwitch}
    (h : entry ∈ defaultEntries kind enabled) :
    entry.name ∈ kind.defaultSwitches ∨
      entry.name ∈ (kind.defaultDisabled enabled).map fun _ => kDisableFeatures := by
  simp only [defaultEntries, List.mem_append, List.mem_map] at h ⊢
  rcases h with ⟨name, hname, rfl⟩ | ⟨feature, hfeature, rfl⟩
  · exact .inl hname
  · exact .inr ⟨feature, hfeature, rfl⟩

theorem ne_kEnableFeatures_of_mem_defaultEntries {enabled : List String} {entry : EmbedderSwitch}
    (h : entry ∈ defaultEntries kind enabled) : entry.name ≠ kEnableFeatures := by
  rcases name_of_mem_defaultEntries h with hname | hname
  · cases kind with
    | gpuChild =>
        simp only [ProcessKind.defaultSwitches, List.mem_cons, List.not_mem_nil, or_false] at hname
        rcases hname with hname | hname <;> rw [hname] <;> decide
    | _ => cases hname
  · obtain ⟨_, -, hname⟩ := List.mem_map.mp hname
    rw [← hname]
    decide

/-- The entries by default leave the enabled features as they are. -/
theorem featureList_foldl_defaultEntries {entries : List EmbedderSwitch}
    (h : ∀ entry ∈ entries, entry.name ≠ kEnableFeatures) (initial : CommandLine) :
    (entries.foldl (fun commandLine entry => entry.append commandLine) initial).featureList
        kEnableFeatures = initial.featureList kEnableFeatures := by
  induction entries generalizing initial with
  | nil => rfl
  | cons entry entries ih =>
      rw [List.foldl_cons, ih fun e he => h e (List.mem_cons_of_mem _ he)]
      have hsame := EmbedderSwitch.restrict_append_of_ne (h entry (List.mem_cons_self ..)) initial
      rw [CommandLine.featureList, CommandLine.getSwitchValueASCII_congr hsame]
      rfl

/-- Only the GPU process has entries by default. -/
theorem defaultEntries_of_ne (hkind : kind ≠ .gpuChild) (enabled : List String) :
    defaultEntries kind enabled = [] := by
  cases kind with
  | gpuChild => exact absurd rfl hkind
  | _ => rfl

/-- A child process is in the scope of the GPU process exactly when it is one. -/
theorem scopeForChildProcess_gpuChild (commandLine : CommandLine) :
    scopeForChildProcess commandLine &&& kSwitchScopeGpuChild = 0 ↔
      ProcessKind.ofChild commandLine ≠ .gpuChild := by
  simp only [scopeForChildProcess, ProcessKind.ofChild]
  split
  · simp only [ne_eq, not_true_eq_false, iff_false]
    decide
  · split <;> decide

theorem appendDefaultGpuChildSwitches_eq (initial commandLine : CommandLine) :
    appendDefaultGpuChildSwitches (scopeForChildProcess initial) commandLine =
      (defaultEntries (.ofChild initial) (commandLine.featureList kEnableFeatures)).foldl
        (fun commandLine entry => entry.append commandLine) commandLine := by
  by_cases hkind : ProcessKind.ofChild initial = .gpuChild
  · have hscope : scopeForChildProcess initial &&& kSwitchScopeGpuChild ≠ 0 := by
      rw [ne_eq, scopeForChildProcess_gpuChild]
      exact fun hother => hother hkind
    let flags : List EmbedderSwitch :=
      [⟨kDisableWaylandGbmSurfaceless, none, kSwitchScopeGpuChild⟩,
        ⟨kBrowserdForceGles2Context, none, kSwitchScopeGpuChild⟩]
    let flagged := flags.foldl (fun commandLine entry => entry.append commandLine) commandLine
    have hflags : ∀ entry ∈ flags, entry.name ≠ kEnableFeatures := by
      simp only [flags, List.mem_cons, List.not_mem_nil, or_false, forall_eq_or_imp, forall_eq]
      decide
    have hlist : flagged.featureList kEnableFeatures = commandLine.featureList kEnableFeatures :=
      featureList_foldl_defaultEntries hflags commandLine
    have hhas : hasCommaSeparatedValue flagged kEnableFeatures kFallbackToSWIfGLES3NotSupported =
        decide (kFallbackToSWIfGLES3NotSupported ∈ commandLine.featureList kEnableFeatures) := by
      rw [← hlist, hasCommaSeparatedValue, CommandLine.featureList, Bool.eq_iff_iff]
      simp
    rw [appendDefaultGpuChildSwitches, hkind, if_neg (by simpa using hscope), defaultEntries,
      List.foldl_append]
    change (if hasCommaSeparatedValue flagged _ _ then flagged else _) = List.foldl _ flagged _
    rw [hhas]
    by_cases hlisted : kFallbackToSWIfGLES3NotSupported ∈ commandLine.featureList kEnableFeatures
    · simp [ProcessKind.defaultDisabled, hlisted]
    · simp [ProcessKind.defaultDisabled, hlisted]
      rfl
  · have hscope := (scopeForChildProcess_gpuChild initial).mpr hkind
    rw [appendDefaultGpuChildSwitches, if_pos (by simpa using hscope), defaultEntries_of_ne hkind]
    rfl

theorem flatMap_defaultEntries_enabled (kind : ProcessKind) (enabled : List String) :
    (defaultEntries kind enabled).flatMap (·.features kEnableFeatures) = [] := by
  rw [List.flatMap_eq_nil_iff]
  intro entry hentry
  simp [EmbedderSwitch.features, ne_kEnableFeatures_of_mem_defaultEntries hentry]

theorem flatMap_defaultEntries_disabled (kind : ProcessKind) (enabled : List String) :
    (defaultEntries kind enabled).flatMap (·.features kDisableFeatures) =
      kind.defaultDisabled enabled := by
  have hsplit : splitString kFallbackToSWIfGLES3NotSupported ',' =
      [kFallbackToSWIfGLES3NotSupported] := by decide +kernel
  have hgbm : kDisableWaylandGbmSurfaceless ≠ kDisableFeatures := by decide
  have hgles : kBrowserdForceGles2Context ≠ kDisableFeatures := by decide
  cases kind with
  | gpuChild =>
      by_cases hlisted : kFallbackToSWIfGLES3NotSupported ∈ enabled <;>
        simp [defaultEntries, ProcessKind.defaultSwitches, ProcessKind.defaultDisabled,
          EmbedderSwitch.features, hlisted, hsplit, hgbm, hgles]
  | _ => rfl

theorem notMerged_of_mem_defaultSwitches {name : String} (h : name ∈ kind.defaultSwitches) :
    isCommaMergedSwitch name = false := by
  cases kind with
  | gpuChild =>
      simp only [ProcessKind.defaultSwitches, List.mem_cons, List.not_mem_nil, or_false] at h
      rcases h with rfl | rfl <;> decide
  | _ => cases h

/-- The last of all entries with the name of a default switch is the one by default. -/
theorem findRev?_defaultEntries {name : String} (h : name ∈ kind.defaultSwitches)
    (entries : List EmbedderSwitch) (enabled : List String) :
    ((entries ++ defaultEntries kind enabled).findRev? fun entry => entry.name == name) =
      some ⟨name, none, kSwitchScopeGpuChild⟩ := by
  have hgbm : (kDisableFeatures == kDisableWaylandGbmSurfaceless) = false := by decide
  have hgles : (kDisableFeatures == kBrowserdForceGles2Context) = false := by decide
  have hne : (kBrowserdForceGles2Context == kDisableWaylandGbmSurfaceless) = false := by decide
  cases kind with
  | gpuChild =>
      simp only [ProcessKind.defaultSwitches, List.mem_cons, List.not_mem_nil, or_false] at h
      by_cases hlisted : kFallbackToSWIfGLES3NotSupported ∈ enabled <;>
        rcases h with rfl | rfl <;>
        simp [defaultEntries, ProcessKind.defaultSwitches, ProcessKind.defaultDisabled, hlisted,
          hgbm, hgles, hne]
  | _ => cases h

theorem findRev?_defaultEntries_none {name : String} (hmerged : isCommaMergedSwitch name = false)
    (hdefault : name ∉ kind.defaultSwitches) (enabled : List String) :
    ((defaultEntries kind enabled).findRev? fun entry => entry.name == name) = none := by
  rw [List.findRev?_eq_find?_reverse, List.find?_eq_none]
  intro entry hentry hname
  rw [beq_iff_eq] at hname
  rcases name_of_mem_defaultEntries (List.mem_reverse.mp hentry) with hmem | hmem
  · exact hdefault (hname ▸ hmem)
  · obtain ⟨_, -, hdisable⟩ := List.mem_map.mp hmem
    rw [← hname, ← hdisable] at hmerged
    exact absurd hmerged (by decide)

theorem defaultEntries_listFeatures {enabled : List String} {entry : EmbedderSwitch}
    (h : entry ∈ defaultEntries kind enabled) : entry.name ≠ "" ∧ entry.ListsFeatures := by
  simp only [defaultEntries, List.mem_append, List.mem_map] at h
  rcases h with ⟨name, hname, rfl⟩ | ⟨feature, hfeature, rfl⟩
  · have hmerged := notMerged_of_mem_defaultSwitches hname
    constructor
    · rintro rfl
      cases kind with
      | gpuChild => exact absurd hname (by decide)
      | _ => cases hname
    · intro h
      exact absurd (hmerged.symm.trans h) (by simp)
  · refine ⟨by simp only; decide, fun _ => ⟨feature, rfl, ?_⟩⟩
    cases kind with
    | gpuChild =>
        simp only [ProcessKind.defaultDisabled] at hfeature
        split at hfeature
        · cases hfeature
        · obtain rfl := List.mem_singleton.mp hfeature
          decide
    | _ => cases hfeature

/-- What the entries of the policy and those by default have in common. -/
theorem effectiveSwitches_listFeatures (hlists : ∀ entry ∈ policy, entry.ListsFeatures)
    {enabled : List String} {entry : EmbedderSwitch}
    (h : entry ∈ effectiveSwitches kind policy ++ defaultEntries kind enabled) :
    entry.name ≠ "" ∧ entry.ListsFeatures := by
  rcases List.mem_append.mp h with hentry | hentry
  · have hkept := List.mem_filter.mp hentry
    refine ⟨?_, hlists entry hkept.1⟩
    intro hempty
    simp [hempty] at hkept
  · exact defaultEntries_listFeatures hentry

/-- The entries of the policy and then those by default make the command line of the policy. -/
theorem policyApplied {result : CommandLine}
    (hlists : ∀ entry ∈ policy, entry.ListsFeatures)
    (hresult : result =
      (effectiveSwitches kind policy ++
        defaultEntries kind (result.featureList kEnableFeatures)).foldl
          (fun commandLine entry => entry.append commandLine) initial) :
    PolicyApplied kind policy initial result := by
  have happended : SwitchesAppended (effectiveSwitches kind policy ++
      defaultEntries kind (result.featureList kEnableFeatures)) initial result := by
    conv => arg 3; rw [hresult]
    apply switchesAppended
    · exact fun entry hentry => (effectiveSwitches_listFeatures hlists hentry).1
    · exact fun entry hentry => (effectiveSwitches_listFeatures hlists hentry).2
  constructor
  case enabled =>
    rw [happended.features _ (by decide), List.flatMap_append, flatMap_defaultEntries_enabled,
      List.append_nil]
  case disabled =>
    rw [happended.features _ (by decide), List.flatMap_append, flatMap_defaultEntries_disabled,
      List.append_assoc]
  case last =>
    intro name embedderSwitch hmerged hdefault hfind
    apply happended.last name embedderSwitch hmerged
    have hnone := findRev?_defaultEntries_none hmerged hdefault
      (result.featureList kEnableFeatures)
    rw [List.findRev?_eq_find?_reverse] at hnone hfind ⊢
    rw [List.reverse_append, List.find?_append, hnone, hfind]
    rfl
  case unchanged =>
    intro names hnames
    apply happended.others
    intro entry hentry
    apply hnames
    rw [appendedNames, List.append_assoc]
    rcases List.mem_append.mp hentry with hentry | hentry
    · exact List.mem_append_left _ (List.mem_map_of_mem hentry)
    · exact List.mem_append_right _ (List.mem_append.mpr (name_of_mem_defaultEntries hentry))
  case defaults =>
    intro name hname
    exact happended.last name _ (notMerged_of_mem_defaultSwitches hname)
      (findRev?_defaultEntries hname _ _)

theorem ofChild_ne_browser (commandLine : CommandLine) :
    ProcessKind.ofChild commandLine ≠ .browser := by
  simp only [ProcessKind.ofChild]
  split
  · decide
  split <;> decide

theorem reaches_of_mem_effectiveSwitches {entry : EmbedderSwitch}
    (h : entry ∈ effectiveSwitches kind policy) : entry.reaches kind = true := by
  have hkept := (List.mem_filter.mp h).2
  rw [Bool.and_eq_true] at hkept
  exact hkept.2

theorem reaches_browserOnly {entry : EmbedderSwitch} (hscope : entry.scope = kSwitchScopeBrowser)
    (hkind : kind ≠ .browser) : entry.reaches kind = false := by
  rw [EmbedderSwitch.reaches, hscope]
  cases kind with
  | browser => exact absurd rfl hkind
  | _ => decide

theorem reaches_gpuOnly {entry : EmbedderSwitch} (hscope : entry.scope = kSwitchScopeGpuChild)
    (hkind : kind ≠ .gpuChild) : entry.reaches kind = false := by
  rw [EmbedderSwitch.reaches, hscope]
  cases kind with
  | gpuChild => exact absurd rfl hkind
  | _ => decide

end Policy

/-- An entry takes effect in the processes that its scope reaches. A policy makes of the command
line of each process the one of the entries that reach it, and of no others. -/
theorem embedderSwitches_applied (policy : List EmbedderSwitch)
    (hlists : ∀ entry ∈ policy, entry.ListsFeatures) (initial : CommandLine) :
    PolicyApplied .browser policy initial (appendEmbedderSwitchesForBrowser policy initial) ∧
      PolicyApplied (.ofChild initial) policy initial
        (appendEmbedderSwitchesForChild policy initial) ∧
      ∀ entry ∈ policy,
        (entry.scope = kSwitchScopeBrowser →
          entry ∉ effectiveSwitches (.ofChild initial) policy) ∧
        (entry.scope = kSwitchScopeGpuChild → ProcessKind.ofChild initial ≠ .gpuChild →
          entry ∉ effectiveSwitches (.ofChild initial) policy) := by
  have hbrowser : appendEmbedderSwitchesForBrowser policy initial =
      (effectiveSwitches .browser policy).foldl (fun commandLine entry => entry.append commandLine)
        initial := by
    apply appendSwitchesForScope_eq (by decide)
    intro embedderSwitch
    simp [EmbedderSwitch.reaches, ProcessKind.scopes]
  have hchild : appendSwitchesForScope policy (scopeForChildProcess initial) initial =
      (effectiveSwitches (.ofChild initial) policy).foldl
        (fun commandLine entry => entry.append commandLine) initial := by
    apply appendSwitchesForScope_eq
    · simp only [scopeForChildProcess]
      split
      · decide
      split <;> decide
    · exact scopeForChildProcess_eq initial
  refine ⟨?_, ?_, ?_⟩
  · apply policyApplied hlists
    rw [hbrowser]
    simp [defaultEntries, ProcessKind.defaultSwitches, ProcessKind.defaultDisabled]
  · apply policyApplied hlists
    have hlist : (appendEmbedderSwitchesForChild policy initial).featureList kEnableFeatures =
        (appendSwitchesForScope policy (scopeForChildProcess initial) initial).featureList
          kEnableFeatures := by
      rw [appendEmbedderSwitchesForChild, appendDefaultGpuChildSwitches_eq]
      apply featureList_foldl_defaultEntries
      exact fun _ hentry => ne_kEnableFeatures_of_mem_defaultEntries hentry
    rw [hlist, List.foldl_append, ← hchild, ← appendDefaultGpuChildSwitches_eq]
    rfl
  · intro entry _
    constructor
    · intro hscope heffective
      have hreaches := reaches_of_mem_effectiveSwitches heffective
      rw [reaches_browserOnly hscope (ofChild_ne_browser initial)] at hreaches
      cases hreaches
    · intro hscope hkind heffective
      have hreaches := reaches_of_mem_effectiveSwitches heffective
      rw [reaches_gpuOnly hscope hkind] at hreaches
      cases hreaches

def vulkanPolicy : List EmbedderSwitch :=
  [⟨kDisableFeatures, some "FallbackToSWIfGLES3NotSupported, DefaultANGLEVulkan",
      kSwitchScopeAllChildren⟩,
    ⟨"browser-only", none, kSwitchScopeBrowser⟩]

def vulkanGpuChild : CommandLine where
  switches := [(kProcessType, kGpuProcess), (kDisableFeatures, "Vulkan")]

theorem embedderSwitches_applied_sample :
    ProcessKind.ofChild vulkanGpuChild = .gpuChild ∧
      PolicyApplied (.ofChild vulkanGpuChild) vulkanPolicy vulkanGpuChild
        (appendEmbedderSwitchesForChild vulkanPolicy vulkanGpuChild) := by
  refine ⟨by decide +kernel, (embedderSwitches_applied vulkanPolicy ?_ vulkanGpuChild).2.1⟩
  simp only [vulkanPolicy, List.mem_cons, List.not_mem_nil, or_false, forall_eq_or_imp, forall_eq]
  constructor
  · exact fun _ => ⟨_, rfl, by decide +kernel⟩
  · exact fun h => absurd h (by decide)

/-- An entry without a name is ignored, and a list of features with a character outside ASCII is
lost when it is read back. -/
theorem entries_without_effect :
    (EmbedderSwitch.reaches .browser ⟨"", none, kSwitchScopeBrowser⟩ = true ∧
        (appendEmbedderSwitchesForBrowser [⟨"", none, kSwitchScopeBrowser⟩] .empty).hasSwitch "" =
          false) ∧
      (appendEmbedderSwitchesForBrowser
        [⟨kEnableFeatures, some "Vulkan", kSwitchScopeBrowser⟩,
          ⟨kEnableFeatures, some "Vülkan", kSwitchScopeBrowser⟩] .empty).featureList
        kEnableFeatures = [] := by
  decide +kernel

end Browserd
