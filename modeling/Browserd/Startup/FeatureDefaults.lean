import Mathlib.Data.List.Infix
import Browserd.Embed.SwitchMerge
import Browserd.Lib.Stages
import Browserd.Startup.BrowserdMain

/-!
# Feature defaults of the GUI

What `ConfigureGuiWaylandGpu` makes of the feature lists on the command line, set against the rule
that the GPU child follows in `AppendDefaultGpuChildSwitches`.
-/

namespace Browserd.Startup

def kUseOzonePlatform : String := "UseOzonePlatform"

/-- The elements of the comma-separated list that a switch has as its value. -/
def listedValues (name : String) (commandLine : CommandLine) : List String :=
  splitString (commandLine.getSwitchValueNative name) ','

/-- The feature lists are extended as lists, the embedder decides about the fallback feature, and
doing it again changes no switch. -/
structure ExtendsLists (configure : CommandLine → CommandLine) (initial : CommandLine) : Prop where
  ozone : kUseOzonePlatform ∈ listedValues kEnableFeatures (configure initial)
  fallback : kFallbackToSWIfGLES3NotSupported ∉ listedValues kEnableFeatures (configure initial) →
    kFallbackToSWIfGLES3NotSupported ∈ listedValues kDisableFeatures (configure initial)
  enabled : kFallbackToSWIfGLES3NotSupported ∈ listedValues kEnableFeatures (configure initial) →
    listedValues kDisableFeatures (configure initial) = listedValues kDisableFeatures initial
  kept : ∀ name, isCommaMergedSwitch name = true →
    (listedValues name initial).Sublist (listedValues name (configure initial))
  again : ∀ name, (configure (configure initial)).lookup name = (configure initial).lookup name

/-- Both lists are ASCII; a default that occurs in its list is an element of it; and where the
embedder enables the fallback feature, that feature occurs in the other list already. -/
structure ReadAsLists (initial : CommandLine) : Prop where
  ascii : ∀ name, isCommaMergedSwitch name = true →
    isStringASCII (initial.getSwitchValueNative name) = true
  ozone : contains (initial.getSwitchValueNative kEnableFeatures) kUseOzonePlatform = true →
    kUseOzonePlatform ∈ listedValues kEnableFeatures initial
  fallback : kFallbackToSWIfGLES3NotSupported ∉ listedValues kEnableFeatures initial →
    contains (initial.getSwitchValueNative kDisableFeatures)
        kFallbackToSWIfGLES3NotSupported = true →
      kFallbackToSWIfGLES3NotSupported ∈ listedValues kDisableFeatures initial
  enabled : kFallbackToSWIfGLES3NotSupported ∈ listedValues kEnableFeatures initial →
    contains (initial.getSwitchValueNative kDisableFeatures)
      kFallbackToSWIfGLES3NotSupported = true

section Contains

variable {s t value : String}

theorem contains_iff : contains s value = true ↔ value.toList <:+: s.toList := by
  simp only [contains, List.any_eq_true, List.mem_tails, List.isPrefixOf_iff_prefix]
  constructor
  · rintro ⟨rest, hrest, hvalue⟩
    exact hvalue.isInfix.trans hrest.isInfix
  · rintro ⟨before, after, heq⟩
    exact ⟨value.toList ++ after, ⟨before, by rw [← heq, List.append_assoc]⟩, after, rfl⟩

theorem contains_append (s value : String) : contains (s ++ value) value = true := by
  rw [contains_iff]
  exact ⟨s.toList, [], by simp⟩

theorem contains_empty (h : value ≠ "") : contains "" value = false := by
  rw [Bool.eq_false_iff, Ne, contains_iff, String.toList_empty, List.infix_nil]
  intro heq
  exact h (by simpa using heq)

end Contains

/-- What `GetSwitchValueASCII` makes of a native value. -/
def readASCII (value : String) : String :=
  if isStringASCII value then value else ""

/-- The value of a switch after `AppendCommaSeparatedSwitchValue`. -/
def appendedValue (value : String) (existing : Option String) : Option String :=
  let read := readASCII (existing.getD "")
  if contains read value then existing
  else some ((if read.isEmpty then read else read ++ ",") ++ value)

theorem lookup_appendCommaSeparatedSwitchValue (name value name' : String)
    (commandLine : CommandLine) :
    (appendCommaSeparatedSwitchValue name value commandLine).lookup name' =
      if name' = name then appendedValue value (commandLine.lookup name')
      else commandLine.lookup name' := by
  have hread : commandLine.getSwitchValueASCII name =
      readASCII ((commandLine.lookup name).getD "") := rfl
  unfold appendCommaSeparatedSwitchValue appendedValue
  simp only [hread]
  by_cases hname : name' = name
  · subst hname
    rw [if_pos rfl]
    split
    · rfl
    · rw [CommandLine.lookup_appendSwitchASCII, if_pos rfl]
  · rw [if_neg hname]
    split
    · rfl
    · rw [CommandLine.lookup_appendSwitchASCII, if_neg hname,
        CommandLine.lookup_removeSwitch_of_ne hname]

theorem lookup_appendDefault (name value name' : String) (commandLine : CommandLine) :
    (appendDefault name value commandLine).lookup name' =
      if name' = name then some ((commandLine.lookup name').getD value)
      else commandLine.lookup name' := by
  unfold appendDefault
  rw [CommandLine.hasSwitch_eq]
  cases hlookup : commandLine.lookup name with
  | none =>
      rw [if_neg (by simp), CommandLine.lookup_appendSwitchASCII]
      split
      · rename_i heq
        rw [heq, hlookup]
        rfl
      · rfl
  | some existing =>
      rw [if_pos Option.isSome_some]
      split
      · rename_i heq
        rw [heq, hlookup]
        rfl
      · rfl

section Features

variable {value : String} {existing : Option String}

theorem isItem_kUseOzonePlatform : IsItem ',' kUseOzonePlatform :=
  ⟨by simp [kUseOzonePlatform], by decide +kernel, by decide +kernel⟩

theorem isItem_kFallback : IsItem ',' kFallbackToSWIfGLES3NotSupported :=
  ⟨by simp [kFallbackToSWIfGLES3NotSupported], by decide +kernel, by decide +kernel⟩

theorem isStringASCII_kUseOzonePlatform : isStringASCII kUseOzonePlatform = true := by
  decide +kernel

theorem isStringASCII_kFallback : isStringASCII kFallbackToSWIfGLES3NotSupported = true := by
  decide +kernel

theorem splitString_appendedValue (hvalue : IsItem ',' value) :
    splitString ((appendedValue value existing).getD "") ',' =
      if contains (readASCII (existing.getD "")) value then splitString (existing.getD "") ','
      else splitString (readASCII (existing.getD "")) ',' ++ [value] := by
  unfold appendedValue
  simp only
  split
  · rfl
  · rw [Option.getD_some]
    split
    · rename_i hempty
      rw [String.isEmpty_iff] at hempty
      simp [hempty, splitString_item hvalue]
    · exact splitString_append_item _ (by simp) hvalue

/-- The elements of the old list are all kept exactly when the list was read at all. -/
theorem sublist_appendedValue_iff (hvalue : IsItem ',' value)
    (hascii : isStringASCII value = true) :
    (splitString (existing.getD "") ',').Sublist
        (splitString ((appendedValue value existing).getD "") ',') ↔
      isStringASCII (existing.getD "") = true := by
  rw [splitString_appendedValue hvalue]
  constructor
  · intro hkept
    by_contra hnot
    have hread : readASCII (existing.getD "") = "" := by simp [readASCII, hnot]
    rw [hread, contains_empty hvalue.nonempty, splitString_empty] at hkept
    simp only [isStringASCII, List.all_eq_true, not_forall] at hnot
    obtain ⟨c, hc, hlarge⟩ := hnot
    have hlarge : ¬ c.toNat < 0x80 := by simpa using hlarge
    have hsep : c ≠ ',' := by
      rintro rfl
      exact hlarge (by decide)
    have htrim : isWhitespaceASCII c = false := by
      rw [isWhitespaceASCII, decide_eq_false_iff_not]
      intro hmem
      simp only [List.mem_cons, List.not_mem_nil, or_false] at hmem
      rcases hmem with rfl | rfl | rfl | rfl | rfl | rfl <;> exact hlarge (by decide)
    obtain ⟨piece, hpiece, hmem⟩ := exists_mem_splitString hc hsep htrim
    have heq : piece = value := by simpa using hkept.subset hpiece
    rw [isStringASCII, List.all_eq_true] at hascii
    exact hlarge (by simpa using hascii c (heq ▸ hmem))
  · intro hread
    rw [readASCII, if_pos hread]
    split
    · exact List.Sublist.refl _
    · exact List.sublist_append_left _ _

theorem isStringASCII_readASCII (s : String) : isStringASCII (readASCII s) = true := by
  unfold readASCII
  split
  · assumption
  · rfl

theorem isStringASCII_append {s t : String} (hs : isStringASCII s = true)
    (ht : isStringASCII t = true) : isStringASCII (s ++ t) = true := by
  simp only [isStringASCII] at hs ht ⊢
  simp [hs, ht]

theorem appendedValue_appendedValue (hascii : isStringASCII value = true) :
    appendedValue value (appendedValue value existing) = appendedValue value existing := by
  have hkeep : ∀ t : Option String, contains (readASCII (t.getD "")) value = true →
      appendedValue value t = t := fun t ht => if_pos ht
  by_cases hcontains : contains (readASCII (existing.getD "")) value = true
  · rw [hkeep _ hcontains, hkeep _ hcontains]
  · apply hkeep
    have hread := isStringASCII_readASCII (existing.getD "")
    have hnew : ∃ before, appendedValue value existing = some (before ++ value) ∧
        isStringASCII before = true := by
      refine ⟨_, if_neg hcontains, ?_⟩
      split
      · exact hread
      · exact isStringASCII_append hread (by decide +kernel)
    obtain ⟨before, hnew, hbefore⟩ := hnew
    rw [hnew, Option.getD_some, readASCII, if_pos (isStringASCII_append hbefore hascii)]
    exact contains_append before value

end Features

def appendCommaSeparatedStage (name value : String) (hascii : isStringASCII value = true) :
    Stage CommandLine.lookup where
  key := name
  set := appendedValue value
  run := appendCommaSeparatedSwitchValue name value
  lookup_run commandLine name' :=
    lookup_appendCommaSeparatedSwitchValue name value name' commandLine
  set_set _ := appendedValue_appendedValue hascii

@[simp] theorem appendCommaSeparatedStage_key {name value : String}
    {hascii : isStringASCII value = true} :
    (appendCommaSeparatedStage name value hascii).key = name := rfl

@[simp] theorem appendCommaSeparatedStage_set {name value : String}
    {hascii : isStringASCII value = true} :
    (appendCommaSeparatedStage name value hascii).set = appendedValue value := by
  simp only [appendCommaSeparatedStage]

def appendDefaultStage (name value : String) : Stage CommandLine.lookup where
  key := name
  set existing := some (existing.getD value)
  run := appendDefault name value
  lookup_run commandLine name' := lookup_appendDefault name value name' commandLine
  set_set _ := rfl

def appendSwitchStage (name : String) : Stage CommandLine.lookup where
  key := name
  set _ := some ""
  run := CommandLine.appendSwitch name
  lookup_run _ name' := CommandLine.lookup_appendSwitchASCII name'
  set_set _ := rfl

def guiWaylandGpuStages : List (Stage CommandLine.lookup) :=
  [appendDefaultStage "ozone-platform" "wayland",
    appendCommaSeparatedStage kEnableFeatures kUseOzonePlatform isStringASCII_kUseOzonePlatform,
    appendCommaSeparatedStage kDisableFeatures kFallbackToSWIfGLES3NotSupported
      isStringASCII_kFallback,
    appendSwitchStage "disable-gpu-compositing",
    appendSwitchStage "disable-accelerated-video-decode",
    appendSwitchStage "disable-gpu-memory-buffer-video-frames",
    appendSwitchStage "browserd-force-gles2-context",
    appendSwitchStage "browserd-disable-dawn-info",
    appendDefaultStage "use-gl" "egl",
    appendDefaultStage "use-cmd-decoder" "validating"]

theorem configureGuiWaylandGpu_eq_runAll {commandLine : CommandLine}
    (h : commandLine.hasSwitch "disable-gpu" = false) :
    configureGuiWaylandGpu .linux true commandLine =
      Stage.runAll guiWaylandGpuStages commandLine := by
  unfold configureGuiWaylandGpu
  rw [if_neg (by simp), if_neg (by simp [h])]
  simp only [Stage.runAll, guiWaylandGpuStages, List.foldl_cons, List.foldl_nil,
    appendDefaultStage, appendCommaSeparatedStage, appendSwitchStage, kEnableFeatures,
    kDisableFeatures, kUseOzonePlatform, kFallbackToSWIfGLES3NotSupported]

section Pipeline

variable {commandLine : CommandLine}

theorem guiWaylandGpuStages_nodup : (guiWaylandGpuStages.map Stage.key).Nodup := by
  simp [guiWaylandGpuStages, appendDefaultStage, appendCommaSeparatedStage, appendSwitchStage,
    kEnableFeatures, kDisableFeatures]

/-- The switch that turns all of this off is none of those that are set. -/
theorem hasSwitch_disableGpu_runAll :
    (Stage.runAll guiWaylandGpuStages commandLine).hasSwitch "disable-gpu" =
      commandLine.hasSwitch "disable-gpu" := by
  rw [CommandLine.hasSwitch_eq, CommandLine.hasSwitch_eq,
    Stage.lookup_runAll guiWaylandGpuStages, Stage.valueAt_of_notMem]
  simp [guiWaylandGpuStages, appendDefaultStage, appendCommaSeparatedStage, appendSwitchStage,
    kEnableFeatures, kDisableFeatures]

theorem lookup_runAll_of_mem {name value : String} {hascii : isStringASCII value = true}
    (h : appendCommaSeparatedStage name value hascii ∈ guiWaylandGpuStages) :
    (Stage.runAll guiWaylandGpuStages commandLine).lookup name =
      appendedValue value (commandLine.lookup name) := by
  have hvalue := Stage.valueAt_of_mem guiWaylandGpuStages_nodup h (commandLine.lookup name)
  rw [appendCommaSeparatedStage_key, appendCommaSeparatedStage_set] at hvalue
  rw [Stage.lookup_runAll guiWaylandGpuStages, hvalue]

theorem lookup_enableFeatures :
    (Stage.runAll guiWaylandGpuStages commandLine).lookup kEnableFeatures =
      appendedValue kUseOzonePlatform (commandLine.lookup kEnableFeatures) :=
  lookup_runAll_of_mem (.tail _ (.head _))

theorem lookup_disableFeatures :
    (Stage.runAll guiWaylandGpuStages commandLine).lookup kDisableFeatures =
      appendedValue kFallbackToSWIfGLES3NotSupported (commandLine.lookup kDisableFeatures) :=
  lookup_runAll_of_mem (.tail _ (.tail _ (.head _)))

theorem extendsLists_again (h : commandLine.hasSwitch "disable-gpu" = false) (name : String) :
    (configureGuiWaylandGpu .linux true (configureGuiWaylandGpu .linux true commandLine)).lookup
        name = (configureGuiWaylandGpu .linux true commandLine).lookup name := by
  rw [configureGuiWaylandGpu_eq_runAll h,
    configureGuiWaylandGpu_eq_runAll (hasSwitch_disableGpu_runAll.trans h)]
  exact Stage.lookup_runAll_runAll guiWaylandGpuStages_nodup commandLine name

/-- What an ASCII list becomes: it stays as it is where the default occurs in it. -/
theorem listedValues_of_lookup {name value : String} {result : CommandLine}
    (hvalue : IsItem ',' value)
    (hascii : isStringASCII (commandLine.getSwitchValueNative name) = true)
    (h : result.lookup name = appendedValue value (commandLine.lookup name)) :
    listedValues name result =
      if contains (commandLine.getSwitchValueNative name) value then listedValues name commandLine
      else listedValues name commandLine ++ [value] := by
  have hread : readASCII ((commandLine.lookup name).getD "") =
      commandLine.getSwitchValueNative name := if_pos hascii
  rw [listedValues, CommandLine.getSwitchValueNative_eq, h, splitString_appendedValue hvalue,
    hread]
  rfl

theorem kept_iff {name value : String} {result : CommandLine} (hvalue : IsItem ',' value)
    (hascii : isStringASCII value = true)
    (h : result.lookup name = appendedValue value (commandLine.lookup name)) :
    (listedValues name commandLine).Sublist (listedValues name result) ↔
      isStringASCII (commandLine.getSwitchValueNative name) = true := by
  have hkept := @sublist_appendedValue_iff value (commandLine.lookup name) hvalue hascii
  rw [← h] at hkept
  exact hkept

end Pipeline

section Extended

variable {values : List String} {found : Bool} {value other : String}

theorem mem_extended_iff :
    value ∈ (if found then values else values ++ [value]) ↔ (found = true → value ∈ values) := by
  cases found <;> simp

theorem mem_extended_iff_of_ne (h : other ≠ value) :
    other ∈ (if found then values else values ++ [value]) ↔ other ∈ values := by
  cases found <;> simp [h]

theorem extended_eq_iff :
    (if found then values else values ++ [value]) = values ↔ found = true := by
  cases found <;> simp

end Extended

/-- On a GUI run on Linux the lists are extended as lists exactly when they can be read as lists
by looking for the defaults in their text. -/
theorem configureGuiWaylandGpu_extendsLists_iff (commandLine : CommandLine)
    (h : commandLine.hasSwitch "disable-gpu" = false) :
    ExtendsLists (configureGuiWaylandGpu .linux true) commandLine ↔ ReadAsLists commandLine := by
  have henable := @lookup_enableFeatures commandLine
  have hdisable := @lookup_disableFeatures commandLine
  rw [← configureGuiWaylandGpu_eq_runAll h] at henable hdisable
  have hkept : ∀ name, isCommaMergedSwitch name = true →
      ((listedValues name commandLine).Sublist
          (listedValues name (configureGuiWaylandGpu .linux true commandLine)) ↔
        isStringASCII (commandLine.getSwitchValueNative name) = true) := by
    intro name hname
    simp only [isCommaMergedSwitch, Bool.or_eq_true, beq_iff_eq] at hname
    rcases hname with rfl | rfl
    · exact kept_iff isItem_kFallback isStringASCII_kFallback hdisable
    · exact kept_iff isItem_kUseOzonePlatform isStringASCII_kUseOzonePlatform henable
  have hne : kFallbackToSWIfGLES3NotSupported ≠ kUseOzonePlatform := by
    simp [kFallbackToSWIfGLES3NotSupported, kUseOzonePlatform]
  constructor
  · intro hextends
    have hascii : ∀ name, isCommaMergedSwitch name = true →
        isStringASCII (commandLine.getSwitchValueNative name) = true :=
      fun name hname => (hkept name hname).mp (hextends.kept name hname)
    have hlistedE := listedValues_of_lookup isItem_kUseOzonePlatform (hascii _ rfl) henable
    have hlistedD := listedValues_of_lookup isItem_kFallback (hascii _ rfl) hdisable
    have hozone := hextends.ozone
    have hfallback := hextends.fallback
    have henabled := hextends.enabled
    rw [hlistedE, mem_extended_iff] at hozone
    rw [hlistedE, mem_extended_iff_of_ne hne, hlistedD, mem_extended_iff] at hfallback
    rw [hlistedE, mem_extended_iff_of_ne hne, hlistedD, extended_eq_iff] at henabled
    exact ⟨hascii, hozone, hfallback, henabled⟩
  · intro hread
    have hlistedE := listedValues_of_lookup isItem_kUseOzonePlatform (hread.ascii _ rfl) henable
    have hlistedD := listedValues_of_lookup isItem_kFallback (hread.ascii _ rfl) hdisable
    constructor
    case ozone =>
      rw [hlistedE, mem_extended_iff]
      exact hread.ozone
    case fallback =>
      rw [hlistedE, mem_extended_iff_of_ne hne, hlistedD, mem_extended_iff]
      exact hread.fallback
    case enabled =>
      rw [hlistedE, mem_extended_iff_of_ne hne, hlistedD, extended_eq_iff]
      exact hread.enabled
    case kept => exact fun name hname => (hkept name hname).mpr (hread.ascii name hname)
    case again => exact extendsLists_again h

theorem configureGuiWaylandGpu_extendsLists_sample :
    ExtendsLists (configureGuiWaylandGpu .linux true) ⟨[("enable-features", "Vulkan,Skia")]⟩ := by
  refine (configureGuiWaylandGpu_extendsLists_iff _ (by decide +kernel)).mpr ⟨?_, ?_, ?_, ?_⟩
  · intro name hname
    simp only [isCommaMergedSwitch, Bool.or_eq_true, beq_iff_eq] at hname
    rcases hname with rfl | rfl
    · decide +kernel
    · decide +kernel
  · decide +kernel
  · decide +kernel
  · decide +kernel

/-- A feature that only begins like the default hides it, and the fallback feature is disabled
although the embedder enables it. -/
theorem configureGuiWaylandGpu_misreadsLists :
    ¬ ExtendsLists (configureGuiWaylandGpu .linux true)
        ⟨[("enable-features", "UseOzonePlatformCursor")]⟩ ∧
      ¬ ExtendsLists (configureGuiWaylandGpu .linux true)
        ⟨[("enable-features", "FallbackToSWIfGLES3NotSupported")]⟩ := by
  constructor
  · intro hextends
    have hmissing : kUseOzonePlatform ∉ listedValues kEnableFeatures
        (configureGuiWaylandGpu .linux true ⟨[("enable-features", "UseOzonePlatformCursor")]⟩) := by
      decide +kernel
    exact hmissing hextends.ozone
  · intro hextends
    have hadded : ¬ (kFallbackToSWIfGLES3NotSupported ∈ listedValues kEnableFeatures
          (configureGuiWaylandGpu .linux true
            ⟨[("enable-features", "FallbackToSWIfGLES3NotSupported")]⟩) →
        listedValues kDisableFeatures (configureGuiWaylandGpu .linux true
            ⟨[("enable-features", "FallbackToSWIfGLES3NotSupported")]⟩) =
          listedValues kDisableFeatures
            ⟨[("enable-features", "FallbackToSWIfGLES3NotSupported")]⟩) := by
      decide +kernel
    exact hadded hextends.enabled

end Browserd.Startup
