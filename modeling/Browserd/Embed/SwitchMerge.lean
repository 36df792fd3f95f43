import Browserd.Embed.EmbedderSwitches
import Browserd.Lib.OrderedUnion
import Mathlib.Data.List.Induction

/-!
# Appending switches

A switch that lists features adds its values to those of the command line, as an ordered union;
every other switch replaces the one of its name.
-/

namespace Browserd

/-- One round of the loop that joins the merged values. -/
def appendValue (merged value : String) : String :=
  (if merged.isEmpty then merged else merged ++ ",") ++ value

section Merge

variable {existing incoming : String} {values : List String}

theorem toList_foldl_appendValue {merged : String} (hmerged : merged ≠ "")
    (hvalues : ∀ value ∈ values, value ≠ "") :
    (values.foldl appendValue merged).toList =
      merged.toList ++ values.flatMap fun value => ',' :: value.toList := by
  induction values generalizing merged with
  | nil => simp
  | cons value values ih =>
      have hvalue := hvalues value (List.mem_cons_self ..)
      have hnext : appendValue merged value = merged ++ "," ++ value := by
        simp [appendValue, String.isEmpty_iff, hmerged]
      have hne : merged ++ "," ++ value ≠ "" := by
        intro h
        apply hvalue
        simpa using congrArg String.toList h
      rw [List.foldl_cons, hnext, ih hne fun v hv => hvalues v (List.mem_cons_of_mem _ hv)]
      simp

/-- The joined values are split into the same values. -/
theorem splitString_foldl_appendValue (hvalues : ∀ value ∈ values, IsItem ',' value) :
    splitString (values.foldl appendValue "") ',' = values := by
  cases values with
  | nil => simp
  | cons value values =>
      have hvalue := hvalues value (List.mem_cons_self ..)
      have hrest : ∀ v ∈ values, IsItem ',' v :=
        fun v hv => hvalues v (List.mem_cons_of_mem _ hv)
      have hfirst : appendValue "" value = value := by simp [appendValue]
      have hitems : ((value :: values).map String.toList).map
          (fun piece => trimString isWhitespaceASCII (String.ofList piece)) = value :: values := by
        rw [List.map_map]
        conv_rhs => rw [← List.map_id (value :: values)]
        apply List.map_congr_left
        intro v hv
        simpa using (hvalues v hv).trimmed
      have hsplit : (value.toList ++ values.flatMap fun v => ',' :: v.toList).splitOn ',' =
          (value :: values).map String.toList := by
        rw [List.map_cons, ← Lines.splitOn_separated hvalue.separator]
        · rw [List.flatMap_map]
        · intro piece hpiece
          obtain ⟨v, hv, rfl⟩ := List.mem_map.mp hpiece
          exact (hrest v hv).separator
      rw [splitString, List.foldl_cons, hfirst,
        toList_foldl_appendValue hvalue.nonempty fun v hv => (hrest v hv).nonempty, hsplit,
        hitems, List.filter_eq_self]
      intro v hv
      simpa [String.isEmpty_iff] using (hvalues v hv).nonempty

theorem isStringASCII_foldl_appendValue {merged : String} (hmerged : isStringASCII merged = true)
    (hvalues : ∀ value ∈ values, isStringASCII value = true) :
    isStringASCII (values.foldl appendValue merged) = true := by
  induction values generalizing merged with
  | nil => exact hmerged
  | cons value values ih =>
      have hvalue := hvalues value (List.mem_cons_self ..)
      apply ih _ fun v hv => hvalues v (List.mem_cons_of_mem _ hv)
      unfold appendValue
      simp only [isStringASCII] at hmerged hvalue ⊢
      split <;> simp_all

theorem mergeCommaSeparatedValues_eq (hexisting : existing ≠ "") (hincoming : incoming ≠ "") :
    mergeCommaSeparatedValues existing incoming =
      (OrderedUnion.union (splitString existing ',') (splitString incoming ',')).foldl appendValue
        "" := by
  unfold mergeCommaSeparatedValues
  rw [if_neg (by simpa [String.isEmpty_iff] using hexisting),
    if_neg (by simpa [String.isEmpty_iff] using hincoming)]
  rfl

theorem isStringASCII_mergeCommaSeparatedValues (hexisting : isStringASCII existing = true)
    (hincoming : isStringASCII incoming = true) :
    isStringASCII (mergeCommaSeparatedValues existing incoming) = true := by
  by_cases hnone : existing = ""
  · simpa [mergeCommaSeparatedValues, hnone] using hincoming
  by_cases hnothing : incoming = ""
  · simpa [mergeCommaSeparatedValues, hnone, hnothing, String.isEmpty_iff] using hexisting
  rw [mergeCommaSeparatedValues_eq hnone hnothing]
  apply isStringASCII_foldl_appendValue rfl
  intro value hvalue
  rcases OrderedUnion.mem_union.mp hvalue with hvalue | hvalue
  · exact isStringASCII_of_mem_splitString hvalue hexisting
  · exact isStringASCII_of_mem_splitString hvalue hincoming

/-- Merging is the ordered union of the two lists of values. -/
theorem eraseDups_mergeCommaSeparatedValues (existing incoming : String) :
    (splitString (mergeCommaSeparatedValues existing incoming) ',').eraseDups =
      (splitString existing ',' ++ splitString incoming ',').eraseDups := by
  by_cases hnone : existing = ""
  · simp [mergeCommaSeparatedValues, hnone]
  by_cases hnothing : incoming = ""
  · simp [mergeCommaSeparatedValues, hnone, hnothing, String.isEmpty_iff]
  rw [mergeCommaSeparatedValues_eq hnone hnothing, splitString_foldl_appendValue,
    OrderedUnion.eraseDups_union]
  intro value hvalue
  rcases OrderedUnion.mem_union.mp hvalue with hvalue | hvalue
  · exact isItem_of_mem_splitString hvalue
  · exact isItem_of_mem_splitString hvalue

/-- The values that a string lists, each of them once. -/
def distinctValues (s : String) : List String := (splitString s ',').eraseDups

theorem distinctValues_mergeCommaSeparatedValues (existing incoming : String) :
    distinctValues (mergeCommaSeparatedValues existing incoming) =
      distinctValues existing ++ (distinctValues incoming).filter fun value =>
        !(distinctValues existing).contains value := by
  rw [distinctValues, eraseDups_mergeCommaSeparatedValues, OrderedUnion.eraseDups_append_filter]
  rfl

theorem distinctValues_mergeCommaSeparatedValues_assoc (a b c : String) :
    distinctValues (mergeCommaSeparatedValues (mergeCommaSeparatedValues a b) c) =
      distinctValues (mergeCommaSeparatedValues a (mergeCommaSeparatedValues b c)) := by
  have hleft : (splitString (mergeCommaSeparatedValues a b) ',' ++ splitString c ',').eraseDups =
      (splitString a ',' ++ splitString b ',' ++ splitString c ',').eraseDups :=
    OrderedUnion.eraseDups_append_congr (eraseDups_mergeCommaSeparatedValues a b)
  have hright : (splitString a ',' ++ splitString (mergeCommaSeparatedValues b c) ',').eraseDups =
      (splitString a ',' ++ (splitString b ',' ++ splitString c ',')).eraseDups :=
    OrderedUnion.eraseDups_append_congr_right (eraseDups_mergeCommaSeparatedValues b c)
  calc
    _ = (splitString (mergeCommaSeparatedValues a b) ',' ++ splitString c ',').eraseDups :=
      eraseDups_mergeCommaSeparatedValues _ _
    _ = (splitString a ',' ++ (splitString b ',' ++ splitString c ',')).eraseDups := by
      rw [hleft, List.append_assoc]
    _ = _ := by rw [distinctValues, eraseDups_mergeCommaSeparatedValues, hright]

/-- Merging is the ordered union: its identity is the empty string, it is idempotent and
associative, and it has the values of either argument and no other. -/
theorem mergeCommaSeparatedValues_orderedUnion (a b c : String) :
    distinctValues (mergeCommaSeparatedValues a b) =
        distinctValues a ++
          (distinctValues b).filter (fun value => !(distinctValues a).contains value) ∧
      distinctValues (mergeCommaSeparatedValues "" a) = distinctValues a ∧
      distinctValues (mergeCommaSeparatedValues a "") = distinctValues a ∧
      distinctValues (mergeCommaSeparatedValues a a) = distinctValues a ∧
      distinctValues (mergeCommaSeparatedValues (mergeCommaSeparatedValues a b) c) =
        distinctValues (mergeCommaSeparatedValues a (mergeCommaSeparatedValues b c)) ∧
      (∀ value, value ∈ distinctValues (mergeCommaSeparatedValues a b) ↔
        value ∈ distinctValues a ∨ value ∈ distinctValues b) ∧
      (distinctValues a).Nodup ∧ (∀ value ∈ distinctValues a, IsItem ',' value) := by
  have hempty : distinctValues "" = [] := by simp [distinctValues]
  refine ⟨distinctValues_mergeCommaSeparatedValues a b, ?_, ?_, ?_,
    distinctValues_mergeCommaSeparatedValues_assoc a b c, ?_, OrderedUnion.nodup_eraseDups _, ?_⟩
  · simp [distinctValues_mergeCommaSeparatedValues, hempty]
  · simp [distinctValues_mergeCommaSeparatedValues, hempty]
  · simp [distinctValues_mergeCommaSeparatedValues]
  · intro value
    rw [distinctValues, eraseDups_mergeCommaSeparatedValues]
    simp [distinctValues]
  · intro value hvalue
    exact isItem_of_mem_splitString (List.mem_eraseDups.mp hvalue)

end Merge

/-- The features that a switch lists. A list that is not ASCII is not read. -/
def CommandLine.featureList (commandLine : CommandLine) (name : String) : List String :=
  splitString (commandLine.getSwitchValueASCII name) ','

namespace EmbedderSwitch

variable {embedderSwitch : EmbedderSwitch} {commandLine : CommandLine}

/-- The features that a policy entry adds to the switch `name`. -/
def features (name : String) (embedderSwitch : EmbedderSwitch) : List String :=
  if embedderSwitch.name = name then splitString (embedderSwitch.value.getD "") ',' else []

/-- A switch that lists features lists them in ASCII. -/
def ListsFeatures (embedderSwitch : EmbedderSwitch) : Prop :=
  isCommaMergedSwitch embedderSwitch.name = true →
    ∃ value, embedderSwitch.value = some value ∧ isStringASCII value = true

theorem restrict_append {names : String → Bool} (h : names embedderSwitch.name = false) :
    (embedderSwitch.append commandLine).restrict names = commandLine.restrict names := by
  simp only [append]
  split
  · rfl
  split
  · exact (CommandLine.restrict_appendSwitchASCII h).trans (CommandLine.restrict_removeSwitch h)
  split
  · exact CommandLine.restrict_appendSwitchASCII h
  · exact (CommandLine.restrict_appendSwitchASCII h).trans (CommandLine.restrict_removeSwitch h)

theorem restrict_append_of_ne {name : String} (h : embedderSwitch.name ≠ name)
    (commandLine : CommandLine) :
    (embedderSwitch.append commandLine).restrict (· == name) =
      commandLine.restrict (· == name) :=
  restrict_append (by simpa using h)

/-- A switch that is not merged replaces the one of its name. -/
theorem append_replaces (hname : embedderSwitch.name ≠ "")
    (hmerged : isCommaMergedSwitch embedderSwitch.name = false) :
    (embedderSwitch.append commandLine).hasSwitch embedderSwitch.name = true ∧
      (embedderSwitch.append commandLine).getSwitchValueNative embedderSwitch.name =
        embedderSwitch.value.getD "" := by
  simp only [append]
  rw [if_neg (by simpa [String.isEmpty_iff] using hname)]
  cases embedderSwitch.value with
  | none => simp [CommandLine.appendSwitch]
  | some value => simp [hmerged]

theorem featureList_append_self {value : String} (hname : embedderSwitch.name ≠ "")
    (hmerged : isCommaMergedSwitch embedderSwitch.name = true)
    (hvalue : embedderSwitch.value = some value) (hascii : isStringASCII value = true) :
    ((embedderSwitch.append commandLine).featureList embedderSwitch.name).eraseDups =
      (commandLine.featureList embedderSwitch.name ++ splitString value ',').eraseDups := by
  have happend : embedderSwitch.append commandLine =
      commandLine.appendSwitchASCII embedderSwitch.name
        (mergeCommaSeparatedValues (commandLine.getSwitchValueASCII embedderSwitch.name)
          value) := by
    simp [append, String.isEmpty_iff, hname, hvalue, hmerged]
  have hmergedASCII := isStringASCII_mergeCommaSeparatedValues
    (commandLine.isStringASCII_getSwitchValueASCII embedderSwitch.name) hascii
  rw [CommandLine.featureList, happend, CommandLine.getSwitchValueASCII,
    CommandLine.getSwitchValueNative_appendSwitchASCII, if_pos hmergedASCII,
    eraseDups_mergeCommaSeparatedValues]
  rfl

theorem featureList_append {name : String} (hname : embedderSwitch.name ≠ "")
    (hmerged : isCommaMergedSwitch name = true) (hlists : embedderSwitch.ListsFeatures) :
    ((embedderSwitch.append commandLine).featureList name).eraseDups =
      (commandLine.featureList name ++ embedderSwitch.features name).eraseDups := by
  by_cases heq : embedderSwitch.name = name
  · subst heq
    obtain ⟨value, hvalue, hascii⟩ := hlists hmerged
    rw [featureList_append_self hname hmerged hvalue hascii]
    simp [features, hvalue]
  · have hsame := CommandLine.getSwitchValueASCII_congr
      (restrict_append_of_ne heq commandLine)
    simp [CommandLine.featureList, hsame, features, heq]

end EmbedderSwitch

/-- What a list of switches that are all appended does to a command line. -/
structure SwitchesAppended (entries : List EmbedderSwitch) (initial result : CommandLine) :
    Prop where
  features : ∀ name, isCommaMergedSwitch name = true →
    (result.featureList name).eraseDups =
      (initial.featureList name ++ entries.flatMap (·.features name)).eraseDups
  last : ∀ name embedderSwitch, isCommaMergedSwitch name = false →
    (entries.findRev? fun entry => entry.name == name) = some embedderSwitch →
    result.hasSwitch name = true ∧
      result.getSwitchValueNative name = embedderSwitch.value.getD ""
  others : ∀ names : String → Bool, (∀ entry ∈ entries, names entry.name = false) →
    result.restrict names = initial.restrict names

theorem switchesAppended {entries : List EmbedderSwitch}
    (hnames : ∀ entry ∈ entries, entry.name ≠ "")
    (hlists : ∀ entry ∈ entries, entry.ListsFeatures) (initial : CommandLine) :
    SwitchesAppended entries initial
      (entries.foldl (fun commandLine entry => entry.append commandLine) initial) := by
  induction entries using List.reverseRecOn with
  | nil => exact ⟨by simp, by simp, by simp⟩
  | append_singleton entries entry ih =>
      have hname := hnames entry (by simp)
      have hlist := hlists entry (by simp)
      obtain ⟨hfeatures, hlast, hothers⟩ := ih (fun e he => hnames e (by simp [he]))
        (fun e he => hlists e (by simp [he]))
      rw [List.foldl_concat]
      constructor
      case features =>
        intro name hmerged
        rw [EmbedderSwitch.featureList_append hname hmerged hlist,
          OrderedUnion.eraseDups_append_congr (hfeatures name hmerged)]
        simp
      case last =>
        intro name embedderSwitch hmerged hfind
        by_cases heq : entry.name = name
        · subst heq
          obtain rfl : entry = embedderSwitch := by simpa using hfind
          exact EmbedderSwitch.append_replaces hname hmerged
        · have hsame := EmbedderSwitch.restrict_append_of_ne heq
            (entries.foldl (fun commandLine entry => entry.append commandLine) initial)
          rw [CommandLine.hasSwitch_congr hsame, CommandLine.getSwitchValueNative_congr hsame]
          exact hlast name embedderSwitch hmerged (by simpa [heq] using hfind)
      case others =>
        intro names hnone
        rw [EmbedderSwitch.restrict_append (hnone entry (by simp))]
        exact hothers names fun e he => hnone e (by simp [he])

end Browserd
