import Browserd.Base.Strings

/-!
# Command lines

`base::CommandLine`, as far as switches go, and the variables of `base::Environment`.
-/

namespace Browserd

/-- The switches in the order of `argv`, with their values; one without a value has the empty one.
The map that the switches are looked up in keeps the last value of each name. -/
structure CommandLine where
  switches : List (String × String)

namespace CommandLine

/-- `base::CommandLine::Init(0, nullptr)`. -/
def empty : CommandLine where
  switches := []

def hasSwitch (commandLine : CommandLine) (name : String) : Bool :=
  commandLine.switches.any fun entry => entry.1 == name

def getSwitchValueNative (commandLine : CommandLine) (name : String) : String :=
  ((commandLine.switches.findRev? fun entry => entry.1 == name).map Prod.snd).getD ""

/-- The map from names to values. -/
def lookup (commandLine : CommandLine) (name : String) : Option String :=
  (commandLine.switches.findRev? fun entry => entry.1 == name).map Prod.snd

/-- A value that is not ASCII is read as the empty one. -/
def getSwitchValueASCII (commandLine : CommandLine) (name : String) : String :=
  let value := commandLine.getSwitchValueNative name
  if isStringASCII value then value else ""

/-- The name has no dash prefix, which `base` would take off. -/
def appendSwitchASCII (name value : String) (commandLine : CommandLine) : CommandLine where
  switches := commandLine.switches ++ [(name, value)]

def appendSwitch (name : String) (commandLine : CommandLine) : CommandLine :=
  commandLine.appendSwitchASCII name ""

def removeSwitch (name : String) (commandLine : CommandLine) : CommandLine where
  switches := commandLine.switches.filter fun entry => entry.1 != name

/-- The switches whose names are in `names`, in the order of `argv`. -/
def restrict (names : String → Bool) (commandLine : CommandLine) : List (String × String) :=
  commandLine.switches.filter fun entry => names entry.1

section Switches

variable {commandLine other : CommandLine} {name value : String} {names : String → Bool}

theorem hasSwitch_congr
    (h : commandLine.restrict (· == name) = other.restrict (· == name)) :
    commandLine.hasSwitch name = other.hasSwitch name := by
  have hany : ∀ c : CommandLine, c.hasSwitch name = !(c.restrict (· == name)).isEmpty := by
    intro c
    simp only [hasSwitch, restrict]
    induction c.switches with
    | nil => rfl
    | cons entry entries ih =>
        by_cases heq : entry.1 = name <;> simp_all
  rw [hany, hany, h]

theorem getSwitchValueNative_congr
    (h : commandLine.restrict (· == name) = other.restrict (· == name)) :
    commandLine.getSwitchValueNative name = other.getSwitchValueNative name := by
  have hlast : ∀ c : CommandLine,
      c.getSwitchValueNative name = ((c.restrict (· == name)).getLast?.map Prod.snd).getD "" := by
    intro c
    rw [getSwitchValueNative, restrict, List.findRev?_eq_find?_reverse, List.getLast?_filter]
  rw [hlast, hlast, h]

theorem getSwitchValueASCII_congr
    (h : commandLine.restrict (· == name) = other.restrict (· == name)) :
    commandLine.getSwitchValueASCII name = other.getSwitchValueASCII name := by
  rw [getSwitchValueASCII, getSwitchValueASCII, getSwitchValueNative_congr h]

theorem isStringASCII_getSwitchValueASCII (commandLine : CommandLine) (name : String) :
    isStringASCII (commandLine.getSwitchValueASCII name) = true := by
  simp only [getSwitchValueASCII]
  split
  · assumption
  · rfl

@[simp] theorem hasSwitch_appendSwitchASCII :
    (commandLine.appendSwitchASCII name value).hasSwitch name = true := by
  simp [hasSwitch, appendSwitchASCII]

@[simp] theorem getSwitchValueNative_appendSwitchASCII :
    (commandLine.appendSwitchASCII name value).getSwitchValueNative name = value := by
  simp [getSwitchValueNative, appendSwitchASCII]

theorem hasSwitch_eq : commandLine.hasSwitch name = (commandLine.lookup name).isSome := by
  simp only [hasSwitch, lookup, Option.isSome_map, List.findRev?_eq_find?_reverse,
    List.isSome_find?]
  simp

theorem getSwitchValueNative_eq :
    commandLine.getSwitchValueNative name = (commandLine.lookup name).getD "" := rfl

theorem lookup_appendSwitchASCII (name' : String) :
    (commandLine.appendSwitchASCII name value).lookup name' =
      if name' = name then some value else commandLine.lookup name' := by
  by_cases h : name' = name
  · simp [lookup, appendSwitchASCII, h]
  · simp [lookup, appendSwitchASCII, h, Ne.symm h]

theorem lookup_removeSwitch_of_ne {name' : String} (h : name' ≠ name) :
    (commandLine.removeSwitch name).lookup name' = commandLine.lookup name' := by
  simp only [lookup, removeSwitch, List.findRev?_eq_find?_reverse, ← List.filter_reverse,
    List.find?_filter]
  congr 2
  funext entry
  by_cases heq : entry.1 = name'
  · simp [heq, h]
  · simp [heq]

theorem restrict_appendSwitchASCII (h : names name = false) :
    (commandLine.appendSwitchASCII name value).restrict names = commandLine.restrict names := by
  simp [restrict, appendSwitchASCII, h]

theorem restrict_removeSwitch (h : names name = false) :
    (commandLine.removeSwitch name).restrict names = commandLine.restrict names := by
  simp only [restrict, removeSwitch, List.filter_filter]
  apply List.filter_congr
  intro entry _
  by_cases heq : entry.1 = name
  · simp [heq, h]
  · simp [heq]

end Switches

end CommandLine

/-- The names of the variables that are set. -/
abbrev Environment := List String

namespace Environment

def hasVar (environment : Environment) (name : String) : Bool := environment.contains name

def setVar (name : String) (environment : Environment) : Environment :=
  if environment.hasVar name then environment else name :: environment

end Environment

end Browserd
