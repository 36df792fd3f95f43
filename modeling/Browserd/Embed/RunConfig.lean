import Browserd.Embed.EmbedderSwitches
import Browserd.Runtime.GuiRuntime
import Browserd.Startup.BrowserdMain

/-!
# The configuration of a run

The structs of the C API carry their sizes, so that a host built for an earlier version of the
header gets the defaults for the fields it does not know.
-/

namespace Browserd

/-- `browserd_switch_t`. A string is `none` where its pointer is null. -/
structure BrowserdSwitch where
  size : Nat
  name : Option String
  value : Option String
  scope : UInt32

/-- `browserd_config_t`; `switches` is the array with its length. -/
structure BrowserdConfig where
  size : Nat
  gui : Bool
  userDataDir : Option String
  switches : Option (List BrowserdSwitch)
  startEmpty : Bool
  idleOnZeroTabs : Bool

namespace BrowserdConfig

/-- A field, by where it ends in the struct of a 64-bit platform. -/
def fieldPresent (config : Option BrowserdConfig) (fieldEnd : Nat) : Option BrowserdConfig :=
  config.filter fun config => decide (fieldEnd ≤ config.size)

def requestsGui (config : Option BrowserdConfig) : Bool := (fieldPresent config 5).any gui

def configUserDataDir (config : Option BrowserdConfig) : Option String :=
  (fieldPresent config 16).bind userDataDir

def configStartEmpty (config : Option BrowserdConfig) : Bool :=
  (fieldPresent config 33).any startEmpty

def configIdleOnZeroTabs (config : Option BrowserdConfig) : Bool :=
  (fieldPresent config 34).any idleOnZeroTabs

def configGuiRuntimeOptions (config : Option BrowserdConfig) : RuntimeOptions where
  createInitialTab := !configStartEmpty config
  shutdownOnZeroTabs := !configIdleOnZeroTabs config

/-- One entry of the array, unless it is left out. -/
def toEmbedderSwitch (input : BrowserdSwitch) : Option EmbedderSwitch :=
  if input.size < 28 then none
  else
    match input.name with
    | none => none
    | some name =>
        if name.isEmpty || input.scope == 0 then none else some ⟨name, input.value, input.scope⟩

def configSwitches (config : Option BrowserdConfig) : List EmbedderSwitch :=
  (((fieldPresent config 32).bind switches).getD []).filterMap toEmbedderSwitch

end BrowserdConfig

end Browserd
