import Browserd.Base.CommandLine
import Browserd.Base.Strings

/-!
# Embedder switches

The switches that the host of browserd asks for, kept in one list for the process and appended to
the command lines of the processes in their scope.
-/

namespace Browserd

structure EmbedderSwitch where
  name : String
  value : Option String
  scope : UInt32

def kSwitchScopeBrowser : UInt32 := 1

def kSwitchScopeGpuChild : UInt32 := 2

def kSwitchScopeRendererChild : UInt32 := 4

def kSwitchScopeAllChildren : UInt32 := 8

def kFallbackToSWIfGLES3NotSupported : String := "FallbackToSWIfGLES3NotSupported"

def kDisableWaylandGbmSurfaceless : String := "disable-wayland-gbm-surfaceless"

def kBrowserdForceGles2Context : String := "browserd-force-gles2-context"

def kEnableFeatures : String := "enable-features"

def kDisableFeatures : String := "disable-features"

def kProcessType : String := "type"

def kGpuProcess : String := "gpu-process"

def kRendererProcess : String := "renderer"

def isCommaMergedSwitch (name : String) : Bool :=
  name == kDisableFeatures || name == kEnableFeatures

def mergeCommaSeparatedValues (existing incoming : String) : String :=
  if existing.isEmpty then incoming
  else if incoming.isEmpty then existing
  else
    let values := (splitString incoming ',').foldl
      (fun values value => if values.contains value then values else values ++ [value])
      (splitString existing ',')
    values.foldl
      (fun merged value => (if merged.isEmpty then merged else merged ++ ",") ++ value) ""

def hasCommaSeparatedValue (commandLine : CommandLine) (name expected : String) : Bool :=
  (splitString (commandLine.getSwitchValueASCII name) ',').any (· == expected)

namespace EmbedderSwitch

/-- `AppendSwitch` of `embedder_switches.cc`. -/
def append (embedderSwitch : EmbedderSwitch) (commandLine : CommandLine) : CommandLine :=
  let name := embedderSwitch.name
  if name.isEmpty then commandLine
  else
    match embedderSwitch.value with
    | none => (commandLine.removeSwitch name).appendSwitch name
    | some value =>
        if isCommaMergedSwitch name then
          commandLine.appendSwitchASCII name
            (mergeCommaSeparatedValues (commandLine.getSwitchValueASCII name) value)
        else (commandLine.removeSwitch name).appendSwitchASCII name value

end EmbedderSwitch

def scopeForChildProcess (commandLine : CommandLine) : UInt32 :=
  let processType := commandLine.getSwitchValueASCII kProcessType
  if processType == kGpuProcess then kSwitchScopeAllChildren ||| kSwitchScopeGpuChild
  else if processType == kRendererProcess then
    kSwitchScopeAllChildren ||| kSwitchScopeRendererChild
  else kSwitchScopeAllChildren

def appendSwitchesForScope (policy : List EmbedderSwitch) (scope : UInt32)
    (commandLine : CommandLine) : CommandLine :=
  if scope == 0 then commandLine
  else
    policy.foldl
      (fun commandLine embedderSwitch =>
        if embedderSwitch.scope &&& scope != 0 then embedderSwitch.append commandLine
        else commandLine)
      commandLine

def appendDefaultGpuChildSwitches (scope : UInt32) (commandLine : CommandLine) : CommandLine :=
  if scope &&& kSwitchScopeGpuChild == 0 then commandLine
  else
    let commandLine := EmbedderSwitch.append
      ⟨kDisableWaylandGbmSurfaceless, none, kSwitchScopeGpuChild⟩ commandLine
    let commandLine := EmbedderSwitch.append
      ⟨kBrowserdForceGles2Context, none, kSwitchScopeGpuChild⟩ commandLine
    if hasCommaSeparatedValue commandLine kEnableFeatures kFallbackToSWIfGLES3NotSupported then
      commandLine
    else EmbedderSwitch.append
      ⟨kDisableFeatures, some kFallbackToSWIfGLES3NotSupported, kSwitchScopeGpuChild⟩ commandLine

def appendEmbedderSwitchesForBrowser (policy : List EmbedderSwitch) (commandLine : CommandLine) :
    CommandLine :=
  appendSwitchesForScope policy kSwitchScopeBrowser commandLine

def appendEmbedderSwitchesForChild (policy : List EmbedderSwitch) (commandLine : CommandLine) :
    CommandLine :=
  let scope := scopeForChildProcess commandLine
  appendDefaultGpuChildSwitches scope (appendSwitchesForScope policy scope commandLine)

end Browserd
