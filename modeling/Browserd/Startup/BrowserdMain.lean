import Browserd.Base.CommandLine

/-!
# Startup

The defaults that browserd adds to the command line before it enters `content::ContentMain`.
-/

namespace Browserd

inductive Platform where
  | linux | mac | windows
  deriving DecidableEq

namespace Startup

def kGui : String := "gui"

def kUserDataDir : String := "user-data-dir"

def kGuiEnvironment : String := "BROWSERD_INTERNAL_GUI"

/-- What `IsGuiRequested` answers, and the environment it leaves. -/
def isGuiRequested (commandLine : CommandLine) (environment : Environment)
    (propagateToChildProcesses : Bool) : Bool × Environment :=
  let requestedGui := commandLine.hasSwitch kGui || environment.hasVar kGuiEnvironment
  if propagateToChildProcesses && commandLine.hasSwitch kGui then
    (requestedGui, environment.setVar kGuiEnvironment)
  else (requestedGui, environment)

def shouldAutoEnableGpu (platform : Platform) (requestedGui : Bool) (environment : Environment) :
    Bool :=
  if requestedGui then true
  else
    match platform with
    | .linux => environment.hasVar "DISPLAY" || environment.hasVar "WAYLAND_DISPLAY"
    | _ => true

/-- The text `value` occurs in `existing`. -/
def contains (existing value : String) : Bool :=
  existing.toList.tails.any fun rest => value.toList.isPrefixOf rest

def appendCommaSeparatedSwitchValue (name value : String) (commandLine : CommandLine) :
    CommandLine :=
  let existing := commandLine.getSwitchValueASCII name
  if contains existing value then commandLine
  else
    let existing := (if existing.isEmpty then existing else existing ++ ",") ++ value
    (commandLine.removeSwitch name).appendSwitchASCII name existing

/-- Appends a switch with its default value unless the command line has it. -/
def appendDefault (name value : String) (commandLine : CommandLine) : CommandLine :=
  if commandLine.hasSwitch name then commandLine else commandLine.appendSwitchASCII name value

def configureGuiWaylandGpu (platform : Platform) (requestedGui : Bool)
    (commandLine : CommandLine) : CommandLine :=
  if platform ≠ .linux then commandLine
  else if !requestedGui || commandLine.hasSwitch "disable-gpu" then commandLine
  else
    commandLine
      |> appendDefault "ozone-platform" "wayland"
      |> appendCommaSeparatedSwitchValue "enable-features" "UseOzonePlatform"
      |> appendCommaSeparatedSwitchValue "disable-features" "FallbackToSWIfGLES3NotSupported"
      |> CommandLine.appendSwitch "disable-gpu-compositing"
      |> CommandLine.appendSwitch "disable-accelerated-video-decode"
      |> CommandLine.appendSwitch "disable-gpu-memory-buffer-video-frames"
      |> CommandLine.appendSwitch "browserd-force-gles2-context"
      |> CommandLine.appendSwitch "browserd-disable-dawn-info"
      |> appendDefault "use-gl" "egl"
      |> appendDefault "use-cmd-decoder" "validating"

def configureGpu (platform : Platform) (requestedGui : Bool) (environment : Environment)
    (commandLine : CommandLine) : CommandLine :=
  if commandLine.hasSwitch "enable-gpu" || commandLine.hasSwitch "disable-gpu" then commandLine
  else if shouldAutoEnableGpu platform requestedGui environment then
    commandLine.appendSwitch "enable-gpu"
  else commandLine.appendSwitch "disable-gpu"

/-- `ApplyDefaultCommandLineSwitches` without arguments of the process. -/
def applyDefaultCommandLineSwitches (platform : Platform)
    (requestedGui includeHeadlessDefaults : Bool) (environment : Environment)
    (commandLine : CommandLine) : CommandLine :=
  let commandLine := commandLine
    |> configureGuiWaylandGpu platform requestedGui
    |> configureGpu platform requestedGui environment
    |> CommandLine.appendSwitch "enable-unsafe-swiftshader"
    |> CommandLine.appendSwitch "use-fake-device-for-media-stream"
  let commandLine :=
    if platform = .mac then commandLine.appendSwitch "use-mock-keychain" else commandLine
  let commandLine := appendDefault "accept-lang" "en-US,en" commandLine
  if includeHeadlessDefaults then
    appendDefault "screen-info" "\x7b0,0 3840x2160 devicePixelRatio=2 workAreaTop=50\x7d"
      commandLine
  else commandLine

end Startup

end Browserd
