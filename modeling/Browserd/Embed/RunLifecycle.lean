import Browserd.Embed.RunConfig
import Browserd.Embed.Session
import Browserd.Lib.Exec

/-!
# The calls of `browserd_run`

Any number of calls in one process, from any threads: each is at some point of its body, and its
next step is the next thing it does to the state of the process. The lifecycle is behind a lock;
the command line and the switch policy are not.
-/

namespace Browserd

open Transition

inductive EmbedRunLifecycle where
  | kNotStarted | kRunning | kStopped
  deriving DecidableEq

/-- What a call of `browserd_run` does next. In `testLifecycle`, `leaveTryBegin`, `stop` and
`leaveFinishRun` it holds the lifecycle lock. -/
inductive RunStage where
  | called
  | tryBegin
  | testLifecycle
  | leaveTryBegin (begun : Bool)
  | ensureCommandLine
  | setSwitches
  | appendSwitches
  | appendGui
  | appendUserDataDir
  | askGui
  | applyDefaults (requestedGui : Bool)
  | contentMain (gui : Option RuntimeOptions)
  | finishRun (exitCode : Int)
  | stop (exitCode : Int)
  | leaveFinishRun (exitCode : Int)
  | clearSwitches (exitCode : Int)
  | returned (code : Int)

/-- A call: `ready` holds if its callback is not null; `begun` once `TryBeginRun` has let it in. -/
structure RunCall where
  config : Option BrowserdConfig
  ready : Bool
  stage : RunStage
  begun : Bool
  readyRuns : Nat

/-- The state of the process that the calls share, and the calls in the order they came. -/
structure EmbedProcess where
  lock : Option Nat
  lifecycle : EmbedRunLifecycle
  commandLine : Option CommandLine
  environment : Environment
  policy : List EmbedderSwitch
  calls : List RunCall

/-- What `content::ContentMain` does for the call that has entered it. -/
inductive ContentEvent where
  | ready
  | appendSwitch (name value : String)
  | returns (exitCode : Int)

/-- `shutdown` is a `browserd_shutdown` of the host on the session of the running instance. -/
inductive RunEvent where
  | call (config : Option BrowserdConfig) (ready : Bool)
  | advance (call : Nat)
  | contentMain (call : Nat) (event : ContentEvent)
  | shutdown

namespace EmbedProcess

/-- A process before its first call, with the command line and the environment it came with. -/
def start (commandLine : Option CommandLine) (environment : Environment) : EmbedProcess where
  lock := none
  lifecycle := .kNotStarted
  commandLine := commandLine
  environment := environment
  policy := []
  calls := []

/-- The call at `i` goes on with `stage`. -/
def goto (i : Nat) (c : RunCall) (stage : RunStage) (s : EmbedProcess) : EmbedProcess :=
  { s with calls := s.calls.set i { c with stage := stage } }

def mapCommandLine (f : CommandLine → CommandLine) (s : EmbedProcess) : EmbedProcess :=
  { s with commandLine := s.commandLine.map f }

/-- The next step of the call `c` at `i`. -/
def advance (platform : Platform) (i : Nat) (c : RunCall) (s : EmbedProcess) :
    Option EmbedProcess :=
  match c.stage with
  | .called =>
      some (s.goto i c (if c.ready then .tryBegin else .returned EmbedSession.kScheduleRejected))
  | .tryBegin =>
      if s.lock.isSome then none else some { s.goto i c .testLifecycle with lock := some i }
  | .testLifecycle =>
      if s.lifecycle ≠ .kNotStarted then some (s.goto i c (.leaveTryBegin false))
      else
        some { s.goto i { c with begun := true } (.leaveTryBegin true) with
          lifecycle := .kRunning }
  | .leaveTryBegin begun =>
      some { s.goto i c
          (if begun then .ensureCommandLine else .returned EmbedSession.kScheduleRejected) with
        lock := none }
  | .ensureCommandLine =>
      some { s.goto i c .setSwitches with commandLine := some (s.commandLine.getD .empty) }
  | .setSwitches =>
      some { s.goto i c .appendSwitches with policy := BrowserdConfig.configSwitches c.config }
  | .appendSwitches =>
      some ((s.goto i c .appendGui).mapCommandLine (appendEmbedderSwitchesForBrowser s.policy))
  | .appendGui =>
      let s := s.goto i c .appendUserDataDir
      some (if BrowserdConfig.requestsGui c.config then
        s.mapCommandLine (.appendSwitch Startup.kGui) else s)
  | .appendUserDataDir =>
      let s := s.goto i c .askGui
      some (match BrowserdConfig.configUserDataDir c.config with
        | some dir => s.mapCommandLine (.appendSwitchASCII Startup.kUserDataDir dir)
        | none => s)
  | .askGui =>
      let asked := Startup.isGuiRequested (s.commandLine.getD .empty) s.environment true
      some { s.goto i c (.applyDefaults asked.1) with environment := asked.2 }
  | .applyDefaults requestedGui =>
      let gui :=
        if requestedGui then some (BrowserdConfig.configGuiRuntimeOptions c.config) else none
      some ((s.goto i c (.contentMain gui)).mapCommandLine
        (Startup.applyDefaultCommandLineSwitches platform requestedGui (!requestedGui)
          s.environment))
  | .contentMain _ => none
  | .finishRun exitCode =>
      if s.lock.isSome then none else some { s.goto i c (.stop exitCode) with lock := some i }
  | .stop exitCode =>
      let s := s.goto i c (.leaveFinishRun exitCode)
      some (if s.lifecycle = .kRunning then { s with lifecycle := .kStopped } else s)
  | .leaveFinishRun exitCode => some { s.goto i c (.clearSwitches exitCode) with lock := none }
  | .clearSwitches exitCode => some { s.goto i c (.returned exitCode) with policy := [] }
  | .returned _ => none

/-- What happens inside `content::ContentMain`. The ready callback is a `OnceCallback`. -/
def content (i : Nat) (c : RunCall) (s : EmbedProcess) : ContentEvent → Option EmbedProcess
  | .ready =>
      if c.readyRuns = 0 then
        some { s with calls := s.calls.set i { c with readyRuns := c.readyRuns + 1 } }
      else none
  | .appendSwitch name value => some (s.mapCommandLine (.appendSwitchASCII name value))
  | .returns exitCode => some (s.goto i c (.finishRun exitCode))

def step (platform : Platform) (s : EmbedProcess) : RunEvent → Option EmbedProcess
  | .call config ready => some { s with calls := s.calls ++ [⟨config, ready, .called, false, 0⟩] }
  | .advance i =>
      match s.calls[i]? with
      | none => none
      | some c => s.advance platform i c
  | .contentMain i event =>
      match s.calls[i]? with
      | none => none
      | some c =>
          match c.stage with
          | .contentMain _ => s.content i c event
          | _ => none
  | .shutdown =>
      if s.calls.any fun c => c.readyRuns != 0 then some { s with policy := [] } else none

end EmbedProcess

end Browserd
