import Browserd.Lib.Exec

/-!
# Sessions of the embedding API

The `browserd_*` operations post a task for the controller of a session, from any thread, while
`browserd_shutdown` takes the controller away in two steps: it raises a flag and then, on the UI
thread, destroys the controller.
-/

namespace Browserd

/-- The operations of the C API. -/
inductive EmbedOperation where
  | tabList | tabNew | tabClose | resize
  | navigate | navigateBack | navigateForward | reload
  | evaluate | consoleMessages | snapshot | screenshot | waitFor
  | click | hover | type | pressKey | selectOption | drag | scroll
  | cookieList | cookieGet | cookieSet | cookieDelete | cookieClear
  deriving DecidableEq

namespace EmbedOperation

/-- The function checks a string or an options struct besides its callback. -/
def checksArguments : EmbedOperation → Bool
  | navigate | evaluate | waitFor | click | hover | type | pressKey | selectOption | drag | scroll
  | cookieList | cookieGet | cookieSet | cookieDelete => true
  | _ => false

/-- The controller runs the callback before the operation returns. -/
def reportsAtOnce : EmbedOperation → Bool
  | tabList | tabClose | resize | navigateBack | navigateForward => true
  | _ => false

end EmbedOperation

/-- `callback` holds if the callback is not null, `arguments` if what else the function checks is
in order. -/
structure EmbedCall where
  operation : EmbedOperation
  callback : Bool
  arguments : Bool

/-- A task on the UI thread. -/
inductive SessionTask where
  | controllerTask (call : Nat) (operation : EmbedOperation)
  | destroySessionController

/-- A session with the calls made on it, numbered as they come: those between the test of
`Schedule` and its `PostTask`, the callbacks that the controller holds, what the calls returned,
the callbacks that have been run, and those that their tasks have let go of. -/
structure EmbedSession where
  controller : Bool
  taskRunner : Bool
  shuttingDown : Bool
  calls : Nat
  posting : List (Nat × EmbedOperation)
  tasks : List SessionTask
  held : List Nat
  returned : List (Nat × Nat)
  ran : List Nat
  lost : List Nat

/-- `complete` is what becomes of a callback that the controller holds. -/
inductive SessionEvent where
  | call (c : EmbedCall)
  | postTask (call : Nat)
  | shutdown (onUIThread : Bool)
  | runTask
  | complete (call : Nat)

namespace EmbedSession

def kScheduleOk : Nat := 0

def kScheduleRejected : Nat := 1

/-- The session that `NotifyReady` makes. -/
def start (taskRunner : Bool) : EmbedSession where
  controller := true
  taskRunner := taskRunner
  shuttingDown := false
  calls := 0
  posting := []
  tasks := []
  held := []
  returned := []
  ran := []
  lost := []

/-- The tests of a call up to `PostTask`. -/
def rejects (s : EmbedSession) (c : EmbedCall) : Bool :=
  !c.callback || (c.operation.checksArguments && !c.arguments) ||
    s.shuttingDown || !s.controller || !s.taskRunner

def schedule (c : EmbedCall) (s : EmbedSession) : EmbedSession :=
  if s.rejects c then
    { s with calls := s.calls + 1, returned := s.returned ++ [(s.calls, kScheduleRejected)] }
  else { s with calls := s.calls + 1, posting := s.posting ++ [(s.calls, c.operation)] }

def destroySessionController (s : EmbedSession) : EmbedSession :=
  if !s.controller then s else { s with shuttingDown := true, controller := false }

/-- `browserd_shutdown`. -/
def shutdown (onUIThread : Bool) (s : EmbedSession) : EmbedSession :=
  if s.shuttingDown then s
  else
    let s := { s with shuttingDown := true }
    if !s.controller then s
    else if !s.taskRunner || onUIThread then s.destroySessionController
    else { s with tasks := s.tasks ++ [.destroySessionController] }

/-- The task that `Schedule` posts looks at the session again. -/
def controllerTask (call : Nat) (operation : EmbedOperation) (s : EmbedSession) : EmbedSession :=
  if s.shuttingDown || !s.controller then { s with lost := s.lost ++ [call] }
  else if operation.reportsAtOnce then { s with ran := s.ran ++ [call] }
  else { s with held := s.held ++ [call] }

def step (s : EmbedSession) : SessionEvent → Option EmbedSession
  | .call c => some (s.schedule c)
  | .postTask call =>
      match s.posting.find? fun entry => entry.1 == call with
      | none => none
      | some (_, operation) =>
          some { s with
            posting := s.posting.eraseP fun entry => entry.1 == call
            tasks := s.tasks ++ [.controllerTask call operation]
            returned := s.returned ++ [(call, kScheduleOk)] }
  | .shutdown onUIThread => some (s.shutdown onUIThread)
  | .runTask =>
      match s.tasks with
      | [] => none
      | .controllerTask call operation :: rest =>
          some ({ s with tasks := rest }.controllerTask call operation)
      | .destroySessionController :: rest => some { s with tasks := rest }.destroySessionController
  | .complete call =>
      if call ∈ s.held then
        some { s with held := s.held.erase call, ran := s.ran ++ [call] }
      else none

end EmbedSession

end Browserd
