import Mathlib.Logic.Function.Basic
import Browserd.Lib.Exec
import Browserd.MCP.Transport

/-!
# The POSIX IPC transport

`MCPIPCTransport` after a successful start: the IPC thread in `RunLoop` and the main thread in
`SendResponse` or the destructor, one system call or critical section at a time. A connection is
known by the number of `accept` calls that succeeded before it, whatever its descriptor.
-/

namespace Browserd.Posix

/-- What an open descriptor number of the transport stands for. -/
inductive Socket where
  | listener
  | connection (number : Nat)
deriving DecidableEq

/-- A parsed line with the generation that `SendResponse` was bound to. -/
structure Request where
  message : DictValue
  clientGeneration : UInt64

inductive IPCEvent where
  | accepted (connection : Nat)
  | activated (connection : Nat)
  | received (connection : Nat) (bytes : List UInt8)
  | dispatched (line : List UInt8) (clientGeneration : UInt64)
  | wrote (connection : Nat) (request : Request) (bytes : List UInt8)
  | closed (socket : Socket)
  | unlinked (path : String)

/-- Where the IPC thread is in `RunLoop`. `readyClient` is the descriptor that made
`client_ready` true. -/
inductive RunLoopPoint where
  | isStopping
  | snapshot
  | poll (listenerSnapshot clientSnapshot : Option Nat)
  | accept (listenerSnapshot : Nat) (readyClient : Option Nat)
  | activate (acceptedFd : Nat) (readyClient : Option Nat)
  | closeExtraClient (acceptedFd : Nat) (readyClient : Option Nat)
  | resnapshot (readyClient : Option Nat)
  | recv (clientSnapshot : Nat) (clientGeneration : UInt64) (readyClient : Nat)
  | dropClient (clientSnapshot : Nat)
  | dispatch (clientGeneration : UInt64)
  | requestStop
  | returned

/-- Where the main thread is. It holds `lock_` everywhere but at `idle` and `stopped`. -/
inductive MainPoint where
  | idle
  | sending (request : Request) (remaining : List UInt8)
  | closingClient
  | closingListener
  | unlinking
  | stopped

def MainPoint.holdsLock : MainPoint → Bool
  | .idle => false
  | .stopped => false
  | _ => true

/-- The fields and the local buffer, with the descriptors that the kernel has open for the
transport, the callbacks posted to the main thread and not yet run, and the history. -/
structure MCPIPCTransport where
  fds : Nat → Option Socket
  acceptedCount : Nat
  stopping : Bool
  activeClientGeneration : UInt64
  listenerFd : Option Nat
  activeClientFd : Option Nat
  boundSocketPath : String
  buffer : List UInt8
  ipcThread : RunLoopPoint
  mainThread : MainPoint
  posted : List Request
  log : List IPCEvent

/-- What `send` reports; `interrupted` is `EINTR`. -/
inductive SendResult where
  | sent (count : Nat)
  | interrupted
  | failed

/-- Whose turn it is, with what the system call returns. `none` is a result below zero, and for
`poll` and `recv` also zero. -/
inductive IPCInput where
  | runLoop
  | poll (ready : Option (Bool × Bool))
  | accept (acceptedFd : Option Nat)
  | recv (chunk : Option Chunk)
  | sendResponse (index : Nat) (response : Option DictValue)
  | send (result : SendResult)
  | destroy
  | destructor

namespace MCPIPCTransport

/-- `RunLoop` once the listening socket is there and `started` has been signalled. -/
def start (listenerFd : Nat) (path : String) : MCPIPCTransport where
  fds := Function.update (fun _ => none) listenerFd (some .listener)
  acceptedCount := 0
  stopping := false
  activeClientGeneration := 0
  listenerFd := some listenerFd
  activeClientFd := none
  boundSocketPath := path
  buffer := []
  ipcThread := .isStopping
  mainThread := .idle
  posted := []
  log := []

def goto (point : RunLoopPoint) (s : MCPIPCTransport) : MCPIPCTransport :=
  { s with ipcThread := point }

def mainGoto (point : MainPoint) (s : MCPIPCTransport) : MCPIPCTransport :=
  { s with mainThread := point }

/-- The connection behind a descriptor number. -/
def connectionAt (fd : Nat) (s : MCPIPCTransport) : Option Nat :=
  match s.fds fd with
  | some (.connection number) => some number
  | _ => none

def closeDescriptor (fd : Nat) (s : MCPIPCTransport) : MCPIPCTransport :=
  { s with
    fds := Function.update s.fds fd none
    log := s.log ++ ((s.fds fd).map .closed).toList }

/-- `CloseFd(&active_client_fd_)`. -/
def closeActiveClient (s : MCPIPCTransport) : MCPIPCTransport :=
  match s.activeClientFd with
  | none => s
  | some fd => { s.closeDescriptor fd with activeClientFd := none }

/-- `CloseFd(&listener_fd_)`. -/
def closeListener (s : MCPIPCTransport) : MCPIPCTransport :=
  match s.listenerFd with
  | none => s
  | some fd => { s.closeDescriptor fd with listenerFd := none }

def unlinkBoundPath (s : MCPIPCTransport) : MCPIPCTransport :=
  if s.boundSocketPath.isEmpty then s
  else { s with boundSocketPath := "", log := s.log ++ [.unlinked s.boundSocketPath] }

def requestStopLocked (s : MCPIPCTransport) : MCPIPCTransport :=
  s.closeActiveClient.closeListener.unlinkBoundPath

/-- A critical section of the IPC thread can only run while the main thread is outside its own. -/
def locked (s next : MCPIPCTransport) : Option MCPIPCTransport :=
  if s.mainThread.holdsLock then none else some next

/-- The critical section after `accept`. -/
def activate (acceptedFd : Nat) (readyClient : Option Nat) (s : MCPIPCTransport) :
    MCPIPCTransport :=
  match s.activeClientFd with
  | some _ => s.goto (.closeExtraClient acceptedFd readyClient)
  | none =>
      { s with
        activeClientFd := some acceptedFd
        activeClientGeneration := s.activeClientGeneration + 1
        buffer := []
        ipcThread := .resnapshot readyClient
        log := s.log ++ ((s.connectionAt acceptedFd).map .activated).toList }

/-- The critical section after a `recv` without data, and the `buffer.clear()` that follows. -/
def dropClient (clientSnapshot : Nat) (s : MCPIPCTransport) : MCPIPCTransport :=
  { if s.activeClientFd = some clientSnapshot then s.closeActiveClient else s with
    buffer := []
    ipcThread := .isStopping }

def dispatchLine (json : JSONCodec) (line : List UInt8) (clientGeneration : UInt64)
    (s : MCPIPCTransport) : MCPIPCTransport :=
  { s with
    posted := s.posted ++
      (parseMCPTransportLine json line).toList.map fun parsed => ⟨parsed, clientGeneration⟩
    log := s.log ++ [.dispatched line clientGeneration] }

/-- One round of the loop over `buffer.find('\n')`. -/
def dispatchNext (json : JSONCodec) (clientGeneration : UInt64) (s : MCPIPCTransport) :
    MCPIPCTransport :=
  match s.buffer.idxOf? newline with
  | none => s.goto .isStopping
  | some newlinePosition =>
      dispatchLine json (stripCarriageReturn (s.buffer.take newlinePosition)) clientGeneration
        { s with buffer := s.buffer.drop (newlinePosition + 1) }

def runLoop (json : JSONCodec) (s : MCPIPCTransport) : Option MCPIPCTransport :=
  match s.ipcThread with
  | .isStopping => s.locked (s.goto (if s.stopping then .requestStop else .snapshot))
  | .snapshot =>
      s.locked <|
        if s.listenerFd = none ∧ s.activeClientFd = none then s.goto .requestStop
        else s.goto (.poll s.listenerFd s.activeClientFd)
  | .activate acceptedFd readyClient => s.locked (s.activate acceptedFd readyClient)
  | .closeExtraClient acceptedFd readyClient =>
      some ((s.closeDescriptor acceptedFd).goto (.resnapshot readyClient))
  | .resnapshot readyClient =>
      s.locked <|
        match s.activeClientFd, readyClient with
        | some clientSnapshot, some ready =>
            s.goto (.recv clientSnapshot s.activeClientGeneration ready)
        | _, _ => s.goto .isStopping
  | .dropClient clientSnapshot => s.locked (s.dropClient clientSnapshot)
  | .dispatch clientGeneration => some (s.dispatchNext json clientGeneration)
  | .requestStop => s.locked (s.requestStopLocked.goto .returned)
  | _ => none

def poll (ready : Option (Bool × Bool)) (s : MCPIPCTransport) : Option MCPIPCTransport :=
  match s.ipcThread, ready with
  | .poll _ _, none => some (s.goto .isStopping)
  | .poll listenerSnapshot clientSnapshot, some (listenerReady, clientReady) =>
      let readyClient := if clientReady then clientSnapshot else none
      match listenerReady, listenerSnapshot with
      | true, some listener => some (s.goto (.accept listener readyClient))
      | _, _ => some (s.goto (.resnapshot readyClient))
  | _, _ => none

/-- The kernel gives a connection a descriptor number that is not in use. -/
def accept (acceptedFd : Option Nat) (s : MCPIPCTransport) : Option MCPIPCTransport :=
  match s.ipcThread, acceptedFd with
  | .accept _ readyClient, none => some (s.goto (.resnapshot readyClient))
  | .accept listenerSnapshot readyClient, some fd =>
      if s.fds listenerSnapshot = some .listener ∧ s.fds fd = none then
        some { s with
          fds := Function.update s.fds fd (some (.connection s.acceptedCount))
          acceptedCount := s.acceptedCount + 1
          ipcThread := .activate fd readyClient
          log := s.log ++ [.accepted s.acceptedCount] }
      else none
  | _, _ => none

/-- Data comes from the connection that the descriptor stands for when `recv` is called. -/
def recv (chunk : Option Chunk) (s : MCPIPCTransport) : Option MCPIPCTransport :=
  match s.ipcThread, chunk with
  | .recv clientSnapshot _ _, none => some (s.goto (.dropClient clientSnapshot))
  | .recv clientSnapshot clientGeneration _, some chunk =>
      (s.connectionAt clientSnapshot).map fun connection =>
        { s with
          buffer := s.buffer ++ chunk.bytes
          ipcThread := .dispatch clientGeneration
          log := s.log ++ [.received connection chunk.bytes] }
  | _, _ => none

/-- The head of `while (!remaining.empty())`; `lock_` is released after the loop. -/
def sendRemaining (request : Request) (remaining : List UInt8) (s : MCPIPCTransport) :
    MCPIPCTransport :=
  s.mainGoto (if remaining.isEmpty then .idle else .sending request remaining)

def sendSerializedResponse (request : Request) (serialized : List UInt8) (s : MCPIPCTransport) :
    MCPIPCTransport :=
  if s.activeClientFd = none ∨ s.activeClientGeneration ≠ request.clientGeneration then s
  else s.sendRemaining request serialized

/-- The callback of one posted request is run, at whatever time. -/
def sendResponse (json : JSONCodec) (index : Nat) (response : Option DictValue)
    (s : MCPIPCTransport) : Option MCPIPCTransport :=
  match s.mainThread, s.posted[index]? with
  | .idle, some request =>
      let s := { s with posted := s.posted.eraseIdx index }
      match response.bind (serializeMCPTransportMessage json) with
      | none => some s
      | some serialized => some (s.sendSerializedResponse request serialized)
  | _, _ => none

def send (result : SendResult) (s : MCPIPCTransport) : Option MCPIPCTransport :=
  match s.mainThread, s.activeClientFd with
  | .sending request remaining, some fd =>
      match result, s.connectionAt fd with
      | .sent count, some connection =>
          if 0 < count ∧ count ≤ remaining.length then
            some (sendRemaining request (remaining.drop count)
              { s with log := s.log ++ [.wrote connection request (remaining.take count)] })
          else none
      | .sent _, _ => none
      | .interrupted, _ => some s
      | .failed, _ => some (s.mainGoto .idle).closeActiveClient
  | _, _ => none

def destroy (s : MCPIPCTransport) : Option MCPIPCTransport :=
  match s.mainThread with
  | .idle => some ({ s with stopping := true }.mainGoto .closingClient)
  | _ => none

/-- `RequestStopLocked` in the destructor, one system call after the other. -/
def destructor (s : MCPIPCTransport) : Option MCPIPCTransport :=
  match s.mainThread with
  | .closingClient => some (s.mainGoto .closingListener).closeActiveClient
  | .closingListener => some (s.mainGoto .unlinking).closeListener
  | .unlinking => some (s.mainGoto .stopped).unlinkBoundPath
  | _ => none

def step (json : JSONCodec) (s : MCPIPCTransport) : IPCInput → Option MCPIPCTransport
  | .runLoop => s.runLoop json
  | .poll ready => s.poll ready
  | .accept acceptedFd => s.accept acceptedFd
  | .recv chunk => s.recv chunk
  | .sendResponse index response => s.sendResponse json index response
  | .send result => s.send result
  | .destroy => s.destroy
  | .destructor => s.destructor

end MCPIPCTransport

end Browserd.Posix
