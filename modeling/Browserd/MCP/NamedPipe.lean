import Mathlib.Algebra.Group.Nat.Defs
import Browserd.MCP.IPCTransport

/-!
# The Windows IPC transport

`MCPIPCTransport` on Windows: one named pipe for each client, created before the client connects.
The pipe belongs to a local variable of `RunLoop` and to `active_client_handle_` at once. A pipe is
known by the number of `CreateNamedPipeW` calls that succeeded before it.
-/

namespace Browserd.Windows

open Posix (Request)

inductive IPCThread where
  | ipc
  | main
  deriving DecidableEq

inductive PipeEvent where
  | created (pipe : Nat)
  | closed (pipe : Nat) (thread : IPCThread)

/-- Where the IPC thread is in `RunLoop`. -/
inductive RunLoopPoint where
  | isStopping
  | createNamedPipe
  | activate (pipe : Nat)
  | connectNamedPipe (pipe : Nat)
  | connectFailed (pipe : Nat)
  | isStoppingClient (pipe : Nat)
  | snapshot (pipe : Nat)
  | readFile (pipe : Nat) (clientGeneration : UInt64)
  | dispatch (pipe : Nat) (clientGeneration : UInt64)
  | disconnect (pipe : Nat)
  | requestStop
  | returned
  deriving DecidableEq

/-- Where the main thread is. It holds `lock_` while it sends. -/
inductive MainPoint where
  | idle
  | sending (remaining : List UInt8)
  | stopped

def MainPoint.holdsLock : MainPoint → Bool
  | .sending _ => true
  | _ => false

structure MCPIPCTransport where
  createdCount : Nat
  stopping : Bool
  activeClientGeneration : UInt64
  activeClientHandle : Option Nat
  signaledStart : Bool
  buffer : List UInt8
  ipcThread : RunLoopPoint
  mainThread : MainPoint
  posted : List Request
  log : List PipeEvent

/-- Whose turn it is, with what the system call returns; `none` and `false` are failures. -/
inductive IPCInput where
  | runLoop
  | createNamedPipe (succeeds : Bool)
  | connectNamedPipe (connected : Bool)
  | readFile (chunk : Option Chunk)
  | sendResponse (index : Nat) (response : Option DictValue)
  | writeFile (written : Option Nat)
  | destroy

namespace MCPIPCTransport

def start : MCPIPCTransport where
  createdCount := 0
  stopping := false
  activeClientGeneration := 0
  activeClientHandle := none
  signaledStart := false
  buffer := []
  ipcThread := .isStopping
  mainThread := .idle
  posted := []
  log := []

def goto (point : RunLoopPoint) (s : MCPIPCTransport) : MCPIPCTransport :=
  { s with ipcThread := point }

/-- `CloseHandle` on a handle that may have been closed before. -/
def closeHandle (pipe : Nat) (thread : IPCThread) (s : MCPIPCTransport) : MCPIPCTransport :=
  { s with log := s.log ++ [.closed pipe thread] }

/-- `CloseHandlePtr(&active_client_handle_)`. -/
def closeActiveClient (thread : IPCThread) (s : MCPIPCTransport) : MCPIPCTransport :=
  match s.activeClientHandle with
  | none => s
  | some pipe => { s.closeHandle pipe thread with activeClientHandle := none }

/-- A critical section of the IPC thread can only run while the main thread is outside its own. -/
def locked (s next : MCPIPCTransport) : Option MCPIPCTransport :=
  if s.mainThread.holdsLock then none else some next

/-- The critical sections that close the local `pipe`, after a failed connection and at the end of a
client. -/
def closePipe (pipe : Nat) (s : MCPIPCTransport) : MCPIPCTransport :=
  if s.activeClientHandle = some pipe then s.closeActiveClient .ipc else s.closeHandle pipe .ipc

def dispatchLine (json : JSONCodec) (line : List UInt8) (clientGeneration : UInt64)
    (s : MCPIPCTransport) : MCPIPCTransport :=
  { s with
    posted := s.posted ++
      (parseMCPTransportLine json line).toList.map fun parsed => ⟨parsed, clientGeneration⟩ }

/-- One round of the loop over `buffer.find('\n')`. -/
def dispatchNext (json : JSONCodec) (pipe : Nat) (clientGeneration : UInt64)
    (s : MCPIPCTransport) : MCPIPCTransport :=
  match s.buffer.idxOf? newline with
  | none => s.goto (.isStoppingClient pipe)
  | some newlinePosition =>
      dispatchLine json (stripCarriageReturn (s.buffer.take newlinePosition)) clientGeneration
        { s with buffer := s.buffer.drop (newlinePosition + 1) }

def runLoop (json : JSONCodec) (s : MCPIPCTransport) : Option MCPIPCTransport :=
  match s.ipcThread with
  | .isStopping => s.locked (s.goto (if s.stopping then .requestStop else .createNamedPipe))
  | .activate pipe =>
      s.locked
        { s with
          activeClientHandle := some pipe
          activeClientGeneration := s.activeClientGeneration + 1
          signaledStart := true
          ipcThread := .connectNamedPipe pipe }
  | .connectFailed pipe => s.locked ((s.closePipe pipe).goto .isStopping)
  | .isStoppingClient pipe =>
      s.locked (s.goto (if s.stopping then .disconnect pipe else .snapshot pipe))
  | .snapshot pipe => s.locked (s.goto (.readFile pipe s.activeClientGeneration))
  | .dispatch pipe clientGeneration => some (s.dispatchNext json pipe clientGeneration)
  | .disconnect pipe => s.locked ((s.closePipe pipe).goto .isStopping)
  | .requestStop => s.locked ((s.closeActiveClient .ipc).goto .returned)
  | _ => none

/-- `RunLoop` returns when no pipe can be created. -/
def createNamedPipe (succeeds : Bool) (s : MCPIPCTransport) : Option MCPIPCTransport :=
  match s.ipcThread with
  | .createNamedPipe =>
      if !succeeds then some (s.goto .returned)
      else
        some { s with
          createdCount := s.createdCount + 1
          ipcThread := .activate s.createdCount
          log := s.log ++ [.created s.createdCount] }
  | _ => none

def connectNamedPipe (connected : Bool) (s : MCPIPCTransport) : Option MCPIPCTransport :=
  match s.ipcThread with
  | .connectNamedPipe pipe =>
      if !connected then some (s.goto (.connectFailed pipe))
      else some { s with buffer := [], ipcThread := .isStoppingClient pipe }
  | _ => none

def readFile (chunk : Option Chunk) (s : MCPIPCTransport) : Option MCPIPCTransport :=
  match s.ipcThread, chunk with
  | .readFile pipe _, none => some (s.goto (.disconnect pipe))
  | .readFile pipe clientGeneration, some chunk =>
      some { s with
        buffer := s.buffer ++ chunk.bytes
        ipcThread := .dispatch pipe clientGeneration }
  | _, _ => none

/-- The head of `while (remaining > 0)`; `lock_` is released after the loop. -/
def sendRemaining (remaining : List UInt8) (s : MCPIPCTransport) : MCPIPCTransport :=
  { s with mainThread := if remaining.isEmpty then .idle else .sending remaining }

/-- The size of the response is cut to a `DWORD`. -/
def sendSerializedResponse (clientGeneration : UInt64) (serialized : List UInt8)
    (s : MCPIPCTransport) : MCPIPCTransport :=
  if s.activeClientHandle = none ∨ s.activeClientGeneration ≠ clientGeneration then s
  else s.sendRemaining (serialized.take (2 ^ 32 - 1))

/-- The callback of one posted request is run, at whatever time. -/
def sendResponse (json : JSONCodec) (index : Nat) (response : Option DictValue)
    (s : MCPIPCTransport) : Option MCPIPCTransport :=
  match s.mainThread, s.posted[index]? with
  | .idle, some request =>
      let s := { s with posted := s.posted.eraseIdx index }
      match response.bind (serializeMCPTransportMessage json) with
      | none => some s
      | some serialized => some (s.sendSerializedResponse request.clientGeneration serialized)
  | _, _ => none

def writeFile (written : Option Nat) (s : MCPIPCTransport) : Option MCPIPCTransport :=
  match s.mainThread, written with
  | .sending remaining, some count =>
      if 0 < count ∧ count ≤ remaining.length then some (s.sendRemaining (remaining.drop count))
      else none
  | .sending _, none => some ({ s with mainThread := .idle }.closeActiveClient .main)
  | _, _ => none

/-- The critical section of the destructor; the destructor comes after `Start` has returned. -/
def destroy (s : MCPIPCTransport) : Option MCPIPCTransport :=
  match s.mainThread with
  | .idle =>
      if s.signaledStart then
        some ({ s with stopping := true, mainThread := .stopped }.closeActiveClient .main)
      else none
  | _ => none

def step (json : JSONCodec) (s : MCPIPCTransport) : IPCInput → Option MCPIPCTransport
  | .runLoop => s.runLoop json
  | .createNamedPipe succeeds => s.createNamedPipe succeeds
  | .connectNamedPipe connected => s.connectNamedPipe connected
  | .readFile chunk => s.readFile chunk
  | .sendResponse index response => s.sendResponse json index response
  | .writeFile written => s.writeFile written
  | .destroy => s.destroy

end MCPIPCTransport

end Browserd.Windows
