import Mathlib.Algebra.Group.Nat.Defs
import Browserd.MCP.Framing
import Browserd.MCP.IPCTransport

/-!
# The clients in the history of the IPC transport

The connections that became active, the bytes each has sent and the lines dispatched since the
last activation; and what isolates the clients from each other, event by event.
-/

namespace Browserd.Posix

/-- The connections that became the active client, in order. -/
def activations (log : List IPCEvent) : List Nat :=
  log.filterMap fun | .activated c => some c | _ => none

def currentClient (log : List IPCEvent) : Option Nat :=
  (activations log).getLast?

def receivedFrom (connection : Nat) (log : List IPCEvent) : List UInt8 :=
  log.flatMap fun | .received c bytes => if c = connection then bytes else [] | _ => []

/-- The lines dispatched since the last activation. -/
def dispatchedLines (log : List IPCEvent) : List (List UInt8) :=
  log.foldl (fun lines e =>
    match e with
    | .activated _ => []
    | .dispatched line _ => lines ++ [line]
    | _ => lines) []

/-- The generation after the activations so far; the counter is a `uint64_t`. -/
def generationAfter (log : List IPCEvent) : UInt64 :=
  UInt64.ofNat (activations log).length

/-- `connection` became the active client as generation `generation`. -/
def AcceptedAs (log : List IPCEvent) (connection : Nat) (generation : UInt64) : Prop :=
  ∃ n, (activations log)[n]? = some connection ∧ UInt64.ofNat (n + 1) = generation

/-- The request was parsed from a line dispatched with its generation. -/
def Requested (json : JSONCodec) (log : List IPCEvent) (request : Request) : Prop :=
  ∃ line, .dispatched line request.clientGeneration ∈ log ∧
    parseMCPTransportLine json line = some request.message

/-- What an event may be after the events `past`. -/
def IPCEvent.Isolated (json : JSONCodec) (past : List IPCEvent) : IPCEvent → Prop
  | .dispatched line generation =>
      ∃ c, currentClient past = some c ∧ generation = generationAfter past ∧
        dispatchedLines past ++ [line] <+: (takeLines (receivedFrom c past)).1
  | .wrote connection request _ =>
      AcceptedAs past connection request.clientGeneration ∧ Requested json past request
  | _ => True

/-- Events that neither start a client nor read or dispatch its bytes. -/
def IPCEvent.isNeutral : IPCEvent → Bool
  | .activated _ => false
  | .received .. => false
  | .dispatched .. => false
  | _ => true

section Snoc

variable {log : List IPCEvent}

@[simp] theorem activations_nil : activations [] = [] := rfl

@[simp] theorem activations_activated (c : Nat) :
    activations (log ++ [.activated c]) = activations log ++ [c] := by
  simp [activations]

@[simp] theorem activations_received (c : Nat) (bytes : List UInt8) :
    activations (log ++ [.received c bytes]) = activations log := by
  simp [activations]

@[simp] theorem activations_dispatched (line : List UInt8) (generation : UInt64) :
    activations (log ++ [.dispatched line generation]) = activations log := by
  simp [activations]

theorem receivedFrom_received (c c' : Nat) (bytes : List UInt8) :
    receivedFrom c (log ++ [.received c' bytes]) =
      receivedFrom c log ++ if c' = c then bytes else [] := by
  simp [receivedFrom]

@[simp] theorem receivedFrom_activated (c c' : Nat) :
    receivedFrom c (log ++ [.activated c']) = receivedFrom c log := by
  simp [receivedFrom]

@[simp] theorem receivedFrom_dispatched (c : Nat) (line : List UInt8) (generation : UInt64) :
    receivedFrom c (log ++ [.dispatched line generation]) = receivedFrom c log := by
  simp [receivedFrom]

@[simp] theorem dispatchedLines_activated (c : Nat) :
    dispatchedLines (log ++ [.activated c]) = [] := by
  simp [dispatchedLines]

@[simp] theorem dispatchedLines_received (c : Nat) (bytes : List UInt8) :
    dispatchedLines (log ++ [.received c bytes]) = dispatchedLines log := by
  simp [dispatchedLines]

@[simp] theorem dispatchedLines_dispatched (line : List UInt8) (generation : UInt64) :
    dispatchedLines (log ++ [.dispatched line generation]) = dispatchedLines log ++ [line] := by
  simp [dispatchedLines]

theorem activations_neutral {e : IPCEvent} (he : e.isNeutral = true) :
    activations (log ++ [e]) = activations log := by
  cases e <;> simp_all [IPCEvent.isNeutral, activations]

theorem currentClient_neutral {e : IPCEvent} (he : e.isNeutral = true) :
    currentClient (log ++ [e]) = currentClient log := by
  rw [currentClient, activations_neutral he, currentClient]

theorem receivedFrom_neutral {e : IPCEvent} (he : e.isNeutral = true) (c : Nat) :
    receivedFrom c (log ++ [e]) = receivedFrom c log := by
  cases e <;> simp_all [IPCEvent.isNeutral, receivedFrom]

theorem dispatchedLines_neutral {e : IPCEvent} (he : e.isNeutral = true) :
    dispatchedLines (log ++ [e]) = dispatchedLines log := by
  cases e <;> simp_all [IPCEvent.isNeutral, dispatchedLines]

theorem Requested.snoc {json : JSONCodec} {request : Request} (h : Requested json log request)
    (e : IPCEvent) : Requested json (log ++ [e]) request := by
  obtain ⟨line, hline, hparse⟩ := h
  exact ⟨line, List.mem_append_left _ hline, hparse⟩

theorem generationAfter_activated (c : Nat) :
    generationAfter (log ++ [.activated c]) = generationAfter log + 1 := by
  simp [generationAfter]

/-- The current client was accepted as the current generation. -/
theorem acceptedAs_of_currentClient {c : Nat} (h : currentClient log = some c) :
    AcceptedAs log c (generationAfter log) := by
  have hne : activations log ≠ [] := by
    intro hnil
    simp [currentClient, hnil] at h
  have hpos := List.length_pos_iff.mpr hne
  exists (activations log).length - 1
  constructor
  · rw [← List.getLast?_eq_getElem?]
    exact h
  · rw [Nat.sub_add_cancel hpos, generationAfter]

/-- As long as the counter has not come round, a generation names one connection. -/
theorem AcceptedAs.unique {c c' : Nat} {generation : UInt64}
    (hlength : (activations log).length ≤ 2 ^ 64) (h : AcceptedAs log c generation)
    (h' : AcceptedAs log c' generation) : c' = c := by
  obtain ⟨n, hn, hgen⟩ := h
  obtain ⟨m, hm, hgen'⟩ := h'
  have hnlt := (List.getElem?_eq_some_iff.mp hn).1
  have hmlt := (List.getElem?_eq_some_iff.mp hm).1
  have hnat : (n + 1) % 2 ^ 64 = (m + 1) % 2 ^ 64 := by
    have htoNat := congrArg UInt64.toNat (hgen.trans hgen'.symm)
    simpa only [UInt64.toNat_ofNat'] using htoNat
  have heq : n = m := by omega
  subst heq
  exact Option.some.inj (hm.symm.trans hn)

end Snoc

end Browserd.Posix
