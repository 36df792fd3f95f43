import Browserd.MCP.IPCTransport

/-!
# The steps of the IPC transport

What the two threads do at each of their points, one rule for each behaviour of a step with the
conditions under which it is taken.
-/

namespace Browserd.Posix

/-- A critical section of the IPC thread runs while the main thread is outside its own. -/
theorem MCPIPCTransport.locked_eq_some {s t next : MCPIPCTransport} :
    s.locked next = some t ↔ s.mainThread.holdsLock = false ∧ next = t := by
  unfold locked
  cases s.mainThread.holdsLock <;> simp

theorem MCPIPCTransport.connectionAt_eq_some {s : MCPIPCTransport} {fd c : Nat} :
    s.connectionAt fd = some c ↔ s.fds fd = some (.connection c) := by
  unfold connectionAt
  split <;> simp_all

/-- The IPC thread gets to another point and nothing else changes. -/
inductive ThreadMoves (s : MCPIPCTransport) : IPCInput → RunLoopPoint → Prop
  | stops (point : s.ipcThread = .isStopping) (free : s.mainThread.holdsLock = false)
      (stopping : s.stopping = true) : ThreadMoves s .runLoop .requestStop
  | continues (point : s.ipcThread = .isStopping) (free : s.mainThread.holdsLock = false)
      (running : s.stopping = false) : ThreadMoves s .runLoop .snapshot
  | ends (point : s.ipcThread = .snapshot) (free : s.mainThread.holdsLock = false)
      (nothing : s.listenerFd = none ∧ s.activeClientFd = none) :
      ThreadMoves s .runLoop .requestStop
  | polls (point : s.ipcThread = .snapshot) (free : s.mainThread.holdsLock = false)
      (something : ¬ (s.listenerFd = none ∧ s.activeClientFd = none)) :
      ThreadMoves s .runLoop (.poll s.listenerFd s.activeClientFd)
  | reads (fd ready : Nat) (point : s.ipcThread = .resnapshot (some ready))
      (free : s.mainThread.holdsLock = false) (active : s.activeClientFd = some fd) :
      ThreadMoves s .runLoop (.recv fd s.activeClientGeneration ready)
  | skips (ready : Option Nat) (point : s.ipcThread = .resnapshot ready)
      (free : s.mainThread.holdsLock = false)
      (nothing : s.activeClientFd = none ∨ ready = none) : ThreadMoves s .runLoop .isStopping
  | pollFails (listener client : Option Nat) (point : s.ipcThread = .poll listener client) :
      ThreadMoves s (.poll none) .isStopping
  | listenerReady (listener : Nat) (client : Option Nat) (clientReady : Bool)
      (point : s.ipcThread = .poll (some listener) client) :
      ThreadMoves s (.poll (some (true, clientReady)))
        (.accept listener (if clientReady then client else none))
  | listenerIdle (listener client : Option Nat) (listenerReady clientReady : Bool)
      (point : s.ipcThread = .poll listener client)
      (idle : listenerReady = false ∨ listener = none) :
      ThreadMoves s (.poll (some (listenerReady, clientReady)))
        (.resnapshot (if clientReady then client else none))
  | acceptFails (listener : Nat) (ready : Option Nat)
      (point : s.ipcThread = .accept listener ready) :
      ThreadMoves s (.accept none) (.resnapshot ready)
  | recvFails (fd : Nat) (generation : UInt64) (ready : Nat)
      (point : s.ipcThread = .recv fd generation ready) :
      ThreadMoves s (.recv none) (.dropClient fd)

/-- What a step does to the transport. -/
inductive IPCStep (json : JSONCodec) (s : MCPIPCTransport) : IPCInput → MCPIPCTransport → Prop
  | moves (input : IPCInput) (point : RunLoopPoint) (moves : ThreadMoves s input point) :
      IPCStep json s input (s.goto point)
  | activate (fd : Nat) (ready : Option Nat) (point : s.ipcThread = .activate fd ready)
      (free : s.mainThread.holdsLock = false) : IPCStep json s .runLoop (s.activate fd ready)
  | closeExtraClient (fd : Nat) (ready : Option Nat)
      (point : s.ipcThread = .closeExtraClient fd ready) :
      IPCStep json s .runLoop ((s.closeDescriptor fd).goto (.resnapshot ready))
  | dropClient (fd : Nat) (point : s.ipcThread = .dropClient fd)
      (free : s.mainThread.holdsLock = false) : IPCStep json s .runLoop (s.dropClient fd)
  | dispatchNext (generation : UInt64) (point : s.ipcThread = .dispatch generation) :
      IPCStep json s .runLoop (s.dispatchNext json generation)
  | requestStop (point : s.ipcThread = .requestStop) (free : s.mainThread.holdsLock = false) :
      IPCStep json s .runLoop (s.requestStopLocked.goto .returned)
  | accepts (listener fd : Nat) (ready : Option Nat) (point : s.ipcThread = .accept listener ready)
      (listening : s.fds listener = some .listener) (unused : s.fds fd = none) :
      IPCStep json s (.accept (some fd))
        { s with
          fds := Function.update s.fds fd (some (.connection s.acceptedCount))
          acceptedCount := s.acceptedCount + 1
          ipcThread := .activate fd ready
          log := s.log ++ [.accepted s.acceptedCount] }
  | receives (fd : Nat) (generation : UInt64) (ready connection : Nat) (chunk : Chunk)
      (point : s.ipcThread = .recv fd generation ready)
      (client : s.connectionAt fd = some connection) :
      IPCStep json s (.recv (some chunk))
        { s with
          buffer := s.buffer ++ chunk.bytes
          ipcThread := .dispatch generation
          log := s.log ++ [.received connection chunk.bytes] }
  | takes (index : Nat) (response : Option DictValue) (request : Request)
      (idle : s.mainThread = .idle) (posted : s.posted[index]? = some request)
      (dropped : response.bind (serializeMCPTransportMessage json) = none ∨
        s.activeClientFd = none ∨ s.activeClientGeneration ≠ request.clientGeneration) :
      IPCStep json s (.sendResponse index response) { s with posted := s.posted.eraseIdx index }
  | responds (index : Nat) (response : Option DictValue) (request : Request)
      (serialized : List UInt8) (idle : s.mainThread = .idle)
      (posted : s.posted[index]? = some request) (active : s.activeClientFd ≠ none)
      (generation : s.activeClientGeneration = request.clientGeneration)
      (text : response.bind (serializeMCPTransportMessage json) = some serialized) :
      IPCStep json s (.sendResponse index response)
        (MCPIPCTransport.sendRemaining request serialized
          { s with posted := s.posted.eraseIdx index })
  | writes (request : Request) (remaining : List UInt8) (fd connection count : Nat)
      (sending : s.mainThread = .sending request remaining) (active : s.activeClientFd = some fd)
      (client : s.connectionAt fd = some connection)
      (bound : 0 < count ∧ count ≤ remaining.length) :
      IPCStep json s (.send (.sent count))
        (MCPIPCTransport.sendRemaining request (remaining.drop count)
          { s with log := s.log ++ [.wrote connection request (remaining.take count)] })
  | retries (request : Request) (remaining : List UInt8) (fd : Nat)
      (sending : s.mainThread = .sending request remaining) (active : s.activeClientFd = some fd) :
      IPCStep json s (.send .interrupted) s
  | sendFails (request : Request) (remaining : List UInt8) (fd : Nat)
      (sending : s.mainThread = .sending request remaining) (active : s.activeClientFd = some fd) :
      IPCStep json s (.send .failed) (s.mainGoto .idle).closeActiveClient
  | destroy (idle : s.mainThread = .idle) :
      IPCStep json s .destroy ({ s with stopping := true }.mainGoto .closingClient)
  | closesClient (point : s.mainThread = .closingClient) :
      IPCStep json s .destructor (s.mainGoto .closingListener).closeActiveClient
  | closesListener (point : s.mainThread = .closingListener) :
      IPCStep json s .destructor (s.mainGoto .unlinking).closeListener
  | unlinks (point : s.mainThread = .unlinking) :
      IPCStep json s .destructor (s.mainGoto .stopped).unlinkBoundPath

namespace IPCStep

open MCPIPCTransport

variable {json : JSONCodec} {s t : MCPIPCTransport}

theorem of_runLoop (h : s.runLoop json = some t) : IPCStep json s .runLoop t := by
  unfold runLoop at h
  split at h
  case h_1 hpoint =>
    obtain ⟨hfree, rfl⟩ := locked_eq_some.mp h
    cases hstopping : s.stopping with
    | true => exact .moves _ _ (.stops hpoint hfree hstopping)
    | false => exact .moves _ _ (.continues hpoint hfree hstopping)
  case h_2 hpoint =>
    obtain ⟨hfree, rfl⟩ := locked_eq_some.mp h
    split
    · exact .moves _ _ (.ends hpoint hfree ‹_›)
    · exact .moves _ _ (.polls hpoint hfree ‹_›)
  case h_3 fd ready hpoint =>
    obtain ⟨hfree, rfl⟩ := locked_eq_some.mp h
    exact .activate fd ready hpoint hfree
  case h_4 fd ready hpoint =>
    obtain rfl := Option.some.inj h
    exact .closeExtraClient fd ready hpoint
  case h_5 readyClient hpoint =>
    obtain ⟨hfree, rfl⟩ := locked_eq_some.mp h
    cases hactive : s.activeClientFd with
    | none => exact .moves _ _ (.skips readyClient hpoint hfree (.inl hactive))
    | some fd =>
        cases readyClient with
        | none => exact .moves _ _ (.skips none hpoint hfree (.inr rfl))
        | some ready => exact .moves _ _ (.reads fd ready hpoint hfree hactive)
  case h_6 fd hpoint =>
    obtain ⟨hfree, rfl⟩ := locked_eq_some.mp h
    exact .dropClient fd hpoint hfree
  case h_7 generation hpoint =>
    obtain rfl := Option.some.inj h
    exact .dispatchNext generation hpoint
  case h_8 hpoint =>
    obtain ⟨hfree, rfl⟩ := locked_eq_some.mp h
    exact .requestStop hpoint hfree
  case h_9 => cases h

theorem of_poll {ready : Option (Bool × Bool)} (h : s.poll ready = some t) :
    IPCStep json s (.poll ready) t := by
  unfold poll at h
  split at h
  case h_1 listener client hpoint =>
    obtain rfl := Option.some.inj h
    exact .moves _ _ (.pollFails listener client hpoint)
  case h_2 listener client listenerReady clientReady hpoint =>
    simp only at h
    split at h
    · obtain rfl := Option.some.inj h
      exact .moves _ _ (.listenerReady _ client clientReady hpoint)
    · rename_i hidle
      obtain rfl := Option.some.inj h
      refine .moves _ _ (.listenerIdle listener client listenerReady clientReady hpoint ?_)
      cases listenerReady with
      | false => exact .inl rfl
      | true =>
          cases listener with
          | none => exact .inr rfl
          | some fd => exact absurd rfl (hidle fd rfl)
  case h_3 => cases h

theorem of_accept {acceptedFd : Option Nat} (h : s.accept acceptedFd = some t) :
    IPCStep json s (.accept acceptedFd) t := by
  unfold accept at h
  split at h
  case h_1 listener ready hpoint =>
    obtain rfl := Option.some.inj h
    exact .moves _ _ (.acceptFails listener ready hpoint)
  case h_2 listener ready fd hpoint =>
    split at h
    · rename_i hfree
      obtain rfl := Option.some.inj h
      exact .accepts listener fd ready hpoint hfree.1 hfree.2
    · cases h
  case h_3 => cases h

theorem of_recv {chunk : Option Chunk} (h : s.recv chunk = some t) :
    IPCStep json s (.recv chunk) t := by
  unfold recv at h
  split at h
  case h_1 fd generation ready hpoint =>
    obtain rfl := Option.some.inj h
    exact .moves _ _ (.recvFails fd generation ready hpoint)
  case h_2 fd generation ready chunk hpoint =>
    obtain ⟨connection, hclient, rfl⟩ := Option.map_eq_some_iff.mp h
    exact .receives fd generation ready connection chunk hpoint hclient
  case h_3 => cases h

theorem of_sendResponse {index : Nat} {response : Option DictValue}
    (h : s.sendResponse json index response = some t) :
    IPCStep json s (.sendResponse index response) t := by
  unfold sendResponse at h
  split at h
  case h_1 request hidle hposted =>
    simp only at h
    split at h
    · rename_i htext
      obtain rfl := Option.some.inj h
      exact .takes index response request hidle hposted (.inl htext)
    · rename_i serialized htext
      obtain rfl := Option.some.inj h
      unfold sendSerializedResponse
      split
      · exact .takes index response request hidle hposted (.inr ‹_›)
      · rename_i hsame
        rw [not_or, not_not] at hsame
        exact .responds index response request serialized hidle hposted hsame.1 hsame.2 htext
  case h_2 => cases h

theorem of_send {result : SendResult} (h : s.send result = some t) :
    IPCStep json s (.send result) t := by
  unfold send at h
  split at h
  case h_1 request remaining fd hsending hactive =>
    split at h
    case h_1 count connection hclient =>
      split at h
      · rename_i hbound
        obtain rfl := Option.some.inj h
        exact .writes request remaining fd connection count hsending hactive hclient hbound
      · cases h
    case h_2 => cases h
    case h_3 =>
      obtain rfl := Option.some.inj h
      exact .retries request remaining fd hsending hactive
    case h_4 =>
      obtain rfl := Option.some.inj h
      exact .sendFails request remaining fd hsending hactive
  case h_2 => cases h

theorem of_destructor (h : s.destructor = some t) : IPCStep json s .destructor t := by
  unfold destructor at h
  split at h
  case h_1 hpoint =>
    obtain rfl := Option.some.inj h
    exact .closesClient hpoint
  case h_2 hpoint =>
    obtain rfl := Option.some.inj h
    exact .closesListener hpoint
  case h_3 hpoint =>
    obtain rfl := Option.some.inj h
    exact .unlinks hpoint
  case h_4 => cases h

/-- Every step is by one of the rules. -/
theorem of_step {input : IPCInput} (h : s.step json input = some t) : IPCStep json s input t := by
  cases input with
  | runLoop => exact of_runLoop h
  | poll ready => exact of_poll h
  | accept acceptedFd => exact of_accept h
  | recv chunk => exact of_recv h
  | sendResponse index response => exact of_sendResponse h
  | send result => exact of_send h
  | destroy =>
      simp only [step, MCPIPCTransport.destroy] at h
      split at h
      · obtain rfl := Option.some.inj h
        exact .destroy ‹_›
      · cases h
  | destructor => exact of_destructor h

end IPCStep

end Browserd.Posix
