import Browserd.MCP.DescriptorLife

/-!
# Runs of an IPC server

`RunLoop` from its first line: `CreateListeningSocket` and then the transport. The socket path is
unlinked by `RequestStopLocked`, by `CreateListeningSocket` after a failed `listen`, and, when a
stale socket is there, before the path is bound.
-/

namespace Browserd.Posix

open Transition

/-- What `ProbeExistingSocket` answers; `error` also stands for a failure of the checks before. -/
inductive ExistingSocketState where
  | none
  | active
  | stale
  | invalid
  | error

/-- What `CreateListeningSocket` has done with the path and with its listener. -/
inductive CreationEvent where
  | unlinkedStale
  | opened
  | bound
  | closed
  | unlinked
  deriving DecidableEq

inductive ServerPhase where
  | probing
  | unlinkingStale
  | opening
  | binding (listenerFd : Nat)
  | listening (listenerFd : Nat)
  | failed
  | running (transport : MCPIPCTransport)

structure IPCServer where
  path : String
  creation : List CreationEvent
  phase : ServerPhase

/-- The system calls of `CreateListeningSocket` with what they return, then those of the
transport. -/
inductive ServerInput where
  | probe (existing : ExistingSocketState)
  | unlinkStale (fails : Bool)
  | socket (listenerFd : Option Nat)
  | bind (fails : Bool)
  | listen (fails : Bool)
  | transport (input : IPCInput)

namespace IPCServer

def start (path : String) : IPCServer := ⟨path, [], .probing⟩

def goto (phase : ServerPhase) (events : List CreationEvent) (server : IPCServer) : IPCServer :=
  { server with creation := server.creation ++ events, phase := phase }

def step (json : JSONCodec) (server : IPCServer) (input : ServerInput) : Option IPCServer :=
  match server.phase, input with
  | .probing, .probe .none => some (server.goto .opening [])
  | .probing, .probe .stale => some (server.goto .unlinkingStale [])
  | .probing, .probe _ => some (server.goto .failed [])
  | .unlinkingStale, .unlinkStale fails =>
      some (if fails then server.goto .failed [] else server.goto .opening [.unlinkedStale])
  | .opening, .socket none => some (server.goto .failed [])
  | .opening, .socket (some listenerFd) => some (server.goto (.binding listenerFd) [.opened])
  | .binding listenerFd, .bind fails =>
      some (if fails then server.goto .failed [.closed]
      else server.goto (.listening listenerFd) [.bound])
  | .listening listenerFd, .listen fails =>
      some (if fails then server.goto .failed [.closed, .unlinked]
      else server.goto (.running (.start listenerFd server.path)) [])
  | .running transport, .transport input =>
      (transport.step json input).map fun transport => server.goto (.running transport) []
  | _, _ => none

/-- The history of the transport. -/
def log (server : IPCServer) : List IPCEvent :=
  match server.phase with
  | .running transport => transport.log
  | _ => []

/-- The removals of the path, that of a stale socket apart. -/
def unlinks (server : IPCServer) : Nat :=
  server.creation.count .unlinked + Posix.unlinks server.log

/-- All removals of the path. -/
def allUnlinks (server : IPCServer) : Nat :=
  server.creation.count .unlinkedStale + server.unlinks

/-- A descriptor that the transport will close. -/
def Holds (transport : MCPIPCTransport) (fd : Nat) : Prop :=
  transport.activeClientFd = some fd ∨ transport.listenerFd = some fd ∨
    transport.ipcThread.Accepting fd

/-- Outside the section that accepts a client the only accepted descriptor that is open is
`active_client_fd_`; what is held to be closed is open; and at the end of `RunLoop` every socket
has been closed, once. -/
structure DescriptorLife (transport : MCPIPCTransport) : Prop where
  accepted : ∀ fd c, transport.fds fd = some (.connection c) →
    transport.activeClientFd = some fd ∨ transport.ipcThread.Accepting fd
  held : ∀ fd, Holds transport fd → transport.fds fd ≠ none
  closesAtMostOnce : ∀ socket, closes socket transport.log ≤ 1
  closed : transport.ipcThread = .returned → closes .listener transport.log = 1 ∧
    ∀ c < transport.acceptedCount, closes (.connection c) transport.log = 1

/-- The life of the descriptors and of the socket path. -/
structure Life (server : IPCServer) : Prop where
  descriptors : ∀ transport, server.phase = .running transport → DescriptorLife transport
  failed : server.phase = .failed →
    server.creation.count .closed = server.creation.count .opened
  unlinksOnce : server.unlinks ≤ 1
  unlinksBound : 0 < server.unlinks → .bound ∈ server.creation

/-- What `CreateListeningSocket` has done so far. -/
inductive Progress (json : JSONCodec) (path : String) : IPCServer → Prop
  | before (creation : List CreationEvent) (phase : ServerPhase)
      (early : phase = .probing ∨ phase = .unlinkingStale ∨ phase = .opening ∨ phase = .failed)
      (stale : ∀ event ∈ creation, event = .unlinkedStale) :
      Progress json path ⟨path, creation, phase⟩
  | opened (creation : List CreationEvent) (listenerFd : Nat)
      (stale : ∀ event ∈ creation, event = .unlinkedStale) :
      Progress json path ⟨path, creation ++ [.opened], .binding listenerFd⟩
  | bindFailed (creation : List CreationEvent)
      (stale : ∀ event ∈ creation, event = .unlinkedStale) :
      Progress json path ⟨path, creation ++ [.opened, .closed], .failed⟩
  | bound (creation : List CreationEvent) (listenerFd : Nat)
      (stale : ∀ event ∈ creation, event = .unlinkedStale) :
      Progress json path ⟨path, creation ++ [.opened, .bound], .listening listenerFd⟩
  | listenFailed (creation : List CreationEvent)
      (stale : ∀ event ∈ creation, event = .unlinkedStale) :
      Progress json path ⟨path, creation ++ [.opened, .bound, .closed, .unlinked], .failed⟩
  | running (creation : List CreationEvent) (transport : MCPIPCTransport)
      (stale : ∀ event ∈ creation, event = .unlinkedStale)
      (isolation : Isolation json transport) (descriptors : Descriptors transport) :
      Progress json path ⟨path, creation ++ [.opened, .bound], .running transport⟩

variable {json : JSONCodec} {path : String} {server next : IPCServer}

private theorem Progress.of_before {creation : List CreationEvent} {phase : ServerPhase}
    (hstale : ∀ event ∈ creation, event = .unlinkedStale) {input : ServerInput}
    (hearly : phase = .probing ∨ phase = .unlinkingStale ∨ phase = .opening ∨ phase = .failed)
    (hstep : IPCServer.step json ⟨path, creation, phase⟩ input = some next) :
    Progress json path next := by
  rcases hearly with rfl | rfl | rfl | rfl
  · cases input with
    | probe existing =>
        cases existing with
        | none =>
            obtain rfl := Option.some.inj hstep
            exact .before _ _ (.inr (.inr (.inl rfl))) (by simpa using hstale)
        | stale =>
            obtain rfl := Option.some.inj hstep
            exact .before _ _ (.inr (.inl rfl)) (by simpa using hstale)
        | _ =>
            obtain rfl := Option.some.inj hstep
            exact .before _ _ (.inr (.inr (.inr rfl))) (by simpa using hstale)
    | _ => cases hstep
  · cases input with
    | unlinkStale fails =>
        cases fails with
        | true =>
            obtain rfl := Option.some.inj hstep
            exact .before _ _ (.inr (.inr (.inr rfl))) (by simpa using hstale)
        | false =>
            obtain rfl := Option.some.inj hstep
            refine .before _ _ (.inr (.inr (.inl rfl))) ?_
            intro event hevent
            rcases List.mem_append.mp hevent with hevent | hevent
            · exact hstale event hevent
            · exact List.mem_singleton.mp hevent
    | _ => cases hstep
  · cases input with
    | socket listenerFd =>
        cases listenerFd with
        | none =>
            obtain rfl := Option.some.inj hstep
            exact .before _ _ (.inr (.inr (.inr rfl))) (by simpa using hstale)
        | some listenerFd =>
            obtain rfl := Option.some.inj hstep
            exact .opened creation listenerFd hstale
    | _ => cases hstep
  · cases input <;> cases hstep

theorem Progress.step {input : ServerInput} (h : Progress json path server)
    (hstep : server.step json input = some next) : Progress json path next := by
  cases h with
  | before creation phase early stale => exact .of_before stale early hstep
  | opened creation listenerFd stale =>
      cases input with
      | bind fails =>
          cases fails with
          | true =>
              obtain rfl := Option.some.inj hstep
              simp only [goto, List.append_assoc]
              exact .bindFailed creation stale
          | false =>
              obtain rfl := Option.some.inj hstep
              simp only [goto, List.append_assoc]
              exact .bound creation listenerFd stale
      | _ => cases hstep
  | bound creation listenerFd stale =>
      cases input with
      | listen fails =>
          cases fails with
          | true =>
              obtain rfl := Option.some.inj hstep
              simp only [goto, List.append_assoc]
              exact .listenFailed creation stale
          | false =>
              obtain rfl := Option.some.inj hstep
              simp only [goto, List.append_nil]
              exact .running creation _ stale (.start json listenerFd path)
                (.start listenerFd path)
      | _ => cases hstep
  | bindFailed creation stale => cases input <;> cases hstep
  | listenFailed creation stale => cases input <;> cases hstep
  | running creation transport stale isolation descriptors =>
      cases input with
      | transport input =>
          obtain ⟨transport', htransport, rfl⟩ := Option.map_eq_some_iff.mp hstep
          simp only [goto, List.append_nil]
          exact .running creation transport' stale (isolation.step htransport)
            (descriptors.step isolation htransport)
      | _ => cases hstep

theorem descriptorLife_of {transport : MCPIPCTransport} (hisolation : Isolation json transport)
    (h : Descriptors transport) : DescriptorLife transport where
  accepted fd c hfd := h.connection hfd
  held fd hfd := by
    rcases hfd with hfd | hfd | hfd
    · obtain ⟨c, hc, -⟩ := hisolation.client hfd
      simp [hc]
    · simp [hisolation.listener hfd]
    · have hpoint := hisolation.point
      cases hthread : transport.ipcThread with
      | activate acceptedFd ready =>
          rw [hthread] at hfd hpoint
          obtain ⟨-, c, hc, -⟩ := hpoint
          obtain rfl : acceptedFd = fd := hfd
          simp [hc]
      | closeExtraClient acceptedFd ready =>
          rw [hthread] at hfd hpoint
          obtain ⟨-, c, hc⟩ := hpoint
          obtain rfl : acceptedFd = fd := hfd
          simp [hc]
      | _ =>
          rw [hthread] at hfd
          exact hfd.elim
  closesAtMostOnce socket := by
    by_cases hopened : transport.Opened socket
    · by_cases hopen : ∃ fd, transport.fds fd = some socket
      · obtain ⟨fd, hfd⟩ := hopen
        rw [(h.isOpen hfd).2]
        exact Nat.zero_le 1
      · rw [h.isClosed hopened fun fd hfd => hopen ⟨fd, hfd⟩]
    · rw [h.unopened hopened]
      exact Nat.zero_le 1
  closed hthread := by
    obtain ⟨hactive, hlistener, -⟩ := h.returned hthread
    constructor
    · apply h.isClosed (show transport.Opened .listener from trivial)
      intro fd hfd
      have howner := h.listener hfd
      rw [hlistener] at howner
      cases howner
    · intro c hc
      apply h.isClosed (show transport.Opened (.connection c) from hc)
      intro fd hfd
      have howner := h.connection hfd
      rw [hactive, hthread] at howner
      simp [RunLoopPoint.Accepting] at howner

/-- Nothing but the removal of a stale socket comes before a listener is opened. -/
private theorem count_stale {creation : List CreationEvent}
    (hstale : ∀ event ∈ creation, event = .unlinkedStale) {event : CreationEvent}
    (hevent : event ≠ .unlinkedStale) : creation.count event = 0 := by
  rw [List.count_eq_zero]
  intro hmem
  exact hevent (hstale event hmem)

theorem Progress.life (h : Progress json path server) : server.Life := by
  cases h with
  | before creation phase early stale =>
      have hlog : IPCServer.log ⟨path, creation, phase⟩ = [] := by
        rcases early with rfl | rfl | rfl | rfl <;> rfl
      have hunlinks : IPCServer.unlinks ⟨path, creation, phase⟩ = 0 := by
        rw [unlinks, hlog, count_stale stale (by simp)]
        rfl
      constructor
      · intro transport hphase
        rcases early with rfl | rfl | rfl | rfl <;> cases hphase
      · intro _
        rw [count_stale stale (by simp), count_stale stale (by simp)]
      · omega
      · omega
  | opened creation listenerFd stale =>
      have hzero := count_stale stale (show CreationEvent.unlinked ≠ .unlinkedStale by simp)
      constructor
      · exact fun transport hphase => by cases hphase
      · exact fun hphase => by cases hphase
      · simp [unlinks, log, Posix.unlinks, hzero]
      · simp [unlinks, log, Posix.unlinks, hzero]
  | bindFailed creation stale =>
      have hzero := count_stale stale (show CreationEvent.unlinked ≠ .unlinkedStale by simp)
      constructor
      · exact fun transport hphase => by cases hphase
      · intro _
        simp [List.count_append, count_stale stale]
      · simp [unlinks, log, Posix.unlinks, hzero]
      · simp [unlinks, log, Posix.unlinks, hzero]
  | bound creation listenerFd stale =>
      have hzero := count_stale stale (show CreationEvent.unlinked ≠ .unlinkedStale by simp)
      constructor
      · exact fun transport hphase => by cases hphase
      · exact fun hphase => by cases hphase
      · simp [unlinks, log, Posix.unlinks, hzero]
      · simp
  | listenFailed creation stale =>
      have hzero := count_stale stale (show CreationEvent.unlinked ≠ .unlinkedStale by simp)
      constructor
      · exact fun transport hphase => by cases hphase
      · intro _
        simp [List.count_append, count_stale stale]
      · simp [unlinks, log, Posix.unlinks, hzero]
      · simp
  | running creation transport stale isolation descriptors =>
      have hzero := count_stale stale (show CreationEvent.unlinked ≠ .unlinkedStale by simp)
      constructor
      · intro transport' hphase
        cases hphase
        exact descriptorLife_of isolation descriptors
      · exact fun hphase => by cases hphase
      · have hpath := descriptors.path
        simp [unlinks, log, hzero]
        omega
      · simp

theorem Progress.run {inputs : List ServerInput}
    (h : Exec (Step (IPCServer.step json)) (IPCServer.start path) inputs server) :
    Progress json path server :=
  h.invariant (fun _ _ _ hs hstep => hs.step hstep)
    (.before [] .probing (.inl rfl) (by simp))

/-- The step makes a connection the active client. -/
def Activates (server next : IPCServer) : Prop :=
  ∃ c, next.log = server.log ++ [.activated c]

/-- `active_client_generation_`. -/
def generation (server : IPCServer) : UInt64 :=
  match server.phase with
  | .running transport => transport.activeClientGeneration
  | _ => 0

theorem Progress.generation_eq (h : Progress json path server) :
    server.generation = generationAfter server.log := by
  cases h with
  | before creation phase early stale => rcases early with rfl | rfl | rfl | rfl <;> rfl
  | running creation transport stale isolation descriptors => exact isolation.generation
  | _ => rfl

/-- A step that activates a client takes the next generation, until the counter comes round. -/
theorem Progress.generation_lt (h : Progress json path server) (h' : Progress json path next)
    (hactivates : Activates server next) (hcount : (activations next.log).length < 2 ^ 64) :
    server.generation < next.generation := by
  obtain ⟨c, hlog⟩ := hactivates
  have hlength : (activations next.log).length = (activations server.log).length + 1 := by
    rw [hlog, activations_activated, List.length_append, List.length_singleton]
  rw [h.generation_eq, h'.generation_eq, generationAfter, generationAfter, hlength,
    UInt64.lt_iff_toNat_lt, UInt64.toNat_ofNat', UInt64.toNat_ofNat']
  omega

end IPCServer

/-- For every run of an IPC server, whatever the order of its two threads: its descriptors and its
socket path have the life that `Life` describes, and with each activation the generation grows as
long as there have been fewer than `2 ^ 64`. -/
theorem descriptors_live_once {json : JSONCodec} {path : String} {inputs : List ServerInput}
    {server : IPCServer}
    (h : Exec (Step (IPCServer.step json)) (IPCServer.start path) inputs server) :
    server.Life ∧ ∀ input next, server.step json input = some next →
      server.Activates next → (activations next.log).length < 2 ^ 64 →
        server.generation < next.generation := by
  have hprogress := IPCServer.Progress.run h
  apply And.intro hprogress.life
  intro input next hstep hactivates hcount
  exact hprogress.generation_lt (hprogress.step hstep) hactivates hcount

section Wrap

open MCPIPCTransport

/-- The IPC thread is about to look for clients, and there is none. -/
structure AtRest (s : MCPIPCTransport) : Prop where
  listening : s.listenerFd = some 3 ∧ s.fds 3 = some .listener
  free : s.activeClientFd = none ∧ s.fds 4 = none
  stopping : s.stopping = false
  ipcThread : s.ipcThread = .isStopping
  mainThread : s.mainThread = .idle

def connecting : List IPCInput :=
  [.runLoop, .runLoop, .poll (some (true, false)), .accept (some 4)]

def leaving : List IPCInput :=
  [.runLoop, .runLoop, .runLoop, .poll (some (false, true)), .runLoop, .recv none, .runLoop]

/-- A client has been accepted and is not active yet. -/
def accepted (s : MCPIPCTransport) : MCPIPCTransport :=
  { s with
    fds := Function.update s.fds 4 (some (.connection s.acceptedCount))
    acceptedCount := s.acceptedCount + 1
    ipcThread := .activate 4 none
    log := s.log ++ [.accepted s.acceptedCount] }

variable {json : JSONCodec} {s : MCPIPCTransport}

theorem AtRest.connecting (h : AtRest s) :
    connecting.foldlM (MCPIPCTransport.step json) s = some (accepted s) := by
  obtain ⟨⟨hlistenerFd, hlistener⟩, ⟨hactive, hfree⟩, hstopping, hipc, hmain⟩ := h
  simp [Posix.connecting, List.foldlM, MCPIPCTransport.step, runLoop, locked,
    MCPIPCTransport.poll, MCPIPCTransport.accept, goto, hlistenerFd, hlistener, hactive, hfree,
    hstopping, hipc, hmain, MainPoint.holdsLock, accepted]

theorem AtRest.activate (h : AtRest s) :
    MCPIPCTransport.step json (accepted s) .runLoop = some ((accepted s).activate 4 none) := by
  simp [MCPIPCTransport.step, runLoop, accepted, locked, h.mainThread, MainPoint.holdsLock]

theorem AtRest.activated (h : AtRest s) :
    ((accepted s).activate 4 none).activeClientGeneration = s.activeClientGeneration + 1 ∧
      ((accepted s).activate 4 none).log = (accepted s).log ++ [.activated s.acceptedCount] := by
  simp [MCPIPCTransport.activate, accepted, h.free.1, connectionAt]

/-- The client has been served and closed. -/
def served (s : MCPIPCTransport) : MCPIPCTransport :=
  { s with
    fds := Function.update (Function.update s.fds 4 (some (.connection s.acceptedCount))) 4 none
    acceptedCount := s.acceptedCount + 1
    activeClientGeneration := s.activeClientGeneration + 1
    buffer := []
    log := s.log ++ [.accepted s.acceptedCount, .activated s.acceptedCount,
      .closed (.connection s.acceptedCount)] }

theorem AtRest.leaving (h : AtRest s) :
    leaving.foldlM (MCPIPCTransport.step json) ((accepted s).activate 4 none) =
      some (served s) := by
  obtain ⟨⟨hlistenerFd, hlistener⟩, ⟨hactive, hfree⟩, hstopping, hipc, hmain⟩ := h
  simp [Posix.leaving, List.foldlM, MCPIPCTransport.step, runLoop, locked, MCPIPCTransport.poll,
    MCPIPCTransport.recv, goto, hlistenerFd, hactive, hstopping, hipc, hmain, MainPoint.holdsLock,
    accepted, MCPIPCTransport.activate, MCPIPCTransport.dropClient,
    MCPIPCTransport.closeActiveClient, closeDescriptor, connectionAt, served]

theorem AtRest.served (h : AtRest s) : AtRest (served s) := by
  obtain ⟨⟨hlistenerFd, hlistener⟩, ⟨hactive, hfree⟩, hstopping, hipc, hmain⟩ := h
  refine ⟨⟨hlistenerFd, ?_⟩, ⟨hactive, ?_⟩, hstopping, hipc, hmain⟩
  · simpa [Posix.served] using hlistener
  · simp [Posix.served]

/-- A step of the transport is one of its server. -/
theorem step_transport {s t : MCPIPCTransport} {input : IPCInput} (path : String)
    (creation : List CreationEvent) (h : MCPIPCTransport.step json s input = some t) :
    IPCServer.step json ⟨path, creation, .running s⟩ (.transport input) =
      some ⟨path, creation, .running t⟩ := by
  simp [IPCServer.step, IPCServer.goto, h]

theorem exec_transport {s t : MCPIPCTransport} {inputs : List IPCInput} (path : String)
    (creation : List CreationEvent) (h : inputs.foldlM (MCPIPCTransport.step json) s = some t) :
    Exec (Step (IPCServer.step json)) ⟨path, creation, .running s⟩ (inputs.map .transport)
      ⟨path, creation, .running t⟩ := by
  have hrun := Exec.of_foldlM h
  clear h
  induction hrun with
  | nil => exact .nil _
  | cons head _ ih => exact .cons (step_transport path creation head) ih

/-- One client after the other, any number of them. -/
theorem exists_generation (json : JSONCodec) (path : String) (n : Nat) :
    ∃ inputs s, AtRest s ∧ s.activeClientGeneration = UInt64.ofNat n ∧
      Exec (Step (IPCServer.step json)) (IPCServer.start path) inputs
        ⟨path, [.opened, .bound], .running s⟩ := by
  induction n with
  | zero =>
      exists [.probe .none, .socket (some 3), .bind false, .listen false]
      exists MCPIPCTransport.start 3 path
      refine ⟨⟨⟨rfl, rfl⟩, ⟨rfl, rfl⟩, rfl, rfl, rfl⟩, rfl, ?_⟩
      exact .cons rfl (.cons rfl (.cons rfl (.cons rfl (.nil _))))
  | succ n ih =>
      obtain ⟨inputs, s, hrest, hgeneration, hrun⟩ := ih
      have hconnecting := exec_transport path [.opened, .bound] (@AtRest.connecting json s hrest)
      have hactivate := step_transport path [.opened, .bound] (@AtRest.activate json s hrest)
      have hleaving := exec_transport path [.opened, .bound] (@AtRest.leaving json s hrest)
      refine ⟨_, served s, hrest.served, ?_,
        hrun.append (hconnecting.append (.cons hactivate hleaving))⟩
      simp [served, hgeneration]

end Wrap

/-- A stale socket is at the path; one client is served and closed, another one turned away. -/
def staleSocketRun : List ServerInput :=
  [.probe .stale, .unlinkStale false, .socket (some 3), .bind false, .listen false] ++
    ([.runLoop, .runLoop, .poll (some (true, false)), .accept (some 4), .runLoop, .runLoop,
      .runLoop, .runLoop, .poll (some (true, false)), .accept (some 5), .runLoop, .runLoop,
      .runLoop, .destroy, .destructor, .destructor, .destructor, .runLoop, .runLoop] :
        List IPCInput).map ServerInput.transport

private theorem staleSocketRun_exec :
    ∃ server, Exec (Step (IPCServer.step emptyObjectJSON)) (IPCServer.start "/run/browserd.sock")
        staleSocketRun server ∧
      (server.allUnlinks, server.creation) = (2, [.unlinkedStale, .opened, .bound]) := by
  apply Exec.exists_of_foldlM
  decide +kernel

/-- A server that finds a stale socket unlinks the path twice, the first time before it has bound
it, and the counter of activations comes round. -/
theorem path_unlinked_twice :
    (¬ ∀ (json : JSONCodec) (path : String) (inputs : List ServerInput) (server : IPCServer),
      Exec (Step (IPCServer.step json)) (IPCServer.start path) inputs server →
        server.allUnlinks ≤ 1) ∧
    ¬ ∀ (json : JSONCodec) (path : String) (inputs : List ServerInput)
      (server next : IPCServer) (input : ServerInput),
      Exec (Step (IPCServer.step json)) (IPCServer.start path) inputs server →
        server.step json input = some next → server.Activates next →
          server.generation < next.generation := by
  constructor
  · intro h
    obtain ⟨server, hrun, hserver⟩ := staleSocketRun_exec
    have hunlinks := h _ _ _ server hrun
    rw [(Prod.mk.inj hserver).1] at hunlinks
    exact absurd hunlinks (by decide)
  · intro h
    obtain ⟨inputs, s, hrest, hgeneration, hrun⟩ :=
      exists_generation emptyObjectJSON "/run/browserd.sock" (2 ^ 64 - 1)
    have hconnecting := exec_transport "/run/browserd.sock" [.opened, .bound]
      (@AtRest.connecting emptyObjectJSON s hrest)
    have hactivate := step_transport "/run/browserd.sock" [.opened, .bound]
      (@AtRest.activate emptyObjectJSON s hrest)
    obtain ⟨hnext, hlog⟩ := hrest.activated
    have hlt := h _ _ _ _ _ _ (hrun.append hconnecting) hactivate ⟨s.acceptedCount, hlog⟩
    have hbefore : (accepted s).activeClientGeneration = UInt64.ofNat (2 ^ 64 - 1) := hgeneration
    simp only [IPCServer.generation, hnext, hgeneration, hbefore] at hlt
    exact absurd hlt (by decide)

/-- The run with a stale socket, of which the removal before `bind` is not counted. -/
theorem descriptors_live_once_sample :
    ∃ server, Exec (Step (IPCServer.step emptyObjectJSON)) (IPCServer.start "/run/browserd.sock")
        staleSocketRun server ∧ server.allUnlinks = 2 ∧ server.unlinks ≤ 1 := by
  obtain ⟨server, hrun, hserver⟩ := staleSocketRun_exec
  exact ⟨server, hrun, (Prod.mk.inj hserver).1, (descriptors_live_once hrun).1.unlinksOnce⟩

end Browserd.Posix
