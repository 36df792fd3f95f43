import Browserd.MCP.ClientInvariant

/-!
# Isolation of IPC clients

What each step of the transport keeps, and from it, for every run: the buffer and the dispatched
lines come from the client of the current generation, and a response goes to the generation
that made the request.
-/

namespace Browserd.Posix

open Transition

namespace Isolation

open MCPIPCTransport

variable {json : JSONCodec} {s t : MCPIPCTransport}

/-- The connection of a new activation is one nothing has come from. -/
theorem activate {fd : Nat} {ready : Option Nat} (h : Isolation json s)
    (hlock : s.mainThread.holdsLock = false) (hthread : s.ipcThread = .activate fd ready) :
    Isolation json (s.activate fd ready) := by
  have hpoint := h.point
  rw [hthread] at hpoint
  obtain ⟨hne, c, hconnection, hc⟩ := hpoint
  unfold MCPIPCTransport.activate
  cases hactive : s.activeClientFd with
  | some _ =>
      apply h.goto (.closeExtraClient fd ready) ⟨hne, c, hconnection⟩
      simp
  | none =>
      have hlog : ((s.connectionAt fd).map IPCEvent.activated).toList = [.activated c] := by
        simp [connectionAt, hconnection]
      have hcurrent : currentClient (s.log ++ [.activated c]) = some c := by
        simp [currentClient]
      simp only [hlog]
      constructor
      case listener => exact h.listener
      case client =>
        intro fd' hfd'
        obtain rfl := Option.some.inj hfd'
        exact ⟨c, hconnection, hcurrent⟩
      case numbered => exact h.numbered
      case activated =>
        intro c' hc'
        simp only [activations_activated, List.mem_append, List.mem_singleton] at hc'
        rcases hc' with hc' | hc'
        · exact h.activated hc'
        · subst hc'
          exact h.numbered hconnection
      case point => trivial
      case generation => simp only [generationAfter_activated, h.generation]
      case unheard =>
        intro c' hc'
        rw [receivedFrom_activated]
        apply h.unheard
        intro hmem
        apply hc'
        simp [hmem]
      case empty => simp
      case suffix => simp
      case lines =>
        intro c' hc'
        simp [takeLines_eq, Lines.terminated_of_notMem]
      case complete =>
        intro c' hc' _
        obtain rfl : c = c' := Option.some.inj (hcurrent.symm.trans hc')
        simp [h.unheard hc, takeLines_eq, Lines.terminated_of_notMem]
      case posted =>
        intro request hr
        exact (h.posted hr).snoc _
      case sending =>
        intro request remaining hm
        simp only at hm
        simp [hm, MainPoint.holdsLock] at hlock
      case history => exact h.history.snoc trivial

/-- The number of a new connection is one that no client has had. -/
theorem accepts {fd : Nat} {ready : Option Nat} (h : Isolation json s) (hunused : s.fds fd = none) :
    Isolation json
      { s with
        fds := Function.update s.fds fd (some (.connection s.acceptedCount))
        acceptedCount := s.acceptedCount + 1
        ipcThread := .activate fd ready
        log := s.log ++ [.accepted s.acceptedCount] } := by
  have hother : ∀ fd' socket, s.fds fd' = some socket → fd' ≠ fd := by
    intro fd' socket hfd' heq
    simp [← heq, hfd'] at hunused
  have haccepted : Isolation json
      { s with
        fds := Function.update s.fds fd (some (.connection s.acceptedCount))
        acceptedCount := s.acceptedCount + 1
        ipcThread := .activate fd ready } :=
    { h with
      listener := by
        intro fd' hfd'
        have hlistener := h.listener hfd'
        simp only [Function.update_of_ne (hother fd' _ hlistener)]
        exact hlistener
      client := by
        intro fd' hfd'
        obtain ⟨c, hconnection, hc⟩ := h.client hfd'
        exists c
        simp only [Function.update_of_ne (hother fd' _ hconnection)]
        exact ⟨hconnection, hc⟩
      numbered := by
        intro fd' c hfd'
        show c < s.acceptedCount + 1
        by_cases heq : fd' = fd
        · subst heq
          have hc : s.acceptedCount = c := by simpa using hfd'
          omega
        · simp only [Function.update_of_ne heq] at hfd'
          have hc := h.numbered hfd'
          omega
      activated := by
        intro c hc
        show c < s.acceptedCount + 1
        have hlt := h.activated hc
        omega
      point := by
        constructor
        · intro hactive
          obtain ⟨c, hconnection, -⟩ := h.client hactive
          exact hother fd _ hconnection rfl
        · exists s.acceptedCount
          apply And.intro (Function.update_self ..)
          intro hc
          exact absurd (h.activated hc) (Nat.lt_irrefl _)
      complete := by
        intro c hc hreading
        apply h.complete hc
        rcases hreading with hopen | ⟨generation, heq⟩
        · exact Or.inl hopen
        · simp at heq }
  exact haccepted.neutral rfl trivial

/-- What `recv` returns comes from the current client: the descriptor is still its own. -/
theorem receives {fd c ready : Nat} {generation : UInt64} {chunk : Chunk} (h : Isolation json s)
    (hthread : s.ipcThread = .recv fd generation ready) (hconnection : s.connectionAt fd = some c) :
    Isolation json
      { s with
        buffer := s.buffer ++ chunk.bytes
        ipcThread := .dispatch generation
        log := s.log ++ [.received c chunk.bytes] } := by
  have hpoint := h.point
  rw [hthread] at hpoint
  obtain ⟨hgeneration, hfd⟩ := hpoint
  have hsocket := connectionAt_eq_some.mp hconnection
  have hactive : s.activeClientFd = some fd := by simpa [hsocket] using hfd
  have hcurrent : currentClient s.log = some c := by
    obtain ⟨c', hsocket', hc'⟩ := h.client hactive
    have heq : c = c' := by simpa [hsocket] using hsocket'
    rw [heq]
    exact hc'
  have hlines := h.complete hcurrent (Or.inl (by simp [hactive]))
  have hnow : ∀ c', currentClient (s.log ++ [.received c chunk.bytes]) = some c' → c = c' := by
    intro c' hc'
    rw [currentClient, activations_received] at hc'
    exact Option.some.inj (hcurrent.symm.trans hc')
  have htaken : takeLines (receivedFrom c (s.log ++ [.received c chunk.bytes])) =
      (dispatchedLines s.log ++ (takeLines (s.buffer ++ chunk.bytes)).1,
        (takeLines (s.buffer ++ chunk.bytes)).2) := by
    rw [receivedFrom_received, if_pos rfl, takeLines_append, hlines, takeLines_append s.buffer,
      List.append_assoc]
  constructor
  case listener => exact h.listener
  case client =>
    intro fd' hfd'
    simp only [currentClient, activations_received]
    exact h.client hfd'
  case numbered => exact h.numbered
  case activated =>
    intro c' hc'
    simp only [activations_received] at hc'
    exact h.activated hc'
  case point => exact hgeneration
  case generation =>
    simp only [generationAfter, activations_received]
    exact h.generation
  case unheard =>
    intro c' hc'
    simp only [activations_received] at hc'
    have hne : c ≠ c' := by
      intro heq
      subst heq
      exact hc' (List.mem_of_getLast? hcurrent)
    rw [receivedFrom_received, if_neg hne, List.append_nil]
    exact h.unheard hc'
  case empty =>
    intro hnone
    simp only [currentClient, activations_received] at hnone
    simp [currentClient, hnone] at hcurrent
  case suffix =>
    intro c' hc'
    obtain rfl := hnow c' hc'
    obtain ⟨earlier, hearlier⟩ := h.suffix hcurrent
    exists earlier
    rw [receivedFrom_received, if_pos rfl, ← hearlier, List.append_assoc]
  case lines =>
    intro c' hc'
    obtain rfl := hnow c' hc'
    rw [htaken, dispatchedLines_received]
  case complete =>
    intro c' hc' _
    obtain rfl := hnow c' hc'
    rw [htaken, dispatchedLines_received]
  case posted =>
    intro request hr
    exact (h.posted hr).snoc _
  case sending =>
    intro request remaining hm
    exact ⟨(h.sending hm).1.snoc _, (h.sending hm).2⟩
  case history => exact h.history.snoc trivial

theorem dropClient {fd : Nat} (h : Isolation json s) (hthread : s.ipcThread = .dropClient fd) :
    Isolation json (s.dropClient fd) := by
  have hpoint := h.point
  rw [hthread] at hpoint
  have hcleared : ∀ t : MCPIPCTransport, Isolation json t → t.activeClientFd = none →
      Isolation json { t with buffer := [], ipcThread := .isStopping } := by
    intro t ht hnone
    have hnothing : (takeLines []).1 = [] := by simp [takeLines_eq, Lines.terminated_of_notMem]
    exact
      { ht with
        point := trivial
        empty := fun _ => rfl
        suffix := fun _ => List.nil_suffix
        lines := by
          intro c hc
          rw [hnothing, List.append_nil]
          exact (List.prefix_append _ _).trans (ht.lines hc)
        complete := by
          intro c hc hreading
          rcases hreading with hopen | ⟨generation, heq⟩
          · exact absurd hnone hopen
          · simp at heq }
  unfold MCPIPCTransport.dropClient
  split
  · rename_i hactive
    apply hcleared _ h.closeActiveClient
    simp [MCPIPCTransport.closeActiveClient, hactive]
  · rename_i hactive
    exact hcleared s h (hpoint.resolve_left hactive)

/-- The next line of the buffer is the next line of the current client. -/
theorem dispatchNext {generation : UInt64} (h : Isolation json s)
    (hthread : s.ipcThread = .dispatch generation) :
    Isolation json (s.dispatchNext json generation) := by
  have hgeneration : generation = s.activeClientGeneration := by
    have hpoint := h.point
    rwa [hthread] at hpoint
  unfold MCPIPCTransport.dispatchNext
  split
  · apply h.goto .isStopping trivial
    simp
  · rename_i position hposition
    have hbuffer := takeLines_of_idxOf? hposition
    obtain ⟨c, hcurrent⟩ : ∃ c, currentClient s.log = some c := by
      cases hclient : currentClient s.log with
      | some c => exact ⟨c, rfl⟩
      | none => simp [h.empty hclient] at hposition
    generalize stripCarriageReturn (s.buffer.take position) = line at hbuffer ⊢
    generalize hrest : s.buffer.drop (position + 1) = rest at hbuffer ⊢
    have hlines := h.complete hcurrent (Or.inr ⟨generation, hthread⟩)
    rw [hbuffer, List.append_cons] at hlines
    have hnow : ∀ c', currentClient (s.log ++ [.dispatched line generation]) = some c' →
        c = c' := by
      intro c' hc'
      rw [currentClient, activations_dispatched] at hc'
      exact Option.some.inj (hcurrent.symm.trans hc')
    constructor
    case listener => exact h.listener
    case client =>
      intro fd hfd
      simp only [dispatchLine, currentClient, activations_dispatched]
      exact h.client hfd
    case numbered => exact h.numbered
    case activated =>
      intro c' hc'
      simp only [dispatchLine, activations_dispatched] at hc'
      exact h.activated hc'
    case point =>
      show PointOK _ s.ipcThread
      rw [hthread]
      exact hgeneration
    case generation =>
      simp only [dispatchLine, generationAfter, activations_dispatched]
      exact h.generation
    case unheard =>
      intro c' hc'
      simp only [dispatchLine, activations_dispatched] at hc'
      simp only [dispatchLine, receivedFrom_dispatched]
      exact h.unheard hc'
    case empty =>
      intro hnone
      simp only [dispatchLine, currentClient, activations_dispatched] at hnone
      simp [currentClient, hnone] at hcurrent
    case suffix =>
      intro c' hc'
      obtain rfl := hnow c' hc'
      simp only [dispatchLine, receivedFrom_dispatched]
      rw [← hrest]
      exact (List.drop_suffix _ _).trans (h.suffix hcurrent)
    case lines =>
      intro c' hc'
      obtain rfl := hnow c' hc'
      simp only [dispatchLine, receivedFrom_dispatched, dispatchedLines_dispatched]
      rw [hlines]
    case complete =>
      intro c' hc' _
      obtain rfl := hnow c' hc'
      simp only [dispatchLine, receivedFrom_dispatched, dispatchedLines_dispatched]
      rw [hlines]
    case posted =>
      intro request hr
      simp only [dispatchLine, List.mem_append] at hr
      rcases hr with hr | hr
      · exact (h.posted hr).snoc _
      · obtain ⟨message, hmessage, rfl⟩ := List.mem_map.mp hr
        exists line
        constructor
        · simp [dispatchLine]
        · simpa using hmessage
    case sending =>
      intro request remaining hm
      exact ⟨(h.sending hm).1.snoc _, (h.sending hm).2⟩
    case history =>
      apply h.history.snoc
      exists c
      apply And.intro hcurrent
      constructor
      · rw [hgeneration, h.generation]
      · rw [hlines]
        exact List.prefix_append _ _

/-- What is written goes to the current client, which has the generation of the request. -/
theorem wrote {fd c : Nat} {request : Request} {remaining bytes : List UInt8}
    (h : Isolation json s) (hthread : s.mainThread = .sending request remaining)
    (hactive : s.activeClientFd = some fd) (hconnection : s.connectionAt fd = some c) :
    Isolation json { s with log := s.log ++ [.wrote c request bytes] } := by
  obtain ⟨hrequest, hgeneration⟩ := h.sending hthread
  obtain ⟨c', hsocket, hcurrent⟩ := h.client hactive
  have heq : c' = c := by simpa [connectionAt, hsocket] using hconnection
  apply h.neutral rfl
  constructor
  · rw [← hgeneration, h.generation, ← heq]
    exact acceptedAs_of_currentClient hcurrent
  · exact hrequest

theorem moves {input : IPCInput} {point : RunLoopPoint} (h : Isolation json s)
    (hmoves : ThreadMoves s input point) : Isolation json (s.goto point) := by
  have hpoint := h.point
  cases hmoves with
  | reads fd ready point free active => exact h.goto _ ⟨rfl, Or.inl active⟩ (by simp)
  | recvFails fd generation ready point =>
      rw [point] at hpoint
      apply h.goto (.dropClient fd)
      · exact hpoint.2.imp_right And.left
      · simp
  | _ => exact h.goto _ trivial (by simp)

theorem closeExtraClient {fd : Nat} {ready : Option Nat} (h : Isolation json s)
    (hthread : s.ipcThread = .closeExtraClient fd ready) :
    Isolation json ((s.closeDescriptor fd).goto (.resnapshot ready)) := by
  have hpoint := h.point
  rw [hthread] at hpoint
  obtain ⟨hclient, c, hconnection⟩ := hpoint
  -- The thread has left the point before `close`, which that point would not survive.
  have hmoved := h.goto (.resnapshot ready) trivial (by simp)
  apply @closing json (s.goto (.resnapshot ready)) fd s.listenerFd s.activeClientFd hmoved
  · intro fd' hfd'
    apply And.intro hfd'
    intro heq
    simp [← heq, h.listener hfd'] at hconnection
  · intro fd' hfd'
    apply And.intro hfd'
    intro heq
    exact hclient (heq ▸ hfd')
  · trivial

theorem sendRemaining {request : Request} {remaining : List UInt8} (h : Isolation json s)
    (hrequest : Requested json s.log request)
    (hgeneration : s.activeClientGeneration = request.clientGeneration) :
    Isolation json (s.sendRemaining request remaining) :=
  { h with
    sending := by
      intro request' remaining' hm
      change (if remaining.isEmpty then MainPoint.idle else .sending request remaining) =
        .sending request' remaining' at hm
      split at hm
      · simp at hm
      · obtain ⟨rfl, -⟩ := MainPoint.sending.inj hm
        exact ⟨hrequest, hgeneration⟩ }

/-- The callback of a request is run. -/
theorem taken (index : Nat) (h : Isolation json s) :
    Isolation json { s with posted := s.posted.eraseIdx index } :=
  { h with posted := fun hr => h.posted (List.mem_of_mem_eraseIdx hr) }

/-- One case per rule; a response is only taken up under the generation of its request. -/
theorem step {input : IPCInput} (h : Isolation json s)
    (hstep : MCPIPCTransport.step json s input = some t) : Isolation json t := by
  cases IPCStep.of_step hstep with
  | moves input point moves => exact h.moves moves
  | activate fd ready point free => exact h.activate free point
  | closeExtraClient fd ready point => exact h.closeExtraClient point
  | dropClient fd point free => exact h.dropClient point
  | dispatchNext generation point => exact h.dispatchNext point
  | requestStop point free =>
      apply h.closeActiveClient.closeListener.unlinkBoundPath.goto .returned trivial
      simp
  | accepts listener fd ready point listening unused => exact h.accepts unused
  | receives fd generation ready connection chunk point client => exact h.receives point client
  | takes index response request idle posted dropped => exact h.taken index
  | responds index response request serialized idle posted active generation text =>
      have hrequested := h.posted (List.mem_of_getElem? posted)
      exact (h.taken index).sendRemaining hrequested generation
  | writes request remaining fd connection count sending active client bound =>
      obtain ⟨hrequest, hgeneration⟩ := h.sending sending
      exact (h.wrote sending active client).sendRemaining (hrequest.snoc _) hgeneration
  | retries request remaining fd sending active => exact h
  | sendFails request remaining fd sending active =>
      exact (h.mainGoto .idle (by simp)).closeActiveClient
  | destroy idle =>
      have hstopping : Isolation json { s with stopping := true } := { h with }
      exact hstopping.mainGoto .closingClient (by simp)
  | closesClient point => exact (h.mainGoto .closingListener (by simp)).closeActiveClient
  | closesListener point => exact (h.mainGoto .unlinking (by simp)).closeListener
  | unlinks point => exact (h.mainGoto .stopped (by simp)).unlinkBoundPath

theorem run {listenerFd : Nat} {path : String} {inputs : List IPCInput}
    (h : Exec (Step (MCPIPCTransport.step json)) (MCPIPCTransport.start listenerFd path) inputs s) :
    Isolation json s :=
  h.invariant (fun _ _ _ hs hstep => hs.step hstep) (start json listenerFd path)

end Isolation

/-- However the two threads interleave: the buffer holds bytes of the current client only; the
lines dispatched since it was accepted are, in order, the first lines of what it sent, and carry
its generation; and what is written for a request goes to a connection accepted as the
generation of the request, the only one until the counter comes round. -/
theorem clientIsolation {json : JSONCodec} {listenerFd : Nat} {path : String}
    {inputs : List IPCInput} {s : MCPIPCTransport}
    (h : Exec (Step (MCPIPCTransport.step json)) (MCPIPCTransport.start listenerFd path) inputs s) :
    (s.buffer ≠ [] → ∃ c, currentClient s.log = some c ∧
        AcceptedAs s.log c s.activeClientGeneration ∧ s.buffer <:+ receivedFrom c s.log) ∧
      (∀ past line generation, past ++ [.dispatched line generation] <+: s.log →
        ∃ c, currentClient past = some c ∧ AcceptedAs past c generation ∧
          dispatchedLines past ++ [line] <+: (takeLines (receivedFrom c past)).1) ∧
      ∀ past c request bytes, past ++ [.wrote c request bytes] <+: s.log →
        AcceptedAs past c request.clientGeneration ∧ Requested json past request ∧
          ((activations past).length ≤ 2 ^ 64 →
            ∀ c', AcceptedAs past c' request.clientGeneration → c' = c) := by
  have hisolation := Isolation.run h
  constructor
  · intro hbuffer
    cases hcurrent : currentClient s.log with
    | none => exact absurd (hisolation.empty hcurrent) hbuffer
    | some c =>
        exists c
        rw [hisolation.generation]
        exact ⟨rfl, acceptedAs_of_currentClient hcurrent, hisolation.suffix hcurrent⟩
  constructor
  · intro past line generation hpast
    obtain ⟨c, hcurrent, rfl, hlines⟩ := hisolation.history past _ hpast
    exact ⟨c, hcurrent, acceptedAs_of_currentClient hcurrent, hlines⟩
  · intro past c request bytes hpast
    obtain ⟨haccepted, hrequest⟩ := hisolation.history past _ hpast
    apply And.intro haccepted
    apply And.intro hrequest
    intro hlength c' haccepted'
    exact haccepted.unique hlength haccepted'

/-- The first client sends a message and the beginning of another one, and is closed when half of
the response is written; the second client gets its descriptor. -/
def twoClients : List IPCInput :=
  [.runLoop, .runLoop, .poll (some (true, false)), .accept (some 4), .runLoop, .runLoop,
    .runLoop, .runLoop, .poll (some (false, true)), .runLoop,
    .recv (some ⟨[123, 125, 10, 123], by decide, by decide⟩), .runLoop, .runLoop,
    .sendResponse 0 (some []), .send (.sent 2), .send .failed,
    .runLoop, .runLoop, .poll (some (true, false)), .accept (some 4), .runLoop, .runLoop,
    .runLoop, .runLoop, .poll (some (false, true)), .runLoop,
    .recv (some ⟨[125], by decide, by decide⟩)]

private theorem twoClients_exec :
    ∃ s, Exec (Step (MCPIPCTransport.step emptyObjectJSON))
        (MCPIPCTransport.start 3 "/run/browserd.sock") twoClients s ∧
      s.buffer = [125] ∧ currentClient s.log = some 1 := by
  have hend : ((twoClients.foldlM (MCPIPCTransport.step emptyObjectJSON)
      (MCPIPCTransport.start 3 "/run/browserd.sock")).map fun s =>
        (s.buffer, currentClient s.log)) = some ([125], some 1) := by
    decide +kernel
  obtain ⟨s, hrun, hs⟩ := Exec.exists_of_foldlM hend
  exact ⟨s, hrun, (Prod.mk.inj hs).1, (Prod.mk.inj hs).2⟩

theorem clientIsolation_sample :
    ∃ s, Exec (Step (MCPIPCTransport.step emptyObjectJSON))
        (MCPIPCTransport.start 3 "/run/browserd.sock") twoClients s ∧
      s.buffer = [125] ∧ s.buffer <:+ receivedFrom 1 s.log ∧
      ∀ past c request bytes, past ++ [.wrote c request bytes] <+: s.log →
        AcceptedAs past c request.clientGeneration := by
  obtain ⟨s, hrun, hbytes, hclient⟩ := twoClients_exec
  obtain ⟨hbuffer, -, hwrote⟩ := clientIsolation hrun
  exists s
  apply And.intro hrun
  apply And.intro hbytes
  constructor
  · obtain ⟨c, hcurrent, -, hsuffix⟩ := hbuffer (by simp [hbytes])
    obtain rfl : 1 = c := Option.some.inj (hclient.symm.trans hcurrent)
    exact hsuffix
  · intro past c request bytes hpast
    exact (hwrote past c request bytes hpast).1

end Browserd.Posix
