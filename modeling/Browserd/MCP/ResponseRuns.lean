import Browserd.MCP.ClientSteps
import Browserd.MCP.PipeHandles
import Browserd.MCP.ResponseWrites

/-!
# Responses over whole runs

The writes of a client among everything else that the two threads do. Seen from one client, each
step of the transport takes a response, writes a part of it, closes the client or does none of
these.
-/

namespace Browserd

open Transition (Exec Step Guarded)
open WriteLoop (Delivers Writer)

namespace Posix.MCPIPCTransport

/-- What is left of a response to the client of the generation. -/
def unwritten (generation : UInt64) : MainPoint → List UInt8
  | .sending request remaining => if request.clientGeneration = generation then remaining else []
  | _ => []

def writer (connection : Nat) (generation : UInt64) (s : MCPIPCTransport) : Writer UInt8 where
  stream := s.clientStream connection generation
  remaining := unwritten generation s.mainThread

/-- The text that a call of `SendResponse` has for the client of the generation. -/
def responseText (json : JSONCodec) (generation : UInt64) (s : MCPIPCTransport) :
    IPCInput → Option (List UInt8)
  | .sendResponse index response =>
      s.posted[index]?.bind fun request =>
        if request.clientGeneration = generation then
          response.bind (serializeMCPTransportMessage json)
        else none
  | _ => none

/-- The texts for that client over a run. -/
def responseTexts (json : JSONCodec) (generation : UInt64) (s : MCPIPCTransport) :
    List IPCInput → List (List UInt8)
  | [] => []
  | input :: later =>
      (s.responseText json generation input).toList ++
        match s.step json input with
        | some t => t.responseTexts json generation later
        | none => []

/-- The connection has been the active client, and is it as long as the generation is its own. -/
structure ClientOf (connection : Nat) (generation : UInt64) (s : MCPIPCTransport) : Prop where
  activated : connection ∈ activations s.log
  current : s.activeClientGeneration = generation ↔ currentClient s.log = some connection

/-- No other client gets the generation. -/
def keepsGeneration (generation : UInt64) (s : MCPIPCTransport) (input : IPCInput) : Prop :=
  s.activatesClient input = true → s.activeClientGeneration + 1 ≠ generation

section Frame

variable {json : JSONCodec} {s t : MCPIPCTransport} {connection : Nat} {generation : UInt64}

/-- No event but a write is one. -/
theorem wroteTo_other {log : List IPCEvent} {e : IPCEvent}
    (he : ∀ c request bytes, e ≠ .wrote c request bytes) :
    wroteTo connection (log ++ [e]) = wroteTo connection log := by
  rw [wroteTo, List.flatMap_append]
  cases e with
  | wrote c request bytes => exact absurd rfl (he c request bytes)
  | _ => exact List.append_nil _

theorem closeDescriptor_wroteTo (fd : Nat) :
    wroteTo connection (s.closeDescriptor fd).log = wroteTo connection s.log :=
  wroteTo_closed _ _ _

theorem closeActiveClient_wroteTo :
    wroteTo connection s.closeActiveClient.log = wroteTo connection s.log := by
  unfold closeActiveClient
  split
  · rfl
  · exact closeDescriptor_wroteTo _

theorem closeListener_wroteTo :
    wroteTo connection s.closeListener.log = wroteTo connection s.log := by
  unfold closeListener
  split
  · rfl
  · exact closeDescriptor_wroteTo _

theorem unlinkBoundPath_wroteTo :
    wroteTo connection s.unlinkBoundPath.log = wroteTo connection s.log := by
  unfold unlinkBoundPath
  split
  · rfl
  · exact wroteTo_other (by simp)

theorem requestStopLocked_wroteTo :
    wroteTo connection s.requestStopLocked.log = wroteTo connection s.log :=
  unlinkBoundPath_wroteTo.trans (closeListener_wroteTo.trans closeActiveClient_wroteTo)

theorem closeActiveClient_frame : s.closeActiveClient.activeClientFd = none ∧
    s.closeActiveClient.activeClientGeneration = s.activeClientGeneration ∧
    s.closeActiveClient.mainThread = s.mainThread := by
  unfold closeActiveClient
  split
  · exact ⟨‹_›, rfl, rfl⟩
  · exact ⟨rfl, rfl, rfl⟩

theorem closeListener_frame : s.closeListener.activeClientFd = s.activeClientFd ∧
    s.closeListener.activeClientGeneration = s.activeClientGeneration ∧
    s.closeListener.mainThread = s.mainThread := by
  unfold closeListener
  split <;> exact ⟨rfl, rfl, rfl⟩

theorem unlinkBoundPath_frame : s.unlinkBoundPath.activeClientFd = s.activeClientFd ∧
    s.unlinkBoundPath.activeClientGeneration = s.activeClientGeneration ∧
    s.unlinkBoundPath.mainThread = s.mainThread := by
  unfold unlinkBoundPath
  split <;> exact ⟨rfl, rfl, rfl⟩

theorem requestStopLocked_frame : s.requestStopLocked.activeClientFd = none ∧
    s.requestStopLocked.mainThread = s.mainThread := by
  constructor
  · exact unlinkBoundPath_frame.1.trans (closeListener_frame.1.trans closeActiveClient_frame.1)
  · exact unlinkBoundPath_frame.2.2.trans
      (closeListener_frame.2.2.trans closeActiveClient_frame.2.2)

/-- Only an activation makes another client the current one. -/
theorem activations_of_keeps {input : IPCInput} (h : s.step json input = some t)
    (hactivates : s.activatesClient input = false) :
    activations t.log = activations s.log := by
  cases IPCStep.of_step h with
  | activate fd ready point free =>
      cases hactive : s.activeClientFd with
      | none => simp [activatesClient, point, hactive] at hactivates
      | some active => simp [activate, hactive, goto]
  | closeExtraClient fd ready point => exact closeDescriptor_activations fd
  | dropClient fd point free =>
      simp only [dropClient]
      split
      · exact closeActiveClient_activations
      · rfl
  | dispatchNext generation point =>
      unfold dispatchNext
      split
      · rfl
      · exact activations_dispatched _ _
  | requestStop point free => exact requestStopLocked_activations
  | accepts => exact activations_neutral rfl
  | receives => exact activations_received _ _
  | writes => exact activations_neutral rfl
  | sendFails => exact closeActiveClient_activations
  | closesClient point => exact closeActiveClient_activations
  | closesListener point => exact closeListener_activations
  | unlinks point => exact unlinkBoundPath_activations
  | moves | takes | responds | retries | destroy => rfl

end Frame

section Client

variable {json : JSONCodec} {s t : MCPIPCTransport} {connection : Nat} {generation : UInt64}

/-- The connection that becomes the active client has not been it before. -/
theorem activatesClient_step {input : IPCInput} (hisolation : Isolation json s)
    (h : s.step json input = some t) (hactivates : s.activatesClient input = true) :
    ∃ c, c ∉ activations s.log ∧ t.log = s.log ++ [.activated c] ∧
      t.activeClientGeneration = s.activeClientGeneration + 1 ∧
      s.activeClientFd = none ∧ t.mainThread = s.mainThread := by
  cases IPCStep.of_step h with
  | activate fd ready point free =>
      cases hactive : s.activeClientFd with
      | some active => simp [activatesClient, point, hactive] at hactivates
      | none =>
          have hpoint := hisolation.point
          rw [point] at hpoint
          obtain ⟨-, c, hconnection, hnew⟩ := hpoint
          exact ⟨c, hnew, by simp [activate, hactive, connectionAt, hconnection],
            by simp [activate, hactive], rfl, by simp [activate, hactive]⟩
  | moves input point moves => cases moves <;> simp_all [activatesClient]
  | closeExtraClient fd ready point => simp [activatesClient, point] at hactivates
  | dropClient fd point => simp [activatesClient, point] at hactivates
  | dispatchNext generation point => simp [activatesClient, point] at hactivates
  | requestStop point => simp [activatesClient, point] at hactivates
  | _ => cases hactivates

theorem ClientOf.step {input : IPCInput} (hisolation : Isolation json s)
    (hclient : ClientOf connection generation s) (h : s.step json input = some t)
    (hkeeps : s.keepsGeneration generation input) : ClientOf connection generation t := by
  cases hactivates : s.activatesClient input with
  | false =>
      have hsame := activations_of_keeps h hactivates
      have hgeneration : t.activeClientGeneration = s.activeClientGeneration := by
        rw [(hisolation.step h).generation, hisolation.generation, generationAfter,
          generationAfter, hsame]
      refine ⟨hsame ▸ hclient.activated, ?_⟩
      rw [hgeneration, currentClient, hsame]
      exact hclient.current
  | true =>
      obtain ⟨c, hnew, hlog, hgeneration, -⟩ := activatesClient_step hisolation h hactivates
      have hother : c ≠ connection := fun heq => hnew (heq ▸ hclient.activated)
      refine ⟨?_, ?_⟩
      · rw [hlog, activations_activated]
        exact List.mem_append_left _ hclient.activated
      · rw [hlog, hgeneration, currentClient, activations_activated, List.getLast?_concat]
        exact iff_of_false (hkeeps hactivates) (by simpa using hother)

/-- The main thread writes no response to the client. -/
theorem unwritten_free (h : s.mainThread.holdsLock = false) :
    unwritten generation s.mainThread = [] := by
  cases hmain : s.mainThread with
  | sending request remaining => simp [hmain, MainPoint.holdsLock] at h
  | _ => rfl

/-- A step that leaves the client and what remains to be written to it. -/
theorem goes_stays (hwritten : wroteTo connection t.log = wroteTo connection s.log)
    (hactive : t.activeClientFd = s.activeClientFd)
    (hgeneration : t.activeClientGeneration = s.activeClientGeneration)
    (hmain : unwritten generation t.mainThread = unwritten generation s.mainThread) :
    Writer.Goes (s.writer connection generation) none (t.writer connection generation) := by
  have hsame : t.writer connection generation = s.writer connection generation := by
    simp only [writer, clientStream, hwritten, hactive, hgeneration, hmain]
  rw [hsame]
  exact .stays

/-- A step after which there is no client. -/
theorem goes_closes (hwritten : wroteTo connection t.log = wroteTo connection s.log)
    (hactive : t.activeClientFd = none) (hmain : unwritten generation t.mainThread = []) :
    Writer.Goes (s.writer connection generation) none (t.writer connection generation) := by
  have hclosed : t.writer connection generation =
      ⟨⟨wroteTo connection s.log, true⟩, []⟩ := by
    simp [writer, clientStream, hwritten, hactive, hmain]
  rw [hclosed]
  exact .closes

theorem writer_of_open (hactive : s.activeClientFd ≠ none)
    (hgeneration : s.activeClientGeneration = generation) :
    s.writer connection generation =
      ⟨⟨wroteTo connection s.log, false⟩, unwritten generation s.mainThread⟩ := by
  simp [writer, clientStream, hactive, hgeneration]

theorem unwritten_sendRemaining (request : Request) (remaining : List UInt8) :
    unwritten generation (s.sendRemaining request remaining).mainThread =
      if request.clientGeneration = generation then remaining else [] := by
  simp only [sendRemaining, mainGoto]
  split
  · rename_i hempty
    simp [unwritten, List.isEmpty_iff.mp hempty]
  · rfl

theorem writer_sendRemaining {request : Request} {remaining : List UInt8}
    (hactive : s.activeClientFd ≠ none) (hgeneration : s.activeClientGeneration = generation)
    (hrequest : request.clientGeneration = generation) :
    (s.sendRemaining request remaining).writer connection generation =
      ⟨⟨wroteTo connection s.log, false⟩, remaining⟩ := by
  have hopen : (s.sendRemaining request remaining).writer connection generation =
      ⟨⟨wroteTo connection s.log, false⟩,
        unwritten generation (s.sendRemaining request remaining).mainThread⟩ :=
    writer_of_open hactive hgeneration
  rwa [unwritten_sendRemaining, if_pos hrequest] at hopen

/-- A part of a response is written: to the client, or to another one. -/
theorem goes_writes {request : Request} {remaining : List UInt8} {fd c count : Nat}
    (hisolation : Isolation json s) (hclient : ClientOf connection generation s)
    (hsending : s.mainThread = .sending request remaining) (hactive : s.activeClientFd = some fd)
    (hconnection : s.connectionAt fd = some c) :
    Writer.Goes (s.writer connection generation) none
      ((sendRemaining request (remaining.drop count)
        { s with log := s.log ++ [.wrote c request (remaining.take count)] }).writer connection
          generation) := by
  have hrequest := (hisolation.sending hsending).2
  have hcurrent : currentClient s.log = some c := by
    obtain ⟨c', hfd, hcurrent⟩ := hisolation.client hactive
    obtain rfl : c = c' := by
      simpa using (connectionAt_eq_some.mp hconnection).symm.trans hfd
    exact hcurrent
  by_cases hgeneration : request.clientGeneration = generation
  · obtain rfl : c = connection := by
      have hown := hclient.current.mp (hrequest.trans hgeneration)
      simpa using hcurrent.symm.trans hown
    have hsome : s.activeClientFd ≠ none := by simp [hactive]
    have hown := hrequest.trans hgeneration
    have hbefore : s.writer c generation = ⟨⟨wroteTo c s.log, false⟩, remaining⟩ := by
      rw [writer_of_open hsome hown, hsending, unwritten, if_pos hgeneration]
    rw [hbefore, writer_sendRemaining, wroteTo_wrote]
    · exact .writes _ _ (List.take_append_drop count remaining).symm rfl
    · exact hsome
    · exact hown
    · exact hgeneration
  · have hother : c ≠ connection := by
      intro heq
      exact hgeneration (hrequest.symm.trans (hclient.current.mpr (heq ▸ hcurrent)))
    refine goes_stays ?_ rfl rfl ?_
    · simp [sendRemaining, mainGoto, wroteTo, hother]
    · rw [unwritten_sendRemaining, hsending, unwritten, if_neg hgeneration, if_neg hgeneration]

/-- Another client becomes the active one, or the connection is an extra one. -/
theorem goes_activates {fd : Nat} {ready : Option Nat} (hisolation : Isolation json s)
    (h : s.step json .runLoop = some (s.activate fd ready))
    (hpoint : s.ipcThread = .activate fd ready) (hkeeps : s.keepsGeneration generation .runLoop) :
    Writer.Goes (s.writer connection generation) none
      ((s.activate fd ready).writer connection generation) := by
  cases hactive : s.activeClientFd with
  | some active =>
      rw [activate, hactive]
      exact goes_stays rfl rfl rfl rfl
  | none =>
      have hactivates : s.activatesClient .runLoop = true := by
        simp [activatesClient, hpoint, hactive]
      obtain ⟨c, -, hlog, hgeneration, -, hmain⟩ := activatesClient_step hisolation h hactivates
      have hother := hkeeps hactivates
      have hwritten : wroteTo connection (s.activate fd ready).log =
          wroteTo connection s.log := by
        rw [hlog]
        exact wroteTo_other (by simp)
      have hsame : (s.activate fd ready).writer connection generation =
          s.writer connection generation := by
        simp [writer, clientStream, hwritten, hgeneration, hactive, hmain, hother]
      rw [hsame]
      exact .stays

theorem goes_dropsClient {fd : Nat} (hfree : s.mainThread.holdsLock = false) :
    Writer.Goes (s.writer connection generation) none
      ((s.dropClient fd).writer connection generation) := by
  by_cases hactive : s.activeClientFd = some fd
  · have hdrop : s.dropClient fd =
        { s.closeActiveClient with buffer := [], ipcThread := .isStopping } := by
      simp [dropClient, hactive]
    have hmain : unwritten generation s.closeActiveClient.mainThread = [] := by
      rw [closeActiveClient_frame.2.2]
      exact unwritten_free hfree
    rw [hdrop]
    exact goes_closes closeActiveClient_wroteTo closeActiveClient_frame.1 hmain
  · refine goes_stays ?_ ?_ ?_ ?_ <;> simp [dropClient, hactive]

/-- A response that goes to no one has no client, or that of another request. -/
theorem goes_drops {index : Nat} {response : Option DictValue} {request : Request}
    (hposted : s.posted[index]? = some request)
    (hdropped : response.bind (serializeMCPTransportMessage json) = none ∨
      s.activeClientFd = none ∨ s.activeClientGeneration ≠ request.clientGeneration) :
    Writer.Goes (s.writer connection generation)
      (s.responseText json generation (.sendResponse index response))
      (({ s with posted := s.posted.eraseIdx index } : MCPIPCTransport).writer connection
        generation) := by
  have hsame : ({ s with posted := s.posted.eraseIdx index } : MCPIPCTransport).writer
      connection generation = s.writer connection generation := rfl
  rw [hsame]
  cases hlabel : s.responseText json generation (.sendResponse index response) with
  | none => exact .stays
  | some text =>
      apply Writer.Goes.drops text
      simp only [responseText, hposted, Option.bind_some] at hlabel
      split at hlabel
      · rename_i hrequest
        rw [hlabel, hrequest] at hdropped
        simpa [writer, clientStream] using hdropped
      · cases hlabel

/-- The response of a request of the active client is taken. -/
theorem goes_takes {index : Nat} {response : Option DictValue} {request : Request}
    {serialized : List UInt8} (hidle : s.mainThread = .idle)
    (hposted : s.posted[index]? = some request) (hactive : s.activeClientFd ≠ none)
    (hgeneration : s.activeClientGeneration = request.clientGeneration)
    (htext : response.bind (serializeMCPTransportMessage json) = some serialized) :
    Writer.Goes (s.writer connection generation)
      (s.responseText json generation (.sendResponse index response))
      ((sendRemaining request serialized
        { s with posted := s.posted.eraseIdx index }).writer connection generation) := by
  have hmain : unwritten generation s.mainThread = [] := by
    rw [hidle]
    rfl
  by_cases hrequest : request.clientGeneration = generation
  · have hlabel : s.responseText json generation (.sendResponse index response) =
        some serialized := by
      simp [responseText, hposted, hrequest, htext]
    have hown := hgeneration.trans hrequest
    rw [hlabel, writer_of_open hactive hown, hmain, writer_sendRemaining]
    · exact .takes serialized rfl rfl
    · exact hactive
    · exact hown
    · exact hrequest
  · have hlabel : s.responseText json generation (.sendResponse index response) = none := by
      simp [responseText, hposted, hrequest]
    rw [hlabel]
    refine goes_stays rfl rfl rfl ?_
    rw [unwritten_sendRemaining, hmain, if_neg hrequest]

/-- The main thread closes the client. -/
theorem goes_closesClient {point : MainPoint} (hpoint : unwritten generation point = []) :
    Writer.Goes (s.writer connection generation) none
      ((s.mainGoto point).closeActiveClient.writer connection generation) := by
  refine goes_closes closeActiveClient_wroteTo closeActiveClient_frame.1 ?_
  rw [closeActiveClient_frame.2.2]
  exact hpoint

/-- Each step is one of the calls of a writer. -/
theorem step_goes {input : IPCInput} (hisolation : Isolation json s)
    (hclient : ClientOf connection generation s) (h : s.step json input = some t)
    (hkeeps : s.keepsGeneration generation input) :
    Writer.Goes (s.writer connection generation) (s.responseText json generation input)
      (t.writer connection generation) := by
  cases IPCStep.of_step h with
  | moves input point moves =>
      have hlabel : s.responseText json generation input = none := by
        cases moves <;> rfl
      rw [hlabel]
      exact goes_stays rfl rfl rfl rfl
  | activate fd ready point free => exact goes_activates hisolation h point hkeeps
  | closeExtraClient fd ready point =>
      exact goes_stays (closeDescriptor_wroteTo fd) rfl rfl rfl
  | dropClient fd point free => exact goes_dropsClient free
  | dispatchNext generation' point =>
      unfold dispatchNext
      split
      · exact goes_stays rfl rfl rfl rfl
      · exact goes_stays (wroteTo_other (by simp)) rfl rfl rfl
  | requestStop point free =>
      have hmain : unwritten generation s.requestStopLocked.mainThread = [] := by
        rw [requestStopLocked_frame.2]
        exact unwritten_free free
      exact goes_closes requestStopLocked_wroteTo requestStopLocked_frame.1 hmain
  | accepts listener fd ready point listening unused =>
      exact goes_stays (wroteTo_other (by simp)) rfl rfl rfl
  | receives fd generation' ready c chunk point client =>
      exact goes_stays (wroteTo_other (by simp)) rfl rfl rfl
  | takes index response request idle posted dropped => exact goes_drops posted dropped
  | responds index response request serialized idle posted active hgeneration text =>
      exact goes_takes idle posted active hgeneration text
  | writes request remaining fd c count sending active client bound =>
      exact goes_writes hisolation hclient sending active client
  | retries request remaining fd sending active => exact .stays
  | sendFails request remaining fd sending active => exact goes_closesClient rfl
  | destroy idle => exact goes_stays rfl rfl rfl (by simp [unwritten, mainGoto, idle])
  | closesClient point => exact goes_closesClient rfl
  | closesListener point =>
      obtain ⟨hactive, hgeneration, hmain⟩ := @closeListener_frame (s.mainGoto .unlinking)
      refine goes_stays closeListener_wroteTo hactive hgeneration ?_
      rw [hmain, point]
      rfl
  | unlinks point =>
      obtain ⟨hactive, hgeneration, hmain⟩ := @unlinkBoundPath_frame (s.mainGoto .stopped)
      refine goes_stays unlinkBoundPath_wroteTo hactive hgeneration ?_
      rw [hmain, point]
      rfl

theorem run_goes {inputs : List IPCInput} (hisolation : Isolation json s)
    (hclient : ClientOf connection generation s)
    (hrun : Exec (Guarded (Step (step json)) (keepsGeneration generation)) s inputs t) :
    ∃ labels, Exec Writer.Goes (s.writer connection generation) labels
        (t.writer connection generation) ∧
      labels.filterMap id = s.responseTexts json generation inputs := by
  induction hrun with
  | nil s => exact ⟨[], .nil _, rfl⟩
  | @cons s next t input inputs head tail ih =>
      have hstep : s.step json input = some next := head.1
      obtain ⟨labels, hlabels, htexts⟩ :=
        ih (hisolation.step hstep) (hclient.step hisolation hstep head.2)
      refine ⟨_, .cons (step_goes hisolation hclient hstep head.2) hlabels, ?_⟩
      rw [responseTexts, hstep]
      dsimp only
      rw [← htexts]
      cases s.responseText json generation input with
      | none => rfl
      | some text => rfl

/-- Between two calls of the main thread the client has got the responses as the loops deliver
them. -/
theorem run_reads {inputs : List IPCInput} (hisolation : Isolation json s) {fd : Nat}
    (hactive : s.activeClientFd = some fd) (hconnection : s.connectionAt fd = some connection)
    (hgeneration : s.activeClientGeneration = generation) (hidle : s.mainThread.holdsLock = false)
    (hrun : Exec (Guarded (Step (step json)) (keepsGeneration generation)) s inputs t)
    (hreturned : t.mainThread.holdsLock = false) :
    WriteLoop.Reads (s.responseTexts json generation inputs)
      (s.clientStream connection generation) (t.clientStream connection generation) := by
  have hcurrent : currentClient s.log = some connection := by
    obtain ⟨c, hfd, hcurrent⟩ := hisolation.client hactive
    obtain rfl : connection = c := by
      simpa using (connectionAt_eq_some.mp hconnection).symm.trans hfd
    exact hcurrent
  have hclient : ClientOf connection generation s :=
    ⟨List.mem_of_getLast? hcurrent, iff_of_true hgeneration hcurrent⟩
  obtain ⟨labels, hlabels, htexts⟩ := run_goes hisolation hclient hrun
  rw [← htexts]
  refine Writer.reads hlabels ?_ (unwritten_free hidle) (unwritten_free hreturned)
  simp [writer, clientStream, hactive, hgeneration]

end Client

end Posix.MCPIPCTransport

namespace Windows.MCPIPCTransport

/-- A step with the bytes that the client of the generation has been written. -/
def clientStep (json : JSONCodec) (generation : UInt64) (s : MCPIPCTransport × List UInt8)
    (input : IPCInput) : Option (MCPIPCTransport × List UInt8) :=
  (s.1.step json input).map fun t =>
    (t, s.2 ++
      match input with
      | .writeFile written =>
          if s.1.activeClientGeneration = generation then s.1.writtenBytes written else []
      | _ => [])

/-- What is left of a response, which is one to the active client. -/
def unwritten (generation : UInt64) (s : MCPIPCTransport) : List UInt8 :=
  match s.mainThread with
  | .sending remaining => if s.activeClientGeneration = generation then remaining else []
  | _ => []

def writer (generation : UInt64) (s : MCPIPCTransport × List UInt8) : Writer UInt8 where
  stream := clientStream generation s
  remaining := s.1.unwritten generation

def responseText (json : JSONCodec) (generation : UInt64) (s : MCPIPCTransport) :
    IPCInput → Option (List UInt8)
  | .sendResponse index response =>
      s.posted[index]?.bind fun request =>
        if request.clientGeneration = generation then
          response.bind (serializeMCPTransportMessage json)
        else none
  | _ => none

def responseTexts (json : JSONCodec) (generation : UInt64) (s : MCPIPCTransport) :
    List IPCInput → List (List UInt8)
  | [] => []
  | input :: later =>
      (s.responseText json generation input).toList ++
        match s.step json input with
        | some t => t.responseTexts json generation later
        | none => []

/-- No other client gets the generation, and a response to its client fits into a `DWORD`. -/
def keepsClient (json : JSONCodec) (generation : UInt64) (s : MCPIPCTransport × List UInt8)
    (input : IPCInput) : Prop :=
  (∀ pipe, input = .runLoop → s.1.ipcThread = .activate pipe →
    s.1.activeClientGeneration + 1 ≠ generation) ∧
    ∀ text ∈ s.1.responseText json generation input, text.length ≤ 2 ^ 32 - 1

variable {json : JSONCodec} {s t : MCPIPCTransport × List UInt8} {generation : UInt64}

theorem unwritten_free {u : MCPIPCTransport} (h : u.mainThread.holdsLock = false) :
    u.unwritten generation = [] := by
  unfold unwritten
  split
  · rename_i hmain
    rw [hmain] at h
    cases h
  · rfl

theorem goes_stays (hwritten : t.2 = s.2)
    (hactive : t.1.activeClientHandle = s.1.activeClientHandle)
    (hgeneration : t.1.activeClientGeneration = s.1.activeClientGeneration)
    (hmain : t.1.unwritten generation = s.1.unwritten generation) :
    Writer.Goes (writer generation s) none (writer generation t) := by
  have hsame : writer generation t = writer generation s := by
    simp only [writer, clientStream, hwritten, hactive, hgeneration, hmain]
  rw [hsame]
  exact .stays

theorem goes_closes (hwritten : t.2 = s.2)
    (hclosed : t.1.activeClientHandle = none ∨ t.1.activeClientGeneration ≠ generation)
    (hmain : t.1.unwritten generation = []) :
    Writer.Goes (writer generation s) none (writer generation t) := by
  have hnext : writer generation t = ⟨⟨s.2, true⟩, []⟩ := by
    simp [writer, clientStream, hwritten, hclosed, hmain]
  rw [hnext]
  exact .closes

theorem unwritten_sendRemaining (remaining : List UInt8) (u : MCPIPCTransport) :
    (u.sendRemaining remaining).unwritten generation =
      if u.activeClientGeneration = generation then remaining else [] := by
  simp only [sendRemaining, unwritten]
  split
  · rename_i hmain
    split at hmain
    · cases hmain
    · obtain rfl := MainPoint.sending.inj hmain
      rfl
  · rename_i hmain
    have hempty : remaining = [] := by
      by_contra hne
      exact hmain remaining (if_neg (by simpa using hne))
    simp [hempty]

theorem writer_open (hactive : s.1.activeClientHandle ≠ none)
    (hgeneration : s.1.activeClientGeneration = generation) :
    writer generation s = ⟨⟨s.2, false⟩, s.1.unwritten generation⟩ := by
  simp [writer, clientStream, hactive, hgeneration]

theorem closePipe_frame {pipe : Nat} {u : MCPIPCTransport} (h : Handles u)
    (hpipe : u.ipcThread.pipe = some pipe) :
    (u.closePipe pipe).activeClientHandle = none ∧
      (u.closePipe pipe).mainThread = u.mainThread := by
  rw [Handles.closePipe_eq (h.active_eq hpipe)]
  exact ⟨rfl, rfl⟩

theorem closeActiveClient_frame (thread : IPCThread) (u : MCPIPCTransport) :
    (u.closeActiveClient thread).activeClientHandle = none ∧
      (u.closeActiveClient thread).mainThread = u.mainThread := by
  unfold closeActiveClient
  split
  · exact ⟨‹_›, rfl⟩
  · exact ⟨rfl, rfl⟩

theorem runLoop_goes {u : MCPIPCTransport} (h : Handles s.1) (hstep : s.1.runLoop json = some u)
    (hkeeps : keepsClient json generation s .runLoop) :
    Writer.Goes (writer generation s) none (writer generation (u, s.2)) := by
  unfold MCPIPCTransport.runLoop at hstep
  split at hstep
  case h_2 pipe hthread =>
    obtain ⟨hfree, rfl⟩ := Handles.locked_eq_some.mp hstep
    exact goes_closes rfl (.inr (hkeeps.1 pipe rfl hthread)) (unwritten_free hfree)
  case h_3 pipe hthread =>
    obtain ⟨hfree, rfl⟩ := Handles.locked_eq_some.mp hstep
    obtain ⟨hactive, hmain⟩ := closePipe_frame h (by rw [hthread]; rfl)
    exact goes_closes rfl (.inl hactive) (unwritten_free (hmain ▸ hfree))
  case h_6 pipe clientGeneration hthread =>
    cases hstep
    unfold dispatchNext
    split
    · exact goes_stays rfl rfl rfl rfl
    · exact goes_stays rfl rfl rfl rfl
  case h_7 pipe hthread =>
    obtain ⟨hfree, rfl⟩ := Handles.locked_eq_some.mp hstep
    obtain ⟨hactive, hmain⟩ := closePipe_frame h (by rw [hthread]; rfl)
    exact goes_closes rfl (.inl hactive) (unwritten_free (hmain ▸ hfree))
  case h_8 hthread =>
    obtain ⟨hfree, rfl⟩ := Handles.locked_eq_some.mp hstep
    have hnone := h.active_none (by rw [hthread]; rfl)
    have hclose : s.1.closeActiveClient .ipc = s.1 := by
      simp [MCPIPCTransport.closeActiveClient, hnone]
    rw [hclose]
    exact goes_stays rfl rfl rfl rfl
  case h_9 => cases hstep
  all_goals
    obtain ⟨-, rfl⟩ := Handles.locked_eq_some.mp hstep
    exact goes_stays rfl rfl rfl rfl

theorem sendResponse_goes {index : Nat} {response : Option DictValue} {u : MCPIPCTransport}
    (hstep : s.1.sendResponse json index response = some u)
    (hkeeps : keepsClient json generation s (.sendResponse index response)) :
    Writer.Goes (writer generation s)
      (s.1.responseText json generation (.sendResponse index response))
      (writer generation (u, s.2)) := by
  unfold MCPIPCTransport.sendResponse at hstep
  split at hstep
  case h_2 => cases hstep
  case h_1 request hmain hrequest =>
    have hidle : s.1.unwritten generation = [] := unwritten_free (by rw [hmain]; rfl)
    have hlabel : s.1.responseText json generation (.sendResponse index response) =
        if request.clientGeneration = generation then
          response.bind (serializeMCPTransportMessage json)
        else none := by
      simp [responseText, hrequest]
    have hfits := hkeeps.2
    rw [hlabel] at hfits ⊢
    simp only at hstep
    cases htext : response.bind (serializeMCPTransportMessage json) with
    | none =>
        rw [htext] at hstep
        obtain rfl := Option.some.inj hstep
        rw [ite_self]
        exact goes_stays rfl rfl rfl rfl
    | some serialized =>
        rw [htext] at hstep hfits
        obtain rfl := Option.some.inj hstep
        by_cases hclient : request.clientGeneration = generation
        · rw [if_pos hclient] at hfits ⊢
          have hwhole : serialized.take (2 ^ 32 - 1) = serialized :=
            List.take_of_length_le (hfits serialized rfl)
          unfold sendSerializedResponse
          split
          · rename_i hnone
            have hclosed : (writer generation s).stream.closed = true := by
              simpa [writer, clientStream, hclient] using hnone
            exact .drops serialized hclosed
          · rename_i hopen
            rw [not_or, not_not] at hopen
            have hown := hopen.2.trans hclient
            rw [hwhole, writer_open hopen.1 hown, writer_open, unwritten_sendRemaining, hidle]
            · rw [if_pos hown]
              exact .takes serialized rfl rfl
            · exact hopen.1
            · exact hown
        · rw [if_neg hclient]
          unfold sendSerializedResponse
          split
          · exact goes_stays rfl rfl rfl rfl
          · rename_i hopen
            rw [not_or, not_not] at hopen
            have hother : s.1.activeClientGeneration ≠ generation :=
              fun heq => hclient (hopen.2.symm.trans heq)
            refine goes_stays rfl rfl rfl ?_
            rw [unwritten_sendRemaining, if_neg hother, hidle]

theorem writeFile_goes {written : Option Nat} {u : MCPIPCTransport} (h : Handles s.1)
    (hstep : s.1.writeFile written = some u) :
    Writer.Goes (writer generation s) none
      (writer generation (u, s.2 ++
        if s.1.activeClientGeneration = generation then s.1.writtenBytes written else [])) := by
  unfold MCPIPCTransport.writeFile at hstep
  split at hstep
  case h_1 remaining count hmain =>
    have hactive := h.sending (by rw [hmain]; rfl)
    split at hstep
    · obtain rfl := Option.some.inj hstep
      have hbytes : s.1.writtenBytes (some count) = remaining.take count := by
        simp [writtenBytes, hmain]
      by_cases hown : s.1.activeClientGeneration = generation
      · have hleft : s.1.unwritten generation = remaining := by
          rw [unwritten, hmain]
          exact if_pos hown
        rw [if_pos hown, hbytes, writer_open hactive hown, writer_open, unwritten_sendRemaining,
          if_pos hown, hleft]
        · exact .writes _ _ (List.take_append_drop count remaining).symm rfl
        · exact hactive
        · exact hown
      · rw [if_neg hown, List.append_nil]
        refine goes_stays rfl rfl rfl ?_
        rw [unwritten_sendRemaining, if_neg hown, unwritten, hmain]
        exact (if_neg hown).symm
    · cases hstep
  case h_2 remaining hmain =>
    obtain rfl := Option.some.inj hstep
    have hbytes : s.1.writtenBytes none = [] := by simp [writtenBytes]
    rw [hbytes, ite_self, List.append_nil]
    obtain ⟨hnone, hsame⟩ := closeActiveClient_frame .main { s.1 with mainThread := .idle }
    exact goes_closes rfl (.inl hnone) (unwritten_free (hsame ▸ rfl))
  case h_3 => cases hstep

theorem step_goes {input : IPCInput} (h : Handles s.1)
    (hstep : clientStep json generation s input = some t)
    (hkeeps : keepsClient json generation s input) :
    Writer.Goes (writer generation s) (s.1.responseText json generation input)
      (writer generation t) := by
  obtain ⟨u, hu, rfl⟩ := Option.map_eq_some_iff.mp hstep
  cases input with
  | runLoop =>
      dsimp only
      rw [List.append_nil]
      exact runLoop_goes h hu hkeeps
  | createNamedPipe succeeds =>
      dsimp only
      rw [List.append_nil]
      simp only [MCPIPCTransport.step, createNamedPipe] at hu
      split at hu
      · split at hu
        · obtain rfl := Option.some.inj hu
          exact goes_stays rfl rfl rfl rfl
        · obtain rfl := Option.some.inj hu
          exact goes_stays rfl rfl rfl rfl
      · cases hu
  | connectNamedPipe connected =>
      dsimp only
      rw [List.append_nil]
      simp only [MCPIPCTransport.step, connectNamedPipe] at hu
      split at hu
      · split at hu
        · obtain rfl := Option.some.inj hu
          exact goes_stays rfl rfl rfl rfl
        · obtain rfl := Option.some.inj hu
          exact goes_stays rfl rfl rfl rfl
      · cases hu
  | readFile chunk =>
      dsimp only
      rw [List.append_nil]
      simp only [MCPIPCTransport.step, readFile] at hu
      split at hu
      · obtain rfl := Option.some.inj hu
        exact goes_stays rfl rfl rfl rfl
      · obtain rfl := Option.some.inj hu
        exact goes_stays rfl rfl rfl rfl
      · cases hu
  | sendResponse index response =>
      dsimp only
      rw [List.append_nil]
      exact sendResponse_goes hu hkeeps
  | writeFile written => exact writeFile_goes h hu
  | destroy =>
      dsimp only
      rw [List.append_nil]
      simp only [MCPIPCTransport.step, destroy] at hu
      split at hu
      · split at hu
        · obtain rfl := Option.some.inj hu
          obtain ⟨hnone, hsame⟩ :=
            closeActiveClient_frame .main { s.1 with stopping := true, mainThread := .stopped }
          exact goes_closes rfl (.inl hnone) (unwritten_free (hsame ▸ rfl))
        · cases hu
      · cases hu

theorem run_goes {inputs : List IPCInput} (h : Handles s.1)
    (hrun : Exec (Guarded (Step (clientStep json generation)) (keepsClient json generation)) s
      inputs t) :
    ∃ labels, Exec Writer.Goes (writer generation s) labels (writer generation t) ∧
      labels.filterMap id = s.1.responseTexts json generation inputs := by
  induction hrun with
  | nil s => exact ⟨[], .nil _, rfl⟩
  | @cons s next t input inputs head tail ih =>
      have hclient : clientStep json generation s input = some next := head.1
      obtain ⟨u, hu, hnext⟩ := Option.map_eq_some_iff.mp hclient
      have hsame : next.1 = u := by rw [← hnext]
      obtain ⟨labels, hlabels, htexts⟩ := ih (hsame ▸ (h.step hu).1)
      refine ⟨_, .cons (step_goes h hclient head.2) hlabels, ?_⟩
      rw [responseTexts, hu]
      dsimp only
      rw [← hsame, ← htexts]
      cases s.1.responseText json generation input with
      | none => rfl
      | some text => rfl

theorem run_reads {inputs : List IPCInput} (h : Handles s.1)
    (hactive : s.1.activeClientHandle ≠ none)
    (hgeneration : s.1.activeClientGeneration = generation)
    (hidle : s.1.mainThread.holdsLock = false)
    (hrun : Exec (Guarded (Step (clientStep json generation)) (keepsClient json generation)) s
      inputs t)
    (hreturned : t.1.mainThread.holdsLock = false) :
    WriteLoop.Reads (s.1.responseTexts json generation inputs) (clientStream generation s)
      (clientStream generation t) := by
  obtain ⟨labels, hlabels, htexts⟩ := run_goes h hrun
  rw [← htexts]
  refine Writer.reads hlabels ?_ (unwritten_free hidle) (unwritten_free hreturned)
  simp [writer, clientStream, hactive, hgeneration]

end Windows.MCPIPCTransport

/-- On POSIX a response is written in full or its client is closed, and a reader never gets a part
of one and then another. On Windows the same holds exactly for the responses that fit into a
`DWORD` and for those of which a write fails. The runs of the calls come with the runs of both
threads, in which everything else happens between the writes. -/
theorem responses_allOrNothing_iff (connection : Nat) (generation : UInt64) :
    (∀ (s t : Posix.MCPIPCTransport) (request : Posix.Request) (serialized : List UInt8)
      (results : List Posix.SendResult), s.mainThread = .idle →
        (∀ fd, s.activeClientFd = some fd → s.connectionAt fd = some connection) →
        s.sendAll request serialized results = some t → t.mainThread = .idle →
        Delivers (s.clientStream connection request.clientGeneration) serialized
          (t.clientStream connection request.clientGeneration)) ∧
    (∀ (s t : Windows.MCPIPCTransport × List UInt8) (serialized : List UInt8)
      (results : List (Option Nat)), s.1.mainThread = .idle →
        (Windows.MCPIPCTransport.clientStream generation s).closed = false →
        Windows.MCPIPCTransport.sendAll generation serialized results s = some t →
        t.1.mainThread = .idle →
        (Delivers (Windows.MCPIPCTransport.clientStream generation s) serialized
            (Windows.MCPIPCTransport.clientStream generation t) ↔
          serialized.length ≤ 2 ^ 32 - 1 ∨ none ∈ results)) ∧
    (∀ (s t : Posix.MCPIPCTransport) (calls : List (Option (List UInt8 × List Posix.SendResult))),
      Exec (Posix.MCPIPCTransport.ClientStep connection generation) s calls t →
        WriteLoop.Reads ((calls.filterMap id).map Prod.fst) (s.clientStream connection generation)
          (t.clientStream connection generation)) ∧
    (∀ (s t : Windows.MCPIPCTransport × List UInt8)
      (calls : List (Option (List UInt8 × List (Option Nat)))),
      Exec (Windows.MCPIPCTransport.ClientStep generation) s calls t →
        (∀ call ∈ calls.filterMap id, Windows.MCPIPCTransport.Fits call) →
        WriteLoop.Reads ((calls.filterMap id).map Prod.fst)
          (Windows.MCPIPCTransport.clientStream generation s)
          (Windows.MCPIPCTransport.clientStream generation t)) ∧
    (∀ (json : JSONCodec) (listenerFd : Nat) (path : String) (before inputs : List Posix.IPCInput)
      (s t : Posix.MCPIPCTransport) (fd : Nat),
      Exec (Step (Posix.MCPIPCTransport.step json)) (.start listenerFd path) before s →
        s.activeClientFd = some fd → s.connectionAt fd = some connection →
        s.activeClientGeneration = generation → s.mainThread.holdsLock = false →
        Exec (Guarded (Step (Posix.MCPIPCTransport.step json))
          (Posix.MCPIPCTransport.keepsGeneration generation)) s inputs t →
        t.mainThread.holdsLock = false →
        WriteLoop.Reads (s.responseTexts json generation inputs)
          (s.clientStream connection generation) (t.clientStream connection generation)) ∧
    (∀ (json : JSONCodec) (before inputs : List Windows.IPCInput) (s : Windows.MCPIPCTransport)
      (t : Windows.MCPIPCTransport × List UInt8),
      Exec (Step (Windows.MCPIPCTransport.step json)) .start before s →
        s.activeClientHandle ≠ none → s.activeClientGeneration = generation →
        s.mainThread.holdsLock = false →
        Exec (Guarded (Step (Windows.MCPIPCTransport.clientStep json generation))
          (Windows.MCPIPCTransport.keepsClient json generation)) (s, []) inputs t →
        t.1.mainThread.holdsLock = false →
        WriteLoop.Reads (s.responseTexts json generation inputs)
          (Windows.MCPIPCTransport.clientStream generation (s, []))
          (Windows.MCPIPCTransport.clientStream generation t)) := by
  have htexts {β : Type} (calls : List (Option (List UInt8 × β))) :
      (calls.map (Option.map Prod.fst)).filterMap id = (calls.filterMap id).map Prod.fst := by
    rw [List.filterMap_map, List.map_filterMap]
    rfl
  refine ⟨?_, ?_, ?_, ?_, ?_, ?_⟩
  · intro s t request serialized results hidle hclient hcall hreturned
    exact Posix.MCPIPCTransport.sendAll_delivers hidle hclient hcall hreturned
  · intro s t serialized results hidle hopen hcall hreturned
    rw [Windows.MCPIPCTransport.sendAll_delivers_iff hidle hcall hreturned]
    simp [hopen]
  · intro s t calls hrun
    rw [← htexts]
    exact WriteLoop.reads_of_moves (hrun.map _ _ fun _ _ _ _ hstep => hstep.moves)
  · intro s t calls hrun hfits
    rw [← htexts]
    apply WriteLoop.reads_of_moves
    apply hrun.map _ _
    intro a call b hmem hstep
    apply hstep.moves
    intro c hc
    exact hfits c (List.mem_filterMap.mpr ⟨call, hmem, hc⟩)
  · intro json listenerFd path before inputs s t fd hbefore hactive hconnection hgeneration hidle
      hrun hreturned
    have hisolation : Posix.Isolation json s :=
      hbefore.invariant (fun _ _ _ hs hstep => hs.step hstep) (.start json listenerFd path)
    exact Posix.MCPIPCTransport.run_reads hisolation hactive hconnection hgeneration hidle hrun
      hreturned
  · intro json before inputs s t hbefore hactive hgeneration hidle hrun hreturned
    have hhandles : Windows.Handles s :=
      hbefore.invariant (fun _ _ _ hs hstep => (hs.step hstep).1) .start
    exact Windows.MCPIPCTransport.run_reads hhandles hactive hgeneration hidle hrun hreturned

section LongResponse

/-- The JSON text of a dictionary with one long string, and the newline. -/
def longResponse : List UInt8 :=
  [123, 34, 97, 34, 58, 34] ++ List.replicate (2 ^ 32) 120 ++ [34, 125, newline]

def shopPipe : Windows.MCPIPCTransport :=
  { Windows.MCPIPCTransport.start with activeClientGeneration := 1, activeClientHandle := some 0 }

theorem longResponse_length : 2 ^ 32 - 1 < longResponse.length := by
  rw [longResponse, List.length_append, List.length_append, List.length_replicate]
  omega

/-- The client of the pipe gets the beginning of a long response and stays connected. -/
theorem longResponse_truncated :
    ∃ t, Windows.MCPIPCTransport.sendAll 1 longResponse [some (2 ^ 32 - 1)] (shopPipe, []) =
        some t ∧ t.1.mainThread = .idle ∧
      ¬ Delivers (Windows.MCPIPCTransport.clientStream 1 (shopPipe, [])) longResponse
        (Windows.MCPIPCTransport.clientStream 1 t) := by
  have hgeneration : shopPipe.activeClientGeneration = 1 := rfl
  have hcall := Windows.MCPIPCTransport.sendAll_cut (by simp [shopPipe]) hgeneration
    longResponse_length
  refine ⟨_, hcall, rfl, ?_⟩
  rw [Windows.MCPIPCTransport.sendAll_delivers_iff rfl hcall rfl]
  have hlength := longResponse_length
  simp only [Windows.MCPIPCTransport.clientStream, shopPipe, Windows.MCPIPCTransport.start,
    reduceCtorEq, ne_eq, not_true_eq_false, or_self, decide_false, Bool.false_eq_true,
    List.mem_singleton, or_false, false_or]
  omega

end LongResponse

def shopTransport : Posix.MCPIPCTransport :=
  { Posix.MCPIPCTransport.start 3 "/run/shop/mcp.sock" with
    fds := Function.update (fun _ => none) 4 (some (.connection 0))
    activeClientFd := some 4
    activeClientGeneration := 1 }

/-- The client connects and sends an empty object. -/
def servedInputs : List Posix.IPCInput :=
  [.runLoop, .runLoop, .poll (some (true, false)), .accept (some 4), .runLoop, .runLoop, .runLoop,
    .runLoop, .poll (some (false, true)), .runLoop,
    .recv (some ⟨[123, 125, newline], by decide, by decide⟩), .runLoop]

def servedTransport : Posix.MCPIPCTransport :=
  (servedInputs.foldlM (Posix.MCPIPCTransport.step emptyObjectJSON)
    (.start 3 "/run/shop/mcp.sock")).getD (.start 3 "/run/shop/mcp.sock")

/-- The response is written in two pieces, with a round of `RunLoop` between them. -/
def respondingInputs : List Posix.IPCInput :=
  [.sendResponse 0 (some []), .send (.sent 1), .runLoop, .send .interrupted, .send (.sent 2)]

theorem responses_allOrNothing_sample :
    (∃ t, shopTransport.sendAll ⟨[], 1⟩ [123, 125, newline] [.sent 1, .interrupted, .sent 2] =
        some t ∧
      Delivers (shopTransport.clientStream 0 1) [123, 125, newline] (t.clientStream 0 1)) ∧
    ∃ t, Exec (Step (Posix.MCPIPCTransport.step emptyObjectJSON)) servedTransport respondingInputs
        t ∧
      (t.clientStream 0 1).written = [123, 125, newline] ∧
      WriteLoop.Reads [[123, 125, newline]] (servedTransport.clientStream 0 1)
        (t.clientStream 0 1) := by
  obtain ⟨hcall, -, -, -, hruns, -⟩ := responses_allOrNothing_iff 0 1
  constructor
  · refine ⟨_, rfl, ?_⟩
    apply hcall shopTransport _ ⟨[], 1⟩ [123, 125, newline] [.sent 1, .interrupted, .sent 2] rfl ?_
      rfl rfl
    rintro fd ⟨⟩
    rfl
  · have hbefore : Exec (Step (Posix.MCPIPCTransport.step emptyObjectJSON))
        (.start 3 "/run/shop/mcp.sock") servedInputs servedTransport := Exec.of_foldlM rfl
    have hguarded : Exec (Guarded (Step (Posix.MCPIPCTransport.step emptyObjectJSON))
        (Posix.MCPIPCTransport.keepsGeneration 1)) servedTransport respondingInputs _ :=
      .cons ⟨rfl, nofun⟩ (.cons ⟨rfl, nofun⟩ (.cons ⟨rfl, nofun⟩ (.cons ⟨rfl, nofun⟩
        (.cons ⟨rfl, nofun⟩ (.nil _)))))
    refine ⟨_, hguarded.mono fun _ _ _ h => h.1, rfl, ?_⟩
    exact hruns emptyObjectJSON 3 "/run/shop/mcp.sock" servedInputs respondingInputs _ _ 4 hbefore
      rfl rfl rfl rfl hguarded rfl

end Browserd
