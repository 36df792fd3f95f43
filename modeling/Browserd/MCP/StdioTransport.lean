import Browserd.MCP.Framing
import Browserd.MCP.ReplyDiscipline
import Browserd.MCP.ToolHost

/-!
# The transport over stdin and stdout

`MCPStdioTransport` between its reader thread and the main thread, which it shares with the other
transports. The reader posts a task for each message; the task runs the server, and what the
server replies to it, then or later, is written to stdout.
-/

namespace Browserd

open Transition (Exec Step)

inductive StdioTask where
  | message (message : DictValue)
  | close

def StdioTask.messageOf : StdioTask → Option DictValue
  | .message m => some m
  | .close => none

/-- `unread` is what stands in stdin; `callbacks` are the reply callbacks of the messages that came
from there. -/
structure StdioSession (σ : Type*) where
  server : MCPServer σ
  shutdownOnStdioClose : Bool
  unread : List UInt8
  inputClosed : Bool
  reading : Bool
  posted : List StdioTask
  callbacks : List MCPResponseCallback
  output : List UInt8
  shutdowns : Nat

/-- The client writes or closes stdin, the reader thread or the main thread does its next step, or
something else happens to the server. -/
inductive StdioInput (σ : Type*) where
  | write (bytes : List UInt8)
  | closeInput
  | readLine
  | runTask
  | server (input : MCPServer.Input σ)

/-- The responses that are given to the callbacks, in the order in which they are given. -/
def responsesTo (callbacks : List MCPResponseCallback) (log : List MCPEvent) : List DictValue :=
  (sentReplies log).filterMap fun reply => if reply.1 ∈ callbacks then reply.2 else none

/-- A message that cannot be serialized is not written. -/
def serialized (json : JSONCodec) (messages : List DictValue) : List UInt8 :=
  (messages.filterMap (serializeMCPTransportMessage json)).flatten

namespace StdioSession

variable {σ : Type*}

def start (server : MCPServer σ) (shutdownOnStdioClose : Bool) : StdioSession σ where
  server := server
  shutdownOnStdioClose := shutdownOnStdioClose
  unread := []
  inputClosed := false
  reading := true
  posted := []
  callbacks := []
  output := []
  shutdowns := 0

/-- One round of `ReadLoop`. -/
def readLine (json : JSONCodec) (s : StdioSession σ) : StdioSession σ :=
  match getline s.unread with
  | some (line, rest) =>
      match parseMCPTransportLine json line with
      | some parsed => { s with unread := rest, posted := s.posted ++ [.message parsed] }
      | none => { s with unread := rest }
  | none => { s with reading := false, posted := s.posted ++ [.close] }

/-- The server has come to `server`, and `SendResponse` has been run for what it replied to the
callbacks. -/
def serves (json : JSONCodec) (server : MCPServer σ) (s : StdioSession σ) : StdioSession σ :=
  { s with
    server := server
    output := s.output ++
      serialized json (responsesTo s.callbacks (server.log.drop s.server.log.length)) }

/-- `OnTransportClosed`. -/
def onTransportClosed (s : StdioSession σ) : StdioSession σ :=
  if s.shutdownOnStdioClose && s.server.hasController then { s with shutdowns := s.shutdowns + 1 }
  else s

/-- The message gets the next callback of the server. -/
def runTask (json : JSONCodec) (s : StdioSession σ) : StdioTask → Option (StdioSession σ)
  | .message message =>
      let s := { s with callbacks := s.callbacks ++ [(receivedMessages s.server.log).length] }
      (s.server.step (.message message)).map fun server => s.serves json server
  | .close => some s.onTransportClosed

/-- `std::getline` blocks until there is a line or the end of the input. -/
def step (json : JSONCodec) (s : StdioSession σ) : StdioInput σ → Option (StdioSession σ)
  | .write bytes => if s.inputClosed then none else some { s with unread := s.unread ++ bytes }
  | .closeInput => some { s with inputClosed := true }
  | .readLine =>
      if s.reading && (s.unread.contains newline || s.inputClosed) then some (s.readLine json)
      else none
  | .runTask =>
      match s.posted with
      | [] => none
      | task :: posted => { s with posted := posted }.runTask json task
  | .server input => (s.server.step input).map fun server => s.serves json server

/-- The messages that the server has been given from stdin. -/
def handled (s : StdioSession σ) : List DictValue :=
  s.callbacks.filterMap fun callback => (receivedMessages s.server.log)[callback]?

/-- And those that it is still to be given. -/
def postedMessages (s : StdioSession σ) : List DictValue :=
  s.posted.filterMap StdioTask.messageOf

end StdioSession

/-- What the client has written. -/
def written {σ : Type*} (inputs : List (StdioInput σ)) : List UInt8 :=
  inputs.flatMap fun | .write bytes => bytes | _ => []

section Reading

open Lines

variable {json : JSONCodec} {consumed unread line rest : List UInt8}

/-- The part of the input before a newline is read as if nothing followed. -/
theorem readLoop_append (h : unterminated newline consumed = []) (unread : List UInt8) :
    readLoop json (consumed ++ unread) = readLoop json consumed ++ readLoop json unread := by
  rw [readLoop_eq, readLoop_eq, readLoop_eq, terminated_append, unterminated_append, h]
  simp [parseMCPTransportLine]

theorem readLoop_some (h : getline unread = some (line, rest)) :
    readLoop json unread = (parseMCPTransportLine json line).toList ++ readLoop json rest := by
  rw [readLoop]
  split
  · rename_i hnone
    rw [h] at hnone
    cases hnone
  · rename_i line' rest' hsome
    obtain ⟨rfl, rfl⟩ : line = line' ∧ rest = rest' := by simpa [h] using hsome
    cases parseMCPTransportLine json line <;> rfl

theorem readLoop_nil_input (json : JSONCodec) : readLoop json [] = [] := by
  simp [readLoop_eq, terminated_of_notMem, unterminated_of_notMem, parseMCPTransportLine]

/-- A line that ends with a newline is taken out of the input with it. -/
theorem getline_newline (hmem : newline ∈ unread) (h : getline unread = some (line, rest)) :
    unread = line ++ newline :: rest := by
  have hne : unread.isEmpty = false := by
    cases unread with
    | nil => cases hmem
    | cons => rfl
  rw [getline, hne, if_neg Bool.false_ne_true, Option.some.injEq, Prod.mk.injEq] at h
  obtain ⟨rfl, rfl⟩ := h
  have hdrop : ∃ after, unread.dropWhile (· != newline) = newline :: after := by
    cases hdrop : unread.dropWhile (· != newline) with
    | nil =>
        have hall := List.dropWhile_eq_nil_iff.mp hdrop newline hmem
        simp at hall
    | cons b after =>
        have hfirst := List.head?_dropWhile_not (· != newline) unread
        rw [hdrop] at hfirst
        exact ⟨after, by simpa using hfirst⟩
  obtain ⟨after, hafter⟩ := hdrop
  rw [hafter, List.drop_one, List.tail_cons, ← hafter]
  exact List.takeWhile_append_dropWhile.symm

end Reading

section Responses

variable {json : JSONCodec} {callbacks : List MCPResponseCallback} {log events : List MCPEvent}

theorem responsesTo_append :
    responsesTo callbacks (log ++ events) =
      responsesTo callbacks log ++ responsesTo callbacks events := by
  rw [responsesTo, sentReplies, List.filterMap_append, List.filterMap_append]
  rfl

theorem serialized_append (messages later : List DictValue) :
    serialized json (messages ++ later) = serialized json messages ++ serialized json later := by
  rw [serialized, List.filterMap_append, List.flatten_append]
  rfl

/-- A callback that has not been run changes nothing of what has been sent. -/
theorem responsesTo_new {callback : MCPResponseCallback} (h : callback ∉ repliedCalls log) :
    responsesTo (callbacks ++ [callback]) log = responsesTo callbacks log := by
  apply List.filterMap_congr
  intro reply hreply
  have hne : reply.1 ≠ callback := by
    rintro rfl
    exact h (List.mem_map_of_mem hreply)
  simp [hne]

end Responses

namespace StdioSession

variable {σ : Type*} {json : JSONCodec} {wrote : List UInt8} {s t : StdioSession σ}
  {next : MCPServer σ}

/-- How far the session has come to its end. -/
inductive Ending (s : StdioSession σ) : Prop
  | reading (reading : s.reading = true) (messages : List DictValue)
      (posted : s.posted = messages.map .message) (shutdowns : s.shutdowns = 0)
  | closing (reading : s.reading = false) (inputClosed : s.inputClosed = true)
      (unread : s.unread = []) (messages : List DictValue)
      (posted : s.posted = messages.map .message ++ [.close]) (shutdowns : s.shutdowns = 0)
  | closed (reading : s.reading = false) (inputClosed : s.inputClosed = true)
      (unread : s.unread = []) (posted : s.posted = []) (shutdowns : s.shutdowns ≤ 1)

/-- What holds after the client has written `wrote`. -/
structure Sound (json : JSONCodec) (wrote : List UInt8) (s : StdioSession σ) : Prop where
  queue : MCPServer.QueueInvariant s.server
  replies : ReplyHistory s.server.log s.server.pendingReplies
  read : s.handled ++ s.postedMessages ++ readLoop json s.unread = readLoop json wrote
  boundary : s.inputClosed = true ∨
    ∃ consumed, wrote = consumed ++ s.unread ∧ Lines.unterminated newline consumed = []
  callbacks_lt : ∀ c ∈ s.callbacks, c < (receivedMessages s.server.log).length
  output : s.output = serialized json (responsesTo s.callbacks s.server.log)
  ending : s.Ending
  unasked : s.shutdownOnStdioClose = false → s.shutdowns = 0

theorem start_sound (json : JSONCodec) {server : MCPServer σ}
    (hserver : MCPServer.QueueInvariant server)
    (hreplies : ReplyHistory server.log server.pendingReplies) (shutdownOnStdioClose : Bool) :
    (start server shutdownOnStdioClose).Sound json [] where
  queue := hserver
  replies := hreplies
  read := rfl
  boundary := .inr ⟨[], rfl, rfl⟩
  callbacks_lt := by simp [start]
  output := by
    have hnone : responsesTo [] server.log = [] := by simp [responsesTo]
    show [] = serialized json (responsesTo [] server.log)
    rw [hnone]
    rfl
  ending := .reading rfl [] rfl rfl
  unasked _ := rfl

/-- What the server is given after a message from stdin does not change which that was. -/
theorem handled_serves {input : MCPServer.Input σ} (hstep : s.server.step input = some next)
    (hlt : ∀ c ∈ s.callbacks, c < (receivedMessages s.server.log).length) :
    (s.serves json next).handled = s.handled := by
  obtain ⟨events, hlog, -⟩ := MCPServer.step_log hstep
  apply List.filterMap_congr
  intro c hc
  show (receivedMessages next.log)[c]? = (receivedMessages s.server.log)[c]?
  rw [hlog, receivedMessages_append, List.getElem?_append_left (hlt c hc)]

theorem output_serves {input : MCPServer.Input σ} (hstep : s.server.step input = some next)
    (houtput : s.output = serialized json (responsesTo s.callbacks s.server.log)) :
    (s.serves json next).output = serialized json (responsesTo s.callbacks next.log) := by
  obtain ⟨events, hlog, -⟩ := MCPServer.step_log hstep
  show s.output ++ serialized json (responsesTo s.callbacks (next.log.drop s.server.log.length)) = _
  rw [hlog, List.drop_left, responsesTo_append, serialized_append, houtput]

theorem Sound.serves (h : s.Sound json wrote) {input : MCPServer.Input σ}
    (hstep : s.server.step input = some next) : (s.serves json next).Sound json wrote where
  queue := MCPServer.step_queueInvariant h.queue hstep
  replies := MCPServer.step_replyHistory h.replies hstep
  read := by
    rw [handled_serves hstep h.callbacks_lt]
    exact h.read
  boundary := h.boundary
  callbacks_lt := by
    intro c hc
    obtain ⟨events, hlog, -⟩ := MCPServer.step_log hstep
    show c < (receivedMessages next.log).length
    rw [hlog, receivedMessages_append, List.length_append]
    exact Nat.lt_add_right _ (h.callbacks_lt c hc)
  output := output_serves hstep h.output
  ending := by
    cases h.ending with
    | reading reading messages posted shutdowns => exact .reading reading messages posted shutdowns
    | closing reading inputClosed unread messages posted shutdowns =>
        exact .closing reading inputClosed unread messages posted shutdowns
    | closed reading inputClosed unread posted shutdowns =>
        exact .closed reading inputClosed unread posted shutdowns
  unasked := h.unasked

/-- A message from stdin that is handled is the first of those that were posted. -/
theorem Sound.message (h : s.Sound json wrote) {message : DictValue} {posted : List StdioTask}
    (hposted : s.posted = .message message :: posted)
    (hstep : ({ s with posted := posted } : StdioSession σ).runTask json (.message message) =
      some t) : t.Sound json wrote := by
  rw [runTask] at hstep
  obtain ⟨next, hserver, rfl⟩ := Option.map_eq_some_iff.mp hstep
  obtain ⟨events, hlog, hevents⟩ := MCPServer.step_log hserver
  have hreceived : receivedMessages next.log = receivedMessages s.server.log ++ [message] := by
    rw [hlog, receivedMessages_append, hevents]
    rfl
  have hfresh : (receivedMessages s.server.log).length ∉ repliedCalls s.server.log := by
    intro hreplied
    exact Nat.lt_irrefl _ (h.queue.history.replied_lt _ hreplied)
  constructor
  · exact MCPServer.step_queueInvariant h.queue hserver
  · exact MCPServer.step_replyHistory h.replies hserver
  · have hold : s.callbacks.filterMap (fun c => (receivedMessages next.log)[c]?) = s.handled := by
      apply List.filterMap_congr
      intro c hc
      rw [hreceived, List.getElem?_append_left (h.callbacks_lt c hc)]
    have hread := h.read
    have hfirst : s.postedMessages = message :: posted.filterMap StdioTask.messageOf := by
      rw [postedMessages, hposted]
      rfl
    show (s.callbacks ++ [(receivedMessages s.server.log).length]).filterMap
        (fun c => (receivedMessages next.log)[c]?) ++ posted.filterMap StdioTask.messageOf ++
          readLoop json s.unread = _
    rw [List.filterMap_append, hold, hreceived, ← hread, hfirst]
    simp
  · exact h.boundary
  · intro c hc
    show c < (receivedMessages next.log).length
    rw [hreceived, List.length_append]
    rcases List.mem_append.mp hc with hold | hnew
    · exact Nat.lt_add_right _ (h.callbacks_lt c hold)
    · rw [List.mem_singleton.mp hnew]
      exact Nat.lt_add_one _
  · show s.output ++ serialized json (responsesTo
        (s.callbacks ++ [(receivedMessages s.server.log).length])
        (next.log.drop s.server.log.length)) = _
    show _ = serialized json (responsesTo
      (s.callbacks ++ [(receivedMessages s.server.log).length]) next.log)
    rw [hlog]
    show s.output ++ serialized json (responsesTo _
      ((s.server.log ++ events).drop s.server.log.length)) = _
    rw [List.drop_left, responsesTo_append, serialized_append, responsesTo_new hfresh, h.output]
  · cases h.ending with
    | reading reading messages hmessages shutdowns =>
        rw [hposted] at hmessages
        cases messages with
        | nil => cases hmessages
        | cons first rest => exact .reading reading rest (List.cons.inj hmessages).2 shutdowns
    | closing reading inputClosed unread messages hmessages shutdowns =>
        rw [hposted] at hmessages
        cases messages with
        | nil => cases (List.cons.inj hmessages).1
        | cons first rest =>
            exact .closing reading inputClosed unread rest (List.cons.inj hmessages).2 shutdowns
    | closed reading inputClosed unread hempty shutdowns =>
        rw [hposted] at hempty
        cases hempty
  · exact h.unasked

/-- The task of the reader's end is the last one. -/
theorem Sound.close (h : s.Sound json wrote) {posted : List StdioTask}
    (hposted : s.posted = .close :: posted) :
    ({ s with posted := posted } : StdioSession σ).onTransportClosed.Sound json wrote := by
  have hend : s.reading = false ∧ s.inputClosed = true ∧ s.unread = [] ∧ posted = [] ∧
      s.shutdowns = 0 := by
    cases h.ending with
    | reading reading messages hmessages shutdowns =>
        rw [hposted] at hmessages
        cases messages <;> cases hmessages
    | closing reading inputClosed unread messages hmessages shutdowns =>
        rw [hposted] at hmessages
        cases messages with
        | nil => exact ⟨reading, inputClosed, unread, (List.cons.inj hmessages).2, shutdowns⟩
        | cons first rest => cases (List.cons.inj hmessages).1
    | closed reading inputClosed unread hempty shutdowns =>
        rw [hposted] at hempty
        cases hempty
  obtain ⟨hreading, hclosed, hunread, rfl, hshutdowns⟩ := hend
  have hread : s.handled ++ [] ++ readLoop json s.unread = readLoop json wrote := by
    rw [← h.read, postedMessages, hposted]
    rfl
  rw [onTransportClosed]
  split
  · rename_i hasked
    refine ⟨h.queue, h.replies, hread, h.boundary, h.callbacks_lt, h.output, ?_, ?_⟩
    · exact .closed hreading hclosed hunread rfl (by simp [hshutdowns])
    · intro hunasked
      have hunasked : s.shutdownOnStdioClose = false := hunasked
      simp [hunasked] at hasked
  · refine ⟨h.queue, h.replies, hread, h.boundary, h.callbacks_lt, h.output, ?_, h.unasked⟩
    exact .closed hreading hclosed hunread rfl (by simp [hshutdowns])

/-- A line that is taken from the input is posted, unless it is no message. -/
theorem readLine_some {line rest : List UInt8} (h : getline s.unread = some (line, rest)) :
    s.readLine json = { s with
      unread := rest
      posted := s.posted ++ (parseMCPTransportLine json line).toList.map StdioTask.message } := by
  rw [readLine, h]
  cases hparse : parseMCPTransportLine json line with
  | none => simp [hparse]
  | some parsed => simp [hparse]

theorem messageOf_append (posted : List StdioTask) (messages : List DictValue) :
    (posted ++ messages.map StdioTask.message).filterMap StdioTask.messageOf =
      posted.filterMap StdioTask.messageOf ++ messages := by
  rw [List.filterMap_append, List.filterMap_map]
  congr 1
  exact List.filterMap_some

theorem Sound.readLine (h : s.Sound json wrote) (hreading : s.reading = true)
    (hline : newline ∈ s.unread ∨ s.inputClosed = true) : (s.readLine json).Sound json wrote := by
  obtain ⟨messages, hposted, hshutdowns⟩ :
      ∃ messages : List DictValue, s.posted = messages.map .message ∧ s.shutdowns = 0 := by
    cases h.ending with
    | reading reading messages posted shutdowns => exact ⟨messages, posted, shutdowns⟩
    | closing reading => rw [hreading] at reading; cases reading
    | closed reading => rw [hreading] at reading; cases reading
  cases hget : getline s.unread with
  | none =>
      have hunread : s.unread = [] := by
        cases hunread : s.unread with
        | nil => rfl
        | cons => simp [hunread, getline] at hget
      have hclosed : s.inputClosed = true := by simpa [hunread] using hline
      rw [StdioSession.readLine, hget]
      refine ⟨h.queue, h.replies, ?_, h.boundary, h.callbacks_lt, h.output,
        .closing rfl hclosed hunread messages (by rw [hposted]) hshutdowns, h.unasked⟩
      rw [← h.read]
      show s.handled ++ (s.posted ++ [StdioTask.close]).filterMap StdioTask.messageOf ++ _ =
        s.handled ++ s.postedMessages ++ _
      rw [List.filterMap_append, postedMessages]
      simp [StdioTask.messageOf]
  | some found =>
      obtain ⟨line, rest⟩ := found
      rw [readLine_some hget]
      refine ⟨h.queue, h.replies, ?_, ?_, h.callbacks_lt, h.output, ?_, h.unasked⟩
      · rw [← h.read, readLoop_some hget]
        show s.handled ++ (s.posted ++
            (parseMCPTransportLine json line).toList.map StdioTask.message).filterMap
              StdioTask.messageOf ++ readLoop json rest = _
        rw [messageOf_append]
        simp [postedMessages]
      · rcases h.boundary with hclosed | ⟨consumed, hwrote, hconsumed⟩
        · exact .inl hclosed
        · rcases hline with hmem | hclosed
          · refine .inr ⟨consumed ++ line ++ [newline], ?_, ?_⟩
            · rw [hwrote, getline_newline hmem hget]
              simp
            · exact Lines.unterminated_cons newline (consumed ++ line) []
          · exact .inl hclosed
      · refine .reading hreading (messages ++ (parseMCPTransportLine json line).toList) ?_
          hshutdowns
        simp [hposted]

theorem Sound.write (h : s.Sound json wrote) (hopen : s.inputClosed = false) (bytes : List UInt8) :
    ({ s with unread := s.unread ++ bytes } : StdioSession σ).Sound json (wrote ++ bytes) := by
  obtain ⟨consumed, hwrote, hconsumed⟩ : ∃ consumed, wrote = consumed ++ s.unread ∧
      Lines.unterminated newline consumed = [] := by
    rcases h.boundary with hclosed | hboundary
    · rw [hopen] at hclosed
      cases hclosed
    · exact hboundary
  refine ⟨h.queue, h.replies, ?_, ?_, h.callbacks_lt, h.output, ?_, h.unasked⟩
  · have hread := h.read
    rw [hwrote, readLoop_append hconsumed] at hread
    have hbefore : s.handled ++ s.postedMessages = readLoop json consumed :=
      List.append_cancel_right hread
    show s.handled ++ s.postedMessages ++ readLoop json (s.unread ++ bytes) = _
    rw [hbefore, hwrote, List.append_assoc, readLoop_append hconsumed]
  · exact .inr ⟨consumed, by rw [hwrote, List.append_assoc], hconsumed⟩
  · cases h.ending with
    | reading reading messages posted shutdowns => exact .reading reading messages posted shutdowns
    | closing reading inputClosed => rw [hopen] at inputClosed; cases inputClosed
    | closed reading inputClosed => rw [hopen] at inputClosed; cases inputClosed

theorem Sound.closeInput (h : s.Sound json wrote) :
    ({ s with inputClosed := true } : StdioSession σ).Sound json wrote := by
  refine ⟨h.queue, h.replies, h.read, .inl rfl, h.callbacks_lt, h.output, ?_, h.unasked⟩
  cases h.ending with
  | reading reading messages posted shutdowns => exact .reading reading messages posted shutdowns
  | closing reading inputClosed unread messages posted shutdowns =>
      exact .closing reading rfl unread messages posted shutdowns
  | closed reading inputClosed unread posted shutdowns =>
      exact .closed reading rfl unread posted shutdowns

/-- One step. -/
theorem Sound.step (h : s.Sound json wrote) {input : StdioInput σ}
    (hstep : s.step json input = some t) : t.Sound json (wrote ++ written [input]) := by
  cases input with
  | write bytes =>
      rw [StdioSession.step] at hstep
      split at hstep
      · cases hstep
      · rename_i hopen
        obtain rfl := (Option.some.inj hstep).symm
        simpa [written] using h.write (by simpa using hopen) bytes
  | closeInput =>
      obtain rfl := (Option.some.inj hstep).symm
      rw [show written [StdioInput.closeInput (σ := σ)] = [] from rfl, List.append_nil]
      exact h.closeInput
  | readLine =>
      rw [StdioSession.step] at hstep
      split at hstep
      · rename_i hready
        obtain rfl := (Option.some.inj hstep).symm
        have hready : s.reading = true ∧ (newline ∈ s.unread ∨ s.inputClosed = true) := by
          simpa using hready
        simpa [written] using h.readLine hready.1 hready.2
      · cases hstep
  | runTask =>
      rw [StdioSession.step] at hstep
      split at hstep
      · cases hstep
      · rename_i task posted hposted
        cases task with
        | message message => simpa [written] using h.message hposted hstep
        | close =>
            obtain rfl := (Option.some.inj hstep).symm
            simpa [written] using h.close hposted
  | server input =>
      obtain ⟨next, hserver, rfl⟩ := Option.map_eq_some_iff.mp hstep
      simpa [written] using h.serves hserver

theorem Sound.run (h : s.Sound json wrote) {inputs : List (StdioInput σ)}
    (hrun : Exec (Step (StdioSession.step json)) s inputs t) :
    t.Sound json (wrote ++ written inputs) := by
  induction hrun generalizing wrote with
  | nil s => simpa [written] using h
  | @cons s next t input inputs head tail ih =>
      have hwritten : written (input :: inputs) = written [input] ++ written inputs := by
        simp [written]
      rw [hwritten, ← List.append_assoc]
      exact ih (h.step head)

/-- A response is the proper reply to a message that came from stdin. -/
theorem Sound.response (h : s.Sound json wrote) {response : DictValue}
    (hresponse : response ∈ responsesTo s.callbacks s.server.log) :
    ∃ message ∈ s.handled, ProperReply message (some response) := by
  obtain ⟨⟨c, reply⟩, hreply, hsome⟩ := List.mem_filterMap.mp hresponse
  simp only at hsome
  split at hsome
  · rename_i hc
    rw [hsome] at hreply
    obtain ⟨message, hmessage, hproper⟩ := h.replies.proper c (some response) hreply
    exact ⟨message, List.mem_filterMap.mpr ⟨c, hc, hmessage⟩, hproper⟩
  · cases hsome

end StdioSession

/-- The lines that are written are the messages that can be serialized. -/
theorem serialized_read {json : JSONCodec} (hjson : json.Documented) (messages : List DictValue) :
    (Lines.terminated newline (serialized json messages)).filterMap (parseMCPTransportLine json) =
        messages.filter (fun message => (json.write message).isSome) ∧
      Lines.unterminated newline (serialized json messages) = [] := by
  have hwire : (messages.filter fun message => (json.write message).isSome).mapM
      (serializeMCPTransportMessage json) =
        some (messages.filterMap (serializeMCPTransportMessage json)) := by
    induction messages with
    | nil => rfl
    | cons message messages ih =>
        cases hwrite : json.write message with
        | none => simpa [serializeMCPTransportMessage, hwrite] using ih
        | some text => simp [List.mapM_cons, serializeMCPTransportMessage, hwrite, ih]
  obtain ⟨lines, hjoin, hlines, hparse⟩ := serialized_lines hjson _ _ hwire
  rw [serialized, hjoin]
  constructor
  · have hterminated : Lines.terminated newline (Lines.join newline lines) = lines := by
      simpa [Lines.terminated_of_notMem] using Lines.terminated_join hlines []
    rw [hterminated, hparse]
  · simpa [Lines.unterminated_of_notMem] using Lines.unterminated_join newline lines []

/-- However the client's writes, the reader thread, the main thread and the other transports take
turns: the server is given the messages of stdin in their order, each once, and all of them before
the end of stdin shuts the browser down, which it does at most once and only if it is to; and what
has been written to stdout reads back as the responses to those messages. -/
theorem stdioSession_inOrder {σ : Type*} {json : JSONCodec} (hjson : json.Documented)
    (tools : List (MCPToolDef σ)) (hasController : Bool) (browser : σ)
    (shutdownOnStdioClose : Bool) {inputs : List (StdioInput σ)} {s : StdioSession σ}
    (hrun : Exec (Step (StdioSession.step json))
      (StdioSession.start (MCPServer.init tools hasController browser) shutdownOnStdioClose)
      inputs s) :
    s.handled ++ s.postedMessages ++ readLoop json s.unread = readLoop json (written inputs) ∧
      (s.reading = false → s.handled ++ s.postedMessages = readLoop json (written inputs)) ∧
      s.shutdowns ≤ 1 ∧
      (s.shutdowns = 1 →
        s.shutdownOnStdioClose = true ∧ s.handled = readLoop json (written inputs)) ∧
      (Lines.terminated newline s.output).filterMap (parseMCPTransportLine json) =
        (responsesTo s.callbacks s.server.log).filter
          (fun response => (json.write response).isSome) ∧
      Lines.unterminated newline s.output = [] ∧
      ∀ response ∈ responsesTo s.callbacks s.server.log,
        ∃ message ∈ s.handled, ProperReply message (some response) := by
  have h : s.Sound json (written inputs) :=
    (StdioSession.start_sound json (MCPServer.init_queueInvariant tools hasController browser)
      ReplyHistory.start shutdownOnStdioClose).run hrun
  have hover : s.unread = [] → s.handled ++ s.postedMessages = readLoop json (written inputs) := by
    intro hunread
    rw [← h.read, hunread, readLoop_nil_input, List.append_nil]
  have hlast : s.shutdowns ≤ 1 ∧ (s.shutdowns = 1 → s.unread = [] ∧ s.posted = []) ∧
      (s.reading = false → s.unread = []) := by
    cases h.ending with
    | reading reading messages posted shutdowns => simp [reading, shutdowns]
    | closing reading inputClosed unread messages posted shutdowns => simp [unread, shutdowns]
    | closed reading inputClosed unread posted shutdowns =>
        exact ⟨shutdowns, fun _ => ⟨unread, posted⟩, fun _ => unread⟩
  refine ⟨h.read, fun hreading => hover (hlast.2.2 hreading), hlast.1, ?_, ?_, ?_,
    fun _ => h.response⟩
  · intro hshutdowns
    obtain ⟨hunread, hposted⟩ := hlast.2.1 hshutdowns
    constructor
    · by_contra hunasked
      have hnone := h.unasked (by simpa using hunasked)
      omega
    · have hall := hover hunread
      rwa [StdioSession.postedMessages, hposted, List.filterMap_nil, List.append_nil] at hall
  · rw [h.output]
    exact (serialized_read hjson _).1
  · rw [h.output]
    exact (serialized_read hjson _).2

def asciiText (text : String) : List UInt8 :=
  text.toList.map fun c => UInt8.ofNat c.toNat

def openingText : List UInt8 :=
  asciiText "\x7b\"method\":\"notifications/initialized\"\x7d"

def pingText : List UInt8 :=
  asciiText "\x7b\"id\":7,\"method\":\"ping\"\x7d"

def pongText : List UInt8 :=
  asciiText "\x7b\"id\":7,\"jsonrpc\":\"2.0\",\"result\":\x7b\x7d\x7d"

/-- A codec that knows an opening message, a ping and its response. -/
def pingJSON : JSONCodec where
  write
    | [("method", .string "notifications/initialized")] => some openingText
    | [("id", .integer id), ("method", .string "ping")] => if id = 7 then some pingText else none
    | [("jsonrpc", .string "2.0"), ("id", .integer id), ("result", .dict [])] =>
        if id = 7 then some pongText else none
    | _ => none
  readDict text :=
    let line := text.rdropWhile (· == carriageReturn)
    if line = openingText then some [("method", .string "notifications/initialized")]
    else if line = pingText then some [("id", .integer 7), ("method", .string "ping")]
    else if line = pongText then some (MCPServer.resultResponse (.integer 7) [])
    else none

theorem pingJSON_write {message : DictValue} {text : List UInt8}
    (h : pingJSON.write message = some text) :
    (message = [("method", .string "notifications/initialized")] ∧ text = openingText) ∨
      (message = [("id", .integer 7), ("method", .string "ping")] ∧ text = pingText) ∨
      (message = MCPServer.resultResponse (.integer 7) [] ∧ text = pongText) := by
  simp only [pingJSON] at h
  split at h
  · exact .inl ⟨rfl, (Option.some.inj h).symm⟩
  · split at h
    · rename_i hid
      subst hid
      exact .inr (.inl ⟨rfl, (Option.some.inj h).symm⟩)
    · cases h
  · split at h
    · rename_i hid
      subst hid
      exact .inr (.inr ⟨rfl, (Option.some.inj h).symm⟩)
    · cases h
  · cases h

theorem pingJSON_documented : pingJSON.Documented where
  write_noRawNewline h := by
    rcases pingJSON_write h with ⟨-, rfl⟩ | ⟨-, rfl⟩ | ⟨-, rfl⟩ <;> decide
  readDict_write h := by
    rcases pingJSON_write h with ⟨rfl, rfl⟩ | ⟨rfl, rfl⟩ | ⟨rfl, rfl⟩ <;> rfl
  readDict_carriageReturn text := by
    simp [pingJSON, List.rdropWhile_concat_pos]
  readDict_nil := rfl

/-- The client opens the session, writes a ping in two pieces and closes stdin. -/
def pingSession : List (StdioInput Unit) :=
  [.write (openingText ++ [newline] ++ pingText), .readLine, .runTask, .write [newline],
    .closeInput, .readLine, .readLine, .runTask, .runTask]

theorem stdioSession_inOrder_sample :
    ∃ s : StdioSession Unit, Exec (Step (StdioSession.step pingJSON))
        (StdioSession.start (MCPServer.init [] true ()) true) pingSession s ∧
      s.shutdowns = 1 ∧ s.handled = readLoop pingJSON (written pingSession) ∧
      s.handled.length = 2 ∧
      (Lines.terminated newline s.output).filterMap (parseMCPTransportLine pingJSON) =
        [MCPServer.resultResponse (.integer 7) []] := by
  have hrun : Exec (Step (StdioSession.step pingJSON))
      (StdioSession.start (MCPServer.init [] true ()) true) pingSession _ :=
    .cons rfl (.cons rfl (.cons rfl (.cons rfl (.cons rfl (.cons rfl (.cons rfl
      (.cons rfl (.cons rfl (.nil _)))))))))
  obtain ⟨-, -, -, hall, hread, -⟩ := stdioSession_inOrder pingJSON_documented [] true () true hrun
  exact ⟨_, hrun, rfl, (hall rfl).2, rfl, hread⟩

end Browserd
