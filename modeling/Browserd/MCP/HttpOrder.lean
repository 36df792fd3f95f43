import Browserd.MCP.HttpPipeline
import Browserd.MCP.ReplyDiscipline

/-!
# The order of the HTTP responses

On a connection whose client sends requests without waiting, the transport refuses at once, the
server answers at once or after the tool calls before, and each response is sent as soon as there
is one.
-/

namespace Browserd

open Transition

namespace MCPServer

variable {σ : Type*} {s t : MCPServer σ}

/-- A run through the queue answers its first calls in order. -/
theorem executeNextToolCall_replies (hidle : s.outstanding = []) :
    ∃ replies, sentReplies s.executeNextToolCall.log = sentReplies s.log ++ replies ∧
      s.queuedCalls = replies.map Prod.fst ++ s.executeNextToolCall.pendingCalls := by
  apply executeNextToolCall_induction
    (P := fun u => u.outstanding = [] ∧ ∃ replies,
      sentReplies u.log = sentReplies s.log ++ replies ∧
        s.queuedCalls = replies.map Prod.fst ++ u.queuedCalls)
    (Q := fun u => ∃ replies, sentReplies u.log = sentReplies s.log ++ replies ∧
      s.queuedCalls = replies.map Prod.fst ++ u.pendingCalls)
  case hanswered =>
    rintro u call rest browser events answer ⟨hidle, replies, hsent, hqueue⟩ hq _ hevents
    have hquiet : sentReplies events = [] := by
      rcases hevents with ⟨rfl, -⟩ | ⟨rfl, -⟩ <;> rfl
    refine ⟨hidle, replies ++ [(call.responseCallback, some answer)], ?_, ?_⟩
    · simp only [sentReplies] at hsent hquiet
      simp [answered, sentReplies, hsent, hquiet]
    · simpa [answered, queuedCalls, hq] using hqueue
  case hempty =>
    rintro u ⟨hidle, replies, hsent, hqueue⟩ hq
    refine ⟨replies, hsent, ?_⟩
    simpa [pendingCalls, outstandingCalls, queuedCalls, hidle, hq] using hqueue
  case hpending =>
    rintro u call rest browser ⟨hidle, replies, hsent, hqueue⟩ hq _
    refine ⟨replies, ?_, ?_⟩
    · simp only [sentReplies] at hsent
      simp [keptPending, sentReplies, hsent]
    · simpa [keptPending, pendingCalls, outstandingCalls, queuedCalls, hidle, hq,
        PendingToolCall.resultCallback] using hqueue
  case hs => exact ⟨hidle, [], by simp, by simp⟩

/-- Only a call that is answered at once is not put into the queue. -/
theorem onMessage_queued {message : DictValue} (callback : MCPResponseCallback)
    (h : s.answersAtOnce message = false) :
    ∃ call : PendingToolCall, call.responseCallback = callback ∧
      s.onMessage message callback =
        if s.toolCallInProgress = false then (s.enqueued call).executeNextToolCall
        else s.enqueued call := by
  simp only [answersAtOnce, Bool.not_eq_false', Bool.and_eq_true, beq_iff_eq,
    Option.isSome_iff_exists] at h
  obtain ⟨⟨⟨hinit, hmethod⟩, id, hid⟩, toolName, hname⟩ := h
  refine ⟨⟨toolName, (((message.findDict "params").getD []).findDict "arguments").getD [], id,
    callback⟩, rfl, ?_⟩
  simp [onMessage, hmethod, hinit, hid, handleToolsCall, hname, enqueued, record]

/-- A call joins the queue, and the queue may run. -/
theorem QueueInvariant.enqueued_replies {message : DictValue} {call : PendingToolCall}
    (h : QueueInvariant s) (ht : t =
      let u := (s.record (.received message)).enqueued call
      if s.toolCallInProgress = false then u.executeNextToolCall else u) :
    ∃ replies, sentReplies t.log = sentReplies s.log ++ replies ∧
      s.pendingCalls ++ [call.responseCallback] = replies.map Prod.fst ++ t.pendingCalls := by
  have hsent : sentReplies ((s.record (.received message)).enqueued call).log =
      sentReplies s.log := by simp [sentReplies, enqueued, record]
  have hqueued : ((s.record (.received message)).enqueued call).queuedCalls =
      s.queuedCalls ++ [call.responseCallback] := by simp [queuedCalls, enqueued, record]
  simp only at ht
  split at ht
  · rename_i hprogress
    have hidle := h.idle hprogress
    obtain ⟨replies, hreplies, hpending⟩ := executeNextToolCall_replies
      (s := (s.record (.received message)).enqueued call) hidle
    rw [hsent] at hreplies
    rw [hqueued] at hpending
    refine ⟨replies, ht ▸ hreplies, ?_⟩
    rw [ht, ← hpending, pendingCalls, outstandingCalls, hidle]
    rfl
  · refine ⟨[], by rw [ht, hsent, List.append_nil], ?_⟩
    rw [ht, pendingCalls, pendingCalls, hqueued, List.append_assoc]
    rfl

/-- A message is answered alone or its call joins those that are answered in order. -/
theorem QueueInvariant.message_replies {message : DictValue} (h : QueueInvariant s)
    (hstep : step s (.message message) = some t) :
    (s.answersAtOnce message = true ∧ t.pendingCalls = s.pendingCalls ∧ ∃ response,
        sentReplies t.log = sentReplies s.log ++ [((receivedMessages s.log).length, response)]) ∨
      ∃ replies, sentReplies t.log = sentReplies s.log ++ replies ∧
        s.pendingCalls ++ [(receivedMessages s.log).length] =
          replies.map Prod.fst ++ t.pendingCalls := by
  obtain rfl := Option.some.inj hstep
  cases hatOnce : s.answersAtOnce message with
  | false =>
      obtain ⟨call, hcall, heq⟩ := onMessage_queued (s := s.record (.received message))
        (receivedMessages s.log).length hatOnce
      rw [← hcall]
      exact .inr (h.enqueued_replies (hcall ▸ heq))
  | true =>
      rcases onMessage_cases message (receivedMessages s.log).length (s.record (.received message))
        with ⟨response, -, heq⟩ | ⟨call, -, -, -, hcall, heq⟩
      · rw [heq]
        refine .inl ⟨rfl, rfl, response, ?_⟩
        simp [answeredAtOnce, record, sentReplies]
      · rw [← hcall]
        exact .inr (h.enqueued_replies (hcall ▸ heq))

/-- Any other step answers the first of them. -/
theorem QueueInvariant.other_replies {input : Input σ} (h : QueueInvariant s)
    (hother : ∀ message, input ≠ .message message) (hstep : step s input = some t) :
    ∃ replies, sentReplies t.log = sentReplies s.log ++ replies ∧
      s.pendingCalls = replies.map Prod.fst ++ t.pendingCalls := by
  cases input with
  | message message => exact absurd rfl (hother message)
  | toolResult c content isError =>
      obtain ⟨cb, hone, rfl, rfl⟩ := h.toolResult_cases hstep
      rw [onToolCallComplete]
      obtain ⟨replies, hreplies, hpending⟩ := executeNextToolCall_replies
        (s := ({ s with outstanding := [] }.record (.completed cb.responseCallback)).sendResult
          cb.id (toolCallResult content isError) cb.responseCallback) rfl
      refine ⟨(cb.responseCallback, some (resultResponse cb.id (toolCallResult content isError))) ::
        replies, ?_, ?_⟩
      · rw [hreplies]
        simp [sendResult, record, sentReplies]
      · rw [List.map_cons, List.cons_append, ← hpending, pendingCalls, outstandingCalls, hone]
        rfl
  | setController present =>
      obtain rfl := Option.some.inj hstep
      exact ⟨[], by simp, rfl⟩
  | browserChange browser =>
      obtain rfl := Option.some.inj hstep
      exact ⟨[], by simp, rfl⟩

/-- Every message has been answered or waits. -/
theorem received_length (h : ReplyHistory s.log s.pendingReplies) :
    (receivedMessages s.log).length = (sentReplies s.log).length + s.pendingCalls.length := by
  have hlength := h.conserved.length_eq
  simpa [repliedCalls, pendingReplies, pendingCalls, outstandingCalls, queuedCalls] using hlength

theorem QueueInvariant.pendingCalls_lt (h : QueueInvariant s) :
    ∀ c ∈ s.pendingCalls, c < (receivedMessages s.log).length := by
  intro c hc
  apply h.history.accepted_lt
  rw [h.history.order, List.append_assoc]
  exact List.mem_append_right _ hc

end MCPServer

namespace HttpTicket

variable {connection : Int} {ticket : HttpTicket} {tickets tickets' : List HttpTicket}

@[simp] theorem on_nil : on connection [] = [] := rfl

@[simp] theorem on_append :
    on connection (tickets ++ tickets') = on connection tickets ++ on connection tickets' :=
  List.filter_append _ _

theorem on_cons_self : on ticket.connection (ticket :: tickets) =
    ticket :: on ticket.connection tickets :=
  List.filter_cons_of_pos (by simp)

theorem on_cons_of_ne (h : connection ≠ ticket.connection) :
    on connection (ticket :: tickets) = on connection tickets :=
  List.filter_cons_of_neg (by simpa using Ne.symm h)

theorem notMem_of_on (h : on ticket.connection tickets = []) : ticket ∉ tickets := by
  intro hmem
  have hon : ticket ∈ on ticket.connection tickets := List.mem_filter.mpr ⟨hmem, by simp⟩
  simp [h] at hon

end HttpTicket

namespace HttpPipeline

variable {σ : Type*} {transport : MCPHttpTransport} {s t : HttpPipeline σ}
  {owners : List (Option HttpTicket)}

/-- The tickets of the calls that get these replies. -/
def posted (owners : List (Option HttpTicket))
    (replies : List (MCPResponseCallback × Option DictValue)) :
    List (HttpTicket × Option DictValue) :=
  replies.filterMap fun reply => (owner owners reply.1).map fun ticket => (ticket, reply.2)

theorem posted_tickets (replies : List (MCPResponseCallback × Option DictValue)) :
    (posted owners replies).map Prod.fst = (replies.map Prod.fst).filterMap (owner owners) := by
  rw [posted, List.map_filterMap, List.filterMap_map]
  congr 1
  funext reply
  simp only [Function.comp_apply]
  cases owner owners reply.1 <;> rfl

/-- Replies to the calls that are first in line. -/
theorem runReplies_inOrder {rest : List MCPResponseCallback}
    {replies : List (MCPResponseCallback × Option DictValue)} {http : HttpRun}
    (h : http.callbacks = (replies.map Prod.fst ++ rest).filterMap (owner owners)) :
    replies.foldl (runReply transport owners) http =
      { http with
        callbacks := rest.filterMap (owner owners)
        httpTasks := http.httpTasks ++ posted owners replies } := by
  induction replies generalizing http with
  | nil =>
      simp only [List.map_nil, List.nil_append] at h
      simp [posted, ← h]
  | cons reply replies ih =>
      rw [List.foldl_cons]
      simp only [List.map_cons, List.cons_append, List.filterMap_cons] at h
      cases howner : owner owners reply.1 with
      | none =>
          have hsame : runReply transport owners http reply = http := by
            simp [runReply, howner]
          rw [howner] at h
          rw [hsame, ih h]
          simp [posted, howner]
      | some ticket =>
          rw [howner] at h
          have hrun : runReply transport owners http reply =
              { http with
                callbacks := (replies.map Prod.fst ++ rest).filterMap (owner owners)
                httpTasks := http.httpTasks ++ [(ticket, reply.2)] } := by
            simp [runReply, howner, HttpRun.step, h]
          rw [hrun, ih rfl]
          simp [posted, howner]

end HttpPipeline

/-- The tickets of an open connection are in one line: answered, then to be sent, then at the
server, then posted to it. -/
structure HttpRun.Line (http : HttpRun) (connected : List Int) : Prop where
  inv : http.Inv
  fresh : ∀ connection, connection ∉ connected →
    connection ∉ http.openConnections ∧ HttpTicket.on connection http.arrived = []
  line : ∀ connection ∈ http.openConnections, HttpTicket.on connection http.arrived =
    HttpTicket.on connection (http.sent.map Prod.fst) ++
      (HttpTicket.on connection (http.httpTasks.map Prod.fst) ++
        (HttpTicket.on connection http.callbacks ++
          HttpTicket.on connection (http.mainTasks.map Prod.fst)))
  ordered : ∀ connection, HttpTicket.on connection (http.sent.map Prod.fst) <+:
    HttpTicket.on connection http.arrived

namespace HttpRun

variable {transport : MCPHttpTransport} {http http' : HttpRun} {connected : List Int}

theorem Inv.everywhere_arrived {ticket : HttpTicket} (h : http.Inv)
    (hmem : ticket ∈ http.everywhere) : ticket ∈ http.arrived := by
  rw [← List.count_pos_iff, ← h.placed]
  exact List.count_pos_iff.mpr hmem

/-- A connection on which nothing has come in. -/
theorem Inv.on_everywhere {connection : Int} (h : http.Inv)
    (hnone : HttpTicket.on connection http.arrived = []) :
    HttpTicket.on connection http.everywhere = [] := by
  refine List.filter_eq_nil_iff.mpr ?_
  intro ticket hmem
  exact List.filter_eq_nil_iff.mp hnone ticket (h.everywhere_arrived hmem)

/-- Nothing but the state of the connections changes. -/
theorem Line.connections (h : http.Line connected) {connected' : List Int}
    (hsame : http' = { http with
      running := http'.running
      openConnections := http'.openConnections })
    (hopen : ∀ connection ∈ http'.openConnections, connection ∈ http.openConnections ∨
      HttpTicket.on connection http.arrived = [])
    (hfresh : ∀ connection, connection ∉ connected' →
      connection ∉ connected ∧ connection ∉ http'.openConnections) :
    http'.Line connected' := by
  rw [hsame]
  apply Line.mk
  · exact ⟨h.inv.numbered, h.inv.placed⟩
  · intro connection hnot
    exact ⟨(hfresh connection hnot).2, (h.fresh connection (hfresh connection hnot).1).2⟩
  · intro connection hmem
    rcases hopen connection hmem with hmem | hnone
    · exact h.line connection hmem
    · have heverywhere := h.inv.on_everywhere hnone
      simp only [everywhere, HttpTicket.on_append, List.append_eq_nil_iff] at heverywhere
      obtain ⟨⟨⟨⟨hmain, hcallbacks⟩, hhttp⟩, hsent⟩, -⟩ := heverywhere
      simp only [hnone, hsent, hhttp, hcallbacks, hmain, List.append_nil]
  · exact h.ordered

theorem Line.admit {connection : Int} {message : DictValue} (h : http.Line connected)
    (hopen : connection ∈ http.openConnections) :
    Line { http.arrive (http.ticket connection) with
      mainTasks := http.mainTasks ++ [(http.ticket connection, message)] } connected := by
  apply Line.mk
  · apply h.inv.arrive rfl
    intro other
    simp only [everywhere, arrive, List.map_append, List.map_cons, List.map_nil,
      List.count_append]
    omega
  · intro other hnot
    have hne : other ≠ connection := by
      rintro rfl
      exact (h.fresh other hnot).1 hopen
    refine ⟨(h.fresh other hnot).1, ?_⟩
    simp only [arrive, HttpTicket.on_append, (h.fresh other hnot).2, List.nil_append]
    exact HttpTicket.on_cons_of_ne hne
  · intro other hother
    simp only [arrive, List.map_append, List.map_cons, List.map_nil, HttpTicket.on_append,
      h.line other hother, List.append_assoc]
  · intro other
    simp only [arrive, HttpTicket.on_append]
    exact (h.ordered other).trans (List.prefix_append _ _)

/-- A refusal is sent at once, and nothing waits before it. -/
theorem Line.refuse {connection : Int} (response : HttpServerResponseInfo)
    (h : http.Line connected) (hopen : connection ∈ http.openConnections)
    (hmain : HttpTicket.on connection (http.mainTasks.map Prod.fst) = [])
    (hcallbacks : HttpTicket.on connection http.callbacks = [])
    (hhttp : HttpTicket.on connection (http.httpTasks.map Prod.fst) = []) :
    Line ((http.arrive (http.ticket connection)).send (http.ticket connection) response)
      connected := by
  have hsend := send_places (http.ticket connection) response (http.arrive (http.ticket connection))
  have hinv := h.inv.arrive hsend.1 hsend.2
  have hsent : (http.arrive (http.ticket connection)).send (http.ticket connection) response =
      { http.arrive (http.ticket connection) with
        sent := http.sent ++ [(http.ticket connection, response)] } := send_open hopen
  rw [hsent] at hinv ⊢
  have hall : HttpTicket.on connection http.arrived =
      HttpTicket.on connection (http.sent.map Prod.fst) := by
    simpa [hmain, hcallbacks, hhttp] using h.line connection hopen
  have hself : HttpTicket.on connection [http.ticket connection] = [http.ticket connection] :=
    HttpTicket.on_cons_self
  have hother (other : Int) (hne : other ≠ connection) :
      HttpTicket.on other [http.ticket connection] = [] :=
    HttpTicket.on_cons_of_ne hne
  apply Line.mk hinv
  · intro other hnot
    have hne : other ≠ connection := by
      rintro rfl
      exact (h.fresh other hnot).1 hopen
    refine ⟨(h.fresh other hnot).1, ?_⟩
    simp only [arrive, HttpTicket.on_append, (h.fresh other hnot).2, List.nil_append,
      hother other hne]
  · intro other hmem
    by_cases hne : other = connection
    · subst hne
      simp only [arrive, List.map_append, List.map_cons, List.map_nil, HttpTicket.on_append, hall,
        hmain, hcallbacks, hhttp, List.append_nil]
    · simp only [arrive, List.map_append, List.map_cons, List.map_nil, HttpTicket.on_append,
        hother other hne, List.append_nil, h.line other hmem]
  · intro other
    by_cases hne : other = connection
    · subst hne
      simp only [arrive, List.map_append, List.map_cons, List.map_nil, HttpTicket.on_append, hall]
      exact List.prefix_rfl
    · simp only [arrive, List.map_append, List.map_cons, List.map_nil, HttpTicket.on_append,
        hother other hne, List.append_nil]
      exact h.ordered other

/-- The first of the posted replies is sent, or its connection is gone. -/
theorem Line.runHttpTask (h : http.Line connected)
    (hstep : http.step transport .runHttpTask = some http') : http'.Line connected := by
  have hinv := h.inv.step hstep
  simp only [step] at hstep
  split at hstep
  · cases hstep
  · rename_i ticket response rest htasks
    obtain rfl := Option.some.inj hstep
    have hline := h.line
    rw [htasks] at hline
    by_cases hopen : ticket.connection ∈ http.openConnections
    · rw [send_open (s := { http with httpTasks := rest }) hopen] at hinv ⊢
      have hmoved (connection : Int) (hmem : connection ∈ http.openConnections) :
          HttpTicket.on connection http.arrived =
            HttpTicket.on connection ((http.sent ++ [(ticket, transport.mcpResponse response)]).map
              Prod.fst) ++ (HttpTicket.on connection (rest.map Prod.fst) ++
              (HttpTicket.on connection http.callbacks ++
                HttpTicket.on connection (http.mainTasks.map Prod.fst))) := by
        rw [hline connection hmem, List.map_append, HttpTicket.on_append, List.map_cons,
          ← List.singleton_append, HttpTicket.on_append]
        simp only [List.map_cons, List.map_nil, List.append_assoc]
      apply Line.mk hinv h.fresh hmoved
      intro connection
      by_cases hconnection : connection = ticket.connection
      · subst hconnection
        rw [hmoved _ hopen]
        exact List.prefix_append _ _
      · simp only [List.map_append, List.map_cons, List.map_nil, HttpTicket.on_append,
          HttpTicket.on_cons_of_ne hconnection, HttpTicket.on_nil, List.append_nil]
        exact h.ordered connection
    · rw [send_closed (s := { http with httpTasks := rest }) hopen] at hinv ⊢
      refine Line.mk hinv h.fresh ?_ h.ordered
      intro connection hmem
      have hne : connection ≠ ticket.connection := by
        rintro rfl
        exact hopen hmem
      have hbefore := hline connection hmem
      rwa [List.map_cons, HttpTicket.on_cons_of_ne hne] at hbefore

/-- The main thread takes the first message. -/
theorem Line.runMainTask {ticket : HttpTicket} {message : DictValue}
    {rest : List (HttpTicket × DictValue)} (h : http.Line connected)
    (htasks : http.mainTasks = (ticket, message) :: rest) :
    Line { http with mainTasks := rest, callbacks := http.callbacks ++ [ticket] } connected := by
  apply Line.mk
  · refine h.inv.move rfl ?_
    intro other
    simp only [everywhere, htasks, List.map_cons, List.count_append, List.count_cons,
      List.count_nil]
    omega
  · exact h.fresh
  · intro connection hmem
    have hbefore := h.line connection hmem
    rw [htasks, List.map_cons, ← List.singleton_append, HttpTicket.on_append] at hbefore
    rw [hbefore, HttpTicket.on_append, List.append_assoc]
  · exact h.ordered

/-- The server answers the first message at once, and none of its connection waits there. -/
theorem Line.answerAtOnce {ticket : HttpTicket} {message : DictValue}
    {rest : List (HttpTicket × DictValue)} (response : Option DictValue) (h : http.Line connected)
    (htasks : http.mainTasks = (ticket, message) :: rest)
    (hnone : HttpTicket.on ticket.connection http.callbacks = []) :
    Line { http with mainTasks := rest, httpTasks := http.httpTasks ++ [(ticket, response)] }
      connected := by
  apply Line.mk
  · refine h.inv.move rfl ?_
    intro other
    simp only [everywhere, htasks, List.map_append, List.map_cons, List.map_nil, List.count_append,
      List.count_cons, List.count_nil]
    omega
  · exact h.fresh
  · intro connection hmem
    have hbefore := h.line connection hmem
    rw [htasks, List.map_cons, ← List.singleton_append, HttpTicket.on_append] at hbefore
    rw [hbefore, List.map_append, HttpTicket.on_append]
    by_cases hconnection : connection = ticket.connection
    · subst hconnection
      simp only [hnone, List.map_cons, List.map_nil, List.nil_append, List.append_assoc]
    · simp only [List.map_cons, List.map_nil, HttpTicket.on_cons_of_ne hconnection,
        HttpTicket.on_nil, List.nil_append, List.append_nil]
  · exact h.ordered

end HttpRun

namespace HttpPipeline

variable {σ : Type*} {transport : MCPHttpTransport} {s t : HttpPipeline σ}

structure Inv (s : HttpPipeline σ) : Prop where
  queue : s.server.QueueInvariant
  replies : ReplyHistory s.server.log s.server.pendingReplies
  owners : s.owners.length = (receivedMessages s.server.log).length
  callbacks : s.http.callbacks = s.server.pendingCalls.filterMap (owner s.owners)
  line : s.http.Line s.connected

theorem start_inv (tools : List (MCPToolDef σ)) (hasController : Bool) (browser : σ) :
    (start tools hasController browser).Inv where
  queue := MCPServer.init_queueInvariant tools hasController browser
  replies := ReplyHistory.start
  owners := rfl
  callbacks := rfl
  line := ⟨HttpRun.start_inv, fun _ _ => ⟨by simp [start, HttpRun.start], rfl⟩,
    fun _ _ => rfl, fun _ => List.prefix_rfl⟩

theorem owner_append {owners added : List (Option HttpTicket)} {callback : MCPResponseCallback}
    (h : callback < owners.length) : owner (owners ++ added) callback = owner owners callback := by
  rw [owner, owner, List.getElem?_append_left h]

theorem owner_last (owners : List (Option HttpTicket)) (ticket : Option HttpTicket) :
    owner (owners ++ [ticket]) owners.length = ticket := by
  rw [owner, List.getElem?_concat_length]
  rfl

/-- The calls that wait keep their tickets. -/
theorem Inv.callbacks_append (h : s.Inv) (added : List (Option HttpTicket)) :
    s.server.pendingCalls.filterMap (owner (s.owners ++ added)) = s.http.callbacks := by
  rw [h.callbacks]
  refine List.filterMap_congr ?_
  intro callback hmem
  apply owner_append
  rw [h.owners]
  exact h.queue.pendingCalls_lt callback hmem

/-- The server answers the first calls in line, and their replies are posted in line. -/
theorem serverStep_inOrder {input : MCPServer.Input σ} {server : MCPServer σ}
    {added : List (Option HttpTicket)}
    {replies : List (MCPResponseCallback × Option DictValue)}
    (hqueue : s.server.QueueInvariant)
    (hhistory : ReplyHistory s.server.log s.server.pendingReplies)
    (hserver : s.server.step input = some server)
    (hsent : sentReplies server.log = sentReplies s.server.log ++ replies)
    (howners : (s.owners ++ added).length = (receivedMessages server.log).length)
    (hcallbacks : s.http.callbacks =
      (replies.map Prod.fst ++ server.pendingCalls).filterMap (owner (s.owners ++ added)))
    (hline : s.http.Line s.connected) (hstep : s.serverStep transport input added = some t) :
    t.Inv := by
  simp only [serverStep, hserver, Option.map_some, hsent, List.drop_left] at hstep
  obtain rfl := Option.some.inj hstep
  rw [runReplies_inOrder hcallbacks]
  apply Inv.mk (MCPServer.step_queueInvariant hqueue hserver)
    (MCPServer.step_replyHistory hhistory hserver) howners rfl
  rw [List.filterMap_append] at hcallbacks
  apply HttpRun.Line.mk
  · refine hline.inv.move rfl ?_
    intro other
    simp only [HttpRun.everywhere, hcallbacks, List.map_append, posted_tickets, List.count_append]
    omega
  · exact hline.fresh
  · intro connection hmem
    rw [hline.line connection hmem, hcallbacks]
    simp only [List.map_append, posted_tickets, HttpTicket.on_append, List.append_assoc]
  · exact hline.ordered

/-- A step of the server that is not about a message of this transport. -/
theorem Inv.server {input : MCPServer.Input σ} (h : s.Inv)
    (hstep : s.step transport (.server input) = some t) : t.Inv := by
  obtain ⟨server, hserver, -⟩ := Option.map_eq_some_iff.mp hstep
  have hlength := MCPServer.received_length h.replies
  have hlength' := MCPServer.received_length (MCPServer.step_replyHistory h.replies hserver)
  have howners := h.owners
  cases input with
  | message message =>
      have hnone := owner_last s.owners none
      rw [h.owners] at hnone
      rcases h.queue.message_replies hserver with
        ⟨-, hpending, response, hsent⟩ | ⟨replies, hsent, hpending⟩
      · refine serverStep_inOrder h.queue h.replies hserver hsent ?_ ?_ h.line hstep
        · rw [hsent, hpending] at hlength'
          simp only [List.length_append, List.length_singleton] at hlength' ⊢
          omega
        · rw [List.map_singleton, List.singleton_append, List.filterMap_cons, hnone, hpending,
            h.callbacks_append]
      · refine serverStep_inOrder h.queue h.replies hserver hsent ?_ ?_ h.line hstep
        · have hcounts := congrArg List.length hpending
          rw [hsent] at hlength'
          simp only [List.length_append, List.length_singleton, List.length_map]
            at hcounts hlength' ⊢
          omega
        · rw [← hpending, List.filterMap_append, h.callbacks_append, List.filterMap_cons, hnone,
            List.filterMap_nil, List.append_nil]
  | _ =>
      obtain ⟨replies, hsent, hpending⟩ := h.queue.other_replies (by simp) hserver
      refine serverStep_inOrder h.queue h.replies hserver hsent ?_ ?_ h.line hstep
      · have hcounts := congrArg List.length hpending
        rw [hsent] at hlength'
        simp only [List.length_append, List.length_map, List.length_nil] at hcounts hlength' ⊢
        omega
      · rw [← hpending, h.callbacks_append]

/-- A message of this transport. -/
theorem Inv.runMainTask (h : s.Inv) (hturn : s.inTurn transport .runMainTask)
    (hstep : s.step transport .runMainTask = some t) : t.Inv := by
  simp only [step] at hstep
  simp only [inTurn] at hturn
  cases htasks : s.http.mainTasks with
  | nil => simp [htasks] at hstep
  | cons task rest =>
      obtain ⟨ticket, message⟩ := task
      have hhttp : s.http.step transport .runMainTask = some { s.http with
          mainTasks := rest
          callbacks := s.http.callbacks ++ [ticket] } := by
        simp only [HttpRun.step, htasks]
      simp only [htasks, hhttp, Option.bind_some] at hstep hturn
      obtain ⟨server, hserver, heq⟩ := Option.map_eq_some_iff.mp hstep
      have hlength := MCPServer.received_length h.replies
      have hlength' := MCPServer.received_length (MCPServer.step_replyHistory h.replies hserver)
      have howners := h.owners
      have howner := owner_last s.owners (some ticket)
      rw [h.owners] at howner
      rcases h.queue.message_replies hserver with
        ⟨hatOnce, hpending, response, hsent⟩ | ⟨replies, hsent, hpending⟩
      · have hnone : HttpTicket.on ticket.connection s.http.callbacks = [] := by
          simpa [hatOnce] using hturn
        have hnot := HttpTicket.notMem_of_on hnone
        have hline := h.line.answerAtOnce response htasks hnone
        simp only [hsent, List.drop_left, List.foldl_cons, List.foldl_nil, runReply, howner,
          HttpRun.step, List.mem_append, List.mem_singleton, or_true, if_true,
          Option.getD_some, List.erase_append_right _ hnot, List.erase_cons_head,
          List.append_nil] at heq
        subst heq
        refine ⟨MCPServer.step_queueInvariant h.queue hserver,
          MCPServer.step_replyHistory h.replies hserver, ?_, ?_, hline⟩
        · rw [hsent, hpending] at hlength'
          simp only [List.length_append, List.length_singleton] at hlength' ⊢
          omega
        · rw [hpending]
          exact (h.callbacks_append [some ticket]).symm
      · let taken := { s.http with mainTasks := rest, callbacks := s.http.callbacks ++ [ticket] }
        refine serverStep_inOrder (s := { s with http := taken }) h.queue h.replies hserver hsent
          ?_ ?_ (h.line.runMainTask htasks) hstep
        · have hcounts := congrArg List.length hpending
          rw [hsent] at hlength'
          simp only [List.length_append, List.length_singleton, List.length_map]
            at hcounts hlength' ⊢
          omega
        · rw [← hpending, List.filterMap_append, h.callbacks_append, List.filterMap_cons, howner,
            List.filterMap_nil]

theorem idle_iff {connection : Int} : s.idle connection ↔
    HttpTicket.on connection (s.http.mainTasks.map Prod.fst) = [] ∧
      HttpTicket.on connection s.http.callbacks = [] ∧
        HttpTicket.on connection (s.http.httpTasks.map Prod.fst) = [] := by
  simp [idle, and_assoc]

/-- A refusal on a connection on which nothing is under way. -/
theorem Inv.refuse {connection : Int} (response : HttpServerResponseInfo) (h : s.Inv)
    (hopen : connection ∈ s.http.openConnections) (hidle : s.idle connection) :
    let http := (s.http.arrive (s.http.ticket connection)).send (s.http.ticket connection) response
    http.callbacks = s.http.callbacks ∧ http.Line s.connected := by
  obtain ⟨hmain, hcallbacks, hposted⟩ := idle_iff.mp hidle
  refine ⟨?_, h.line.refuse response hopen hmain hcallbacks hposted⟩
  rw [HttpRun.send_open (s := s.http.arrive (s.http.ticket connection)) hopen]
  rfl

/-- What happens on the HTTP thread. -/
theorem Inv.httpEvent {event : HttpEvent} {http : HttpRun} (h : s.Inv)
    (hpromised : s.promised event) (hturn : s.inTurn transport (.http event))
    (hhttp : s.http.step transport event = some http) :
    http.callbacks = s.http.callbacks ∧ http.Line (s.connectedAfter event) := by
  cases event with
  | connect connection =>
      simp only [HttpRun.step] at hhttp
      split at hhttp
      · obtain rfl := Option.some.inj hhttp
        simp only [promised, decide_eq_true_eq] at hpromised
        refine ⟨rfl, h.line.connections rfl ?_ ?_⟩
        · intro other hmem
          rcases List.mem_cons.mp hmem with rfl | hmem
          · exact .inr (h.line.fresh other hpromised).2
          · exact .inl (List.mem_of_mem_erase hmem)
        · intro other hnot
          rw [connectedAfter, List.mem_cons, not_or] at hnot
          refine ⟨hnot.2, ?_⟩
          rw [List.mem_cons, not_or]
          exact ⟨hnot.1, fun hmem => (h.line.fresh other hnot.2).1 (List.mem_of_mem_erase hmem)⟩
      · cases hhttp
  | request connection info =>
      simp only [promised, decide_eq_true_eq] at hpromised
      obtain rfl := HttpRun.step_request hhttp
      simp only [inTurn, Bool.or_eq_true, Option.isNone_iff_eq_none] at hturn
      rcases HttpRun.onHttpRequest_cases transport (s.http.ticket connection) info
        (s.http.arrive (s.http.ticket connection)) with
        ⟨message, -, heq⟩ | ⟨-, response, hrefusal, heq⟩
      · rw [heq]
        exact ⟨rfl, h.line.admit hpromised⟩
      · rw [heq]
        exact h.refuse response hpromised (hturn.resolve_left (by simp [hrefusal]))
  | webSocketRequest connection info =>
      simp only [promised, decide_eq_true_eq] at hpromised
      obtain rfl := HttpRun.step_webSocket (.inl ⟨info, hhttp⟩)
      exact h.refuse webSocketNotAllowed hpromised hturn
  | webSocketMessage connection data =>
      simp only [promised, decide_eq_true_eq] at hpromised
      obtain rfl := HttpRun.step_webSocket (.inr ⟨data, hhttp⟩)
      exact h.refuse webSocketNotAllowed hpromised hturn
  | close connection =>
      simp only [HttpRun.step] at hhttp
      split at hhttp
      · obtain rfl := Option.some.inj hhttp
        refine ⟨rfl, h.line.connections rfl ?_ ?_⟩
        · intro other hmem
          exact .inl (List.mem_of_mem_filter hmem)
        · intro other hnot
          exact ⟨hnot, fun hmem => (h.line.fresh other hnot).1 (List.mem_of_mem_filter hmem)⟩
      · cases hhttp
  | runHttpTask =>
      refine ⟨?_, h.line.runHttpTask hhttp⟩
      simp only [HttpRun.step, HttpRun.send] at hhttp
      split at hhttp
      · cases hhttp
      · obtain rfl := Option.some.inj hhttp
        split <;> rfl
  | stop =>
      obtain rfl := Option.some.inj hhttp
      refine ⟨rfl, h.line.connections rfl ?_ ?_⟩
      · intro other hmem
        cases hmem
      · intro other hnot
        exact ⟨hnot, by simp⟩
  | runMainTask => exact absurd hpromised Bool.false_ne_true
  | runCallback ticket response => exact absurd hpromised Bool.false_ne_true

theorem Inv.step {event : PipelineEvent σ} (h : s.Inv) (hturn : s.inTurn transport event)
    (hstep : s.step transport event = some t) : t.Inv := by
  cases event with
  | http event =>
      simp only [HttpPipeline.step] at hstep
      split at hstep
      · rename_i hpromised
        obtain ⟨http, hhttp, rfl⟩ := Option.map_eq_some_iff.mp hstep
        obtain ⟨hcallbacks, hline⟩ := h.httpEvent hpromised hturn hhttp
        exact ⟨h.queue, h.replies, h.owners, hcallbacks.trans h.callbacks, hline⟩
      · cases hstep
  | runMainTask => exact h.runMainTask hturn hstep
  | server input => exact h.server hstep

/-- In a run in which everything is in turn, the responses are in order. -/
theorem ordered {tools : List (MCPToolDef σ)} {hasController : Bool} {browser : σ}
    {events : List (PipelineEvent σ)} {last : HttpPipeline σ}
    (hrun : Exec (Guarded (Step (step transport)) fun s event => s.inTurn transport event)
      (start tools hasController browser) events last) : last.Ordered := by
  have hinv : last.Inv := hrun.invariant (fun _ _ _ hs hstep => Inv.step hs hstep.2 hstep.1)
    (start_inv tools hasController browser)
  exact hinv.line.ordered

/-- Three messages: the session is opened, a tool is called, and a ping. -/
def pipelineCodec : JSONCodec where
  write := fun _ => some []
  readDict := fun text =>
    match text with
    | [1] => some [("method", .string "notifications/initialized")]
    | [2] => some [("method", .string "tools/call"), ("id", .integer 2),
        ("params", .dict [("name", .string "snapshot")])]
    | [3] => some [("method", .string "ping"), ("id", .integer 3)]
    | _ => none

def pipelineTransport : MCPHttpTransport where
  parseURL := fun text => ⟨text, false, "", ""⟩
  json := pipelineCodec
  token := "secret"

/-- A tool that keeps its callback. -/
def pipelineTools : List (MCPToolDef Unit) := [⟨"snapshot", "", [], fun _ _ s => (s, none)⟩]

def pipelineRequest (text : UInt8) : PipelineEvent Unit :=
  .http (.request 1
    { method := "POST"
      path := "/mcp"
      headers := [("authorization", "Bearer secret"), ("accept", "*/*")]
      data := [text] })

/-- The ping overtakes the tool call. -/
def pipelined : List (PipelineEvent Unit) :=
  [.http (.connect 1), pipelineRequest 1, .runMainTask, .http .runHttpTask, pipelineRequest 2,
    pipelineRequest 3, .runMainTask, .runMainTask, .http .runHttpTask]

theorem pipelined_outOfOrder :
    ∃ last, Exec (Step (step pipelineTransport)) (start pipelineTools true ()) pipelined last ∧
      last.http.sent.map (fun answer => answer.1.request) = [0, 2] ∧ ¬ last.Ordered := by
  have heval : (pipelined.foldlM (step pipelineTransport) (start pipelineTools true ())).map
      (fun last => (last.http.sent.map Prod.fst, last.http.arrived)) =
        some ([⟨0, 1⟩, ⟨2, 1⟩], [⟨0, 1⟩, ⟨1, 1⟩, ⟨2, 1⟩]) := by decide +kernel
  obtain ⟨last, hrun, hboth⟩ := Exec.exists_of_foldlM heval
  obtain ⟨hsent, harrived⟩ := Prod.mk.inj hboth
  refine ⟨last, hrun, ?_, ?_⟩
  · have hrequests := congrArg (List.map HttpTicket.request) hsent
    rwa [List.map_map] at hrequests
  · intro hordered
    have hfirst := hordered 1
    rw [hsent, harrived] at hfirst
    exact absurd hfirst (by decide)

/-- The client waits for the result of the call. -/
def waited : List (PipelineEvent Unit) :=
  [.http (.connect 1), pipelineRequest 1, .runMainTask, .http .runHttpTask, pipelineRequest 2,
    .runMainTask, pipelineRequest 3, .server (.toolResult 1 [] false), .runMainTask,
    .http .runHttpTask, .http .runHttpTask]

theorem ordered_sample :
    ∃ last, Exec (Guarded (Step (step pipelineTransport)) fun s event =>
        s.inTurn pipelineTransport event) (start pipelineTools true ()) waited last ∧
      last.http.sent.map (fun answer => answer.1.request) = [0, 1, 2] ∧ last.Ordered := by
  have heval : (waited.foldlM (fun s event =>
      if inTurn pipelineTransport s event then step pipelineTransport s event else none)
      (start pipelineTools true ())).map
        (fun last => last.http.sent.map fun answer => answer.1.request) = some [0, 1, 2] := by
    decide +kernel
  obtain ⟨last, hrun, hsent⟩ := Exec.exists_guarded_of_foldlM heval
  exact ⟨last, hrun, hsent, ordered hrun⟩

end HttpPipeline

end Browserd
