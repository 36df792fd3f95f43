import Mathlib.Data.List.Nodup
import Browserd.Lib.Exec
import Browserd.Lib.Places
import Browserd.MCP.HttpTransport

/-!
# Admission and reply of the HTTP transport

A request is handed over exactly if it passes six checks, otherwise the first that fails says how
it is refused. A ticket is in one place from the moment the request comes in: under way, answered,
or without an open connection to answer on.
-/

namespace Browserd

open Transition

/-- What a request must be to reach the MCP message callback, as `message`. -/
structure MCPHttpTransport.Admits (transport : MCPHttpTransport) (info : HttpServerRequestInfo)
    (message : DictValue) : Prop where
  path : info.path = "/mcp"
  origin : info.getHeaderValue "origin" = "" ∨
    ((transport.parseURL (info.getHeaderValue "origin")).isValid ∧
      isLoopbackOriginHost (transport.parseURL (info.getHeaderValue "origin")).host)
  authorization : ∃ scheme, equalsCaseInsensitiveASCII scheme "Bearer " ∧
    info.getHeaderValue "authorization" = scheme ++ transport.token
  method : info.method = "POST"
  accept : ∃ item ∈ splitString (info.getHeaderValue "accept") ',',
    ∃ accepted ∈ ["application/json", "application/*", "*/*"],
      equalsCaseInsensitiveASCII (mediaTypeOf item) accepted
  body : transport.json.readDict info.data = some message

namespace MCPHttpTransport

variable {transport : MCPHttpTransport} {info : HttpServerRequestInfo} {message : DictValue}

/-- The checks in their order, each with the response to a request that fails it. -/
def checks (transport : MCPHttpTransport) (info : HttpServerRequestInfo) :
    List (Bool × HttpServerResponseInfo) :=
  [(info.path == "/mcp", notFound),
    (transport.isAllowedOrigin info, forbidden),
    (transport.isAuthorized info, unauthorized),
    (info.method == "POST", methodNotAllowed),
    (acceptsJson info, notAcceptable),
    ((transport.json.readDict info.data).isSome, invalidJSON)]

/-- The response to the first check that fails. -/
def refusal (transport : MCPHttpTransport) (info : HttpServerRequestInfo) :
    Option HttpServerResponseInfo :=
  ((transport.checks info).find? fun check => !check.1).map Prod.snd

/-- The scheme is what the check of the start finds, the token is the rest. -/
theorem isAuthorized_iff : transport.isAuthorized info ↔
    ∃ scheme, equalsCaseInsensitiveASCII scheme "Bearer " ∧
      info.getHeaderValue "authorization" = scheme ++ transport.token := by
  have hauthorized : transport.isAuthorized info ↔
      ((info.getHeaderValue "authorization").toList.map Char.toLower).take "Bearer ".length =
          "Bearer ".toList.map Char.toLower ∧
        (info.getHeaderValue "authorization").toList.drop "Bearer ".length =
          transport.token.toList := by
    unfold isAuthorized
    by_cases hstart : startsWithInsensitive (info.getHeaderValue "authorization") "Bearer "
    · simp only [hstart, Bool.not_true, Bool.false_eq_true, if_false, beq_iff_eq]
      rw [startsWithInsensitive, beq_iff_eq] at hstart
      exact (and_iff_right hstart).symm
    · simp only [hstart, Bool.not_false, if_true, Bool.false_eq_true, false_iff, not_and]
      rw [startsWithInsensitive, beq_iff_eq] at hstart
      exact fun h => absurd h hstart
  rw [hauthorized]
  constructor
  · rintro ⟨hstart, hrest⟩
    refine ⟨String.ofList ((info.getHeaderValue "authorization").toList.take "Bearer ".length),
      ?_, ?_⟩
    · simpa [equalsCaseInsensitiveASCII, ← List.map_take] using hstart
    · apply String.toList_injective
      rw [String.toList_append, String.toList_ofList, ← hrest, List.take_append_drop]
  · rintro ⟨scheme, hscheme, hvalue⟩
    have hlower : scheme.toList.map Char.toLower = "Bearer ".toList.map Char.toLower := by
      simpa [equalsCaseInsensitiveASCII] using hscheme
    have hlength : scheme.toList.length = "Bearer ".length := by
      have hmapped := congrArg List.length hlower
      rwa [List.length_map, List.length_map] at hmapped
    rw [hvalue, String.toList_append, ← hlength]
    constructor
    · rw [← List.map_take, List.take_left', hlower]
      rfl
    · rw [List.drop_left']
      rfl

theorem isAllowedOrigin_iff : transport.isAllowedOrigin info ↔
    info.getHeaderValue "origin" = "" ∨
      ((transport.parseURL (info.getHeaderValue "origin")).isValid ∧
        isLoopbackOriginHost (transport.parseURL (info.getHeaderValue "origin")).host) := by
  unfold isAllowedOrigin
  by_cases hempty : info.getHeaderValue "origin" = ""
  · simp [hempty]
  · simp [hempty]

theorem acceptsJson_iff : acceptsJson info ↔
    ∃ item ∈ splitString (info.getHeaderValue "accept") ',',
      ∃ accepted ∈ ["application/json", "application/*", "*/*"],
        equalsCaseInsensitiveASCII (mediaTypeOf item) accepted := by
  unfold acceptsJson headerContainsMimeType
  simp only [List.any_eq_true, Bool.or_eq_true, List.mem_cons, List.not_mem_nil, or_false,
    exists_eq_or_imp, exists_eq_left]
  refine exists_congr fun item => and_congr_right fun _ => ?_
  rw [or_assoc, or_comm (a := equalsCaseInsensitiveASCII (mediaTypeOf item) "*/*" = true)]

theorem admits_iff : transport.Admits info message ↔
    info.path = "/mcp" ∧ transport.isAllowedOrigin info ∧ transport.isAuthorized info ∧
      info.method = "POST" ∧ acceptsJson info ∧
      transport.json.readDict info.data = some message := by
  rw [isAllowedOrigin_iff, isAuthorized_iff, acceptsJson_iff]
  constructor
  · intro h
    exact ⟨h.path, h.origin, h.authorization, h.method, h.accept, h.body⟩
  · rintro ⟨hpath, horigin, hauthorization, hmethod, haccept, hbody⟩
    exact ⟨hpath, horigin, hauthorization, hmethod, haccept, hbody⟩

end MCPHttpTransport

namespace HttpRun

variable {transport : MCPHttpTransport} {s t : HttpRun}

/-- The step to `t` gives `ticket` its response, if its connection is open. -/
def Answers (s t : HttpRun) (ticket : HttpTicket) (response : HttpServerResponseInfo) : Prop :=
  if ticket.connection ∈ s.openConnections then
    t.sent = s.sent ++ [(ticket, response)] ∧ t.dropped = s.dropped
  else t.sent = s.sent ∧ t.dropped = s.dropped ++ [ticket]

/-- What the transport promises of a state and of the steps it can take. -/
structure Contract (transport : MCPHttpTransport) (s : HttpRun) : Prop where
  /-- Nothing is answered twice, -/
  once : (s.sent.map Prod.fst).Nodup
  /-- and what is neither under way nor without a connection has been answered. -/
  settled : ∀ ticket ∈ s.arrived, ticket ∉ s.mainTasks.map Prod.fst → ticket ∉ s.callbacks →
    ticket ∉ s.httpTasks.map Prod.fst → ticket ∉ s.dropped → ticket ∈ s.sent.map Prod.fst
  handed : ∀ connection info t message, s.step transport (.request connection info) = some t →
    (t.mainTasks = s.mainTasks ++ [(s.ticket connection, message)] ↔
      transport.Admits info message)
  /-- A request that is handed over is not answered yet, any other one at once. -/
  waiting : ∀ connection info t message, s.step transport (.request connection info) = some t →
    transport.Admits info message → t.sent = s.sent ∧ t.dropped = s.dropped
  refused : ∀ connection info t, s.step transport (.request connection info) = some t →
    (¬ ∃ message, transport.Admits info message) →
      ∃ response, transport.refusal info = some response ∧ t.mainTasks = s.mainTasks ∧
        Answers s t (s.ticket connection) response
  webSocket : ∀ connection info data t,
    s.step transport (.webSocketRequest connection info) = some t ∨
        s.step transport (.webSocketMessage connection data) = some t →
      t.mainTasks = s.mainTasks ∧ Answers s t (s.ticket connection) webSocketNotAllowed
  /-- What is handed over reaches the MCP callback, which can be run once and whenever it likes; -/
  dispatched : ∀ ticket message rest, s.mainTasks = (ticket, message) :: rest →
    ∃ t, s.step transport .runMainTask = some t ∧ t.mainTasks = rest ∧
      t.callbacks = s.callbacks ++ [ticket] ∧ t.sent = s.sent ∧ t.dropped = s.dropped
  /-- the task it posts carries the response it is run with, -/
  called : ∀ ticket response, if ticket ∈ s.callbacks then
      ∃ t, s.step transport (.runCallback ticket response) = some t ∧
        t.callbacks = s.callbacks.erase ticket ∧
        t.httpTasks = s.httpTasks ++ [(ticket, response)] ∧ t.sent = s.sent ∧
        t.dropped = s.dropped
    else s.step transport (.runCallback ticket response) = none
  /-- and the answer to what was handed over is sent when that task runs. -/
  replied : ∀ ticket response rest, s.httpTasks = (ticket, response) :: rest →
    ∃ t, s.step transport .runHttpTask = some t ∧ t.httpTasks = rest ∧
      Answers s t ticket (transport.mcpResponse response)
  addressed : ∀ event t, s.step transport event = some t → ∀ answer ∈ t.sent,
    answer ∈ s.sent ∨ answer.1.connection ∈ s.openConnections
  /-- Nothing depends on a body that comes without the token. -/
  blind : ∀ connection info data, transport.isAuthorized info = false →
    s.step transport (.request connection info) =
      s.step transport (.request connection { info with data := data })

/-- What an answer comes from: the call of the ticket's callback, a request that fails a check, or
an attempt to open a web socket. -/
inductive Answered (transport : MCPHttpTransport) (events : List HttpEvent) (ticket : HttpTicket) :
    HttpServerResponseInfo → Prop
  | called {response : Option DictValue} (hcall : .runCallback ticket response ∈ events) :
      Answered transport events ticket (transport.mcpResponse response)
  | refused {info : HttpServerRequestInfo} {response : HttpServerResponseInfo}
      (hrequest : .request ticket.connection info ∈ events)
      (hrefusal : transport.refusal info = some response) :
      Answered transport events ticket response
  | webSocketRequest {info : HttpServerRequestInfo}
      (hrequest : .webSocketRequest ticket.connection info ∈ events) :
      Answered transport events ticket webSocketNotAllowed
  | webSocketMessage {data : List UInt8}
      (hmessage : .webSocketMessage ticket.connection data ∈ events) :
      Answered transport events ticket webSocketNotAllowed

/-- Everything sent or about to be sent comes from what has happened. -/
structure Accounted (transport : MCPHttpTransport) (events : List HttpEvent) (s : HttpRun) :
    Prop where
  posted : ∀ ticket response, (ticket, response) ∈ s.httpTasks →
    .runCallback ticket response ∈ events
  sent : ∀ ticket response, (ticket, response) ∈ s.sent →
    Answered transport events ticket response

/-- The places where a ticket can be. -/
def everywhere (s : HttpRun) : List HttpTicket :=
  s.mainTasks.map Prod.fst ++ s.callbacks ++ s.httpTasks.map Prod.fst ++ s.sent.map Prod.fst ++
    s.dropped

structure Inv (s : HttpRun) : Prop where
  numbered : s.arrived.map HttpTicket.request = List.range s.arrived.length
  placed : ∀ ticket, s.everywhere.count ticket = s.arrived.count ticket

theorem start_inv : start.Inv where
  numbered := rfl
  placed _ := rfl

theorem Inv.nodup (h : s.Inv) : s.arrived.Nodup := by
  apply List.Nodup.of_map HttpTicket.request
  rw [h.numbered]
  exact List.nodup_range

/-- A request is handed over or refused. -/
theorem onHttpRequest_cases (transport : MCPHttpTransport) (ticket : HttpTicket)
    (info : HttpServerRequestInfo) (s : HttpRun) :
    (∃ message, transport.Admits info message ∧ s.onHttpRequest transport ticket info =
        { s with mainTasks := s.mainTasks ++ [(ticket, message)] }) ∨
      ((¬ ∃ message, transport.Admits info message) ∧ ∃ response,
        transport.refusal info = some response ∧
          s.onHttpRequest transport ticket info = s.send ticket response) := by
  simp only [MCPHttpTransport.admits_iff]
  unfold onHttpRequest MCPHttpTransport.refusal MCPHttpTransport.checks
  by_cases hpath : info.path = "/mcp"
  · by_cases horigin : transport.isAllowedOrigin info
    · by_cases hauthorized : transport.isAuthorized info
      · by_cases hmethod : info.method = "POST"
        · by_cases haccept : MCPHttpTransport.acceptsJson info
          · cases hbody : transport.json.readDict info.data with
            | none => simp [hpath, horigin, hauthorized, hmethod, haccept]
            | some message => simp [hpath, horigin, hauthorized, hmethod, haccept]
          · simp [hpath, horigin, hauthorized, hmethod, haccept]
        · simp [hpath, horigin, hauthorized, hmethod]
      · simp [hpath, horigin, hauthorized]
    · simp [hpath, horigin]
  · simp [hpath]

theorem send_open {ticket : HttpTicket} {response : HttpServerResponseInfo}
    (h : ticket.connection ∈ s.openConnections) :
    s.send ticket response = { s with sent := s.sent ++ [(ticket, response)] } := if_pos h

theorem send_closed {ticket : HttpTicket} {response : HttpServerResponseInfo}
    (h : ticket.connection ∉ s.openConnections) :
    s.send ticket response = { s with dropped := s.dropped ++ [ticket] } := if_neg h

/-- `send` after a change to something else. -/
theorem send_answers (ticket : HttpTicket) (response : HttpServerResponseInfo)
    (hopen : t.openConnections = s.openConnections) (hsent : t.sent = s.sent)
    (hdropped : t.dropped = s.dropped) :
    Answers s (t.send ticket response) ticket response ∧
      (t.send ticket response).mainTasks = t.mainTasks ∧
      (t.send ticket response).httpTasks = t.httpTasks := by
  unfold Answers
  split
  · rename_i hmem
    rw [send_open (hopen ▸ hmem), ← hsent, ← hdropped]
    exact ⟨⟨rfl, rfl⟩, rfl, rfl⟩
  · rename_i hmem
    rw [send_closed (hopen ▸ hmem), ← hsent, ← hdropped]
    exact ⟨⟨rfl, rfl⟩, rfl, rfl⟩

theorem send_places (ticket : HttpTicket) (response : HttpServerResponseInfo) (s : HttpRun) :
    (s.send ticket response).arrived = s.arrived ∧ ∀ other,
      (s.send ticket response).everywhere.count other =
        s.everywhere.count other + [ticket].count other := by
  by_cases hopen : ticket.connection ∈ s.openConnections
  · rw [send_open hopen]
    refine ⟨rfl, ?_⟩
    intro other
    simp only [everywhere, List.map_append, List.map_cons, List.map_nil, List.count_append]
    omega
  · rw [send_closed hopen]
    refine ⟨rfl, ?_⟩
    intro other
    simp only [everywhere, List.count_append]
    omega

/-- What comes in gets the next number and one place. -/
theorem Inv.arrive {connection : Int} (h : s.Inv)
    (harrived : t.arrived = s.arrived ++ [s.ticket connection])
    (hplaces : ∀ other, t.everywhere.count other =
      s.everywhere.count other + [s.ticket connection].count other) : t.Inv := by
  apply Inv.mk
  · rw [harrived, List.map_append, h.numbered, List.length_append, List.length_singleton,
      List.range_succ]
    rfl
  · intro other
    rw [hplaces, harrived, List.count_append, h.placed]

/-- A ticket that goes from one place to another. -/
theorem Inv.move (h : s.Inv) (harrived : t.arrived = s.arrived)
    (hplaces : ∀ other, t.everywhere.count other = s.everywhere.count other) : t.Inv := by
  apply Inv.mk
  · rw [harrived, h.numbered]
  · intro other
    rw [hplaces, harrived, h.placed]

theorem Inv.onHttpRequest {connection : Int} {info : HttpServerRequestInfo} (h : s.Inv) :
    ((s.arrive (s.ticket connection)).onHttpRequest transport (s.ticket connection) info).Inv := by
  rcases onHttpRequest_cases transport (s.ticket connection) info (s.arrive (s.ticket connection))
    with ⟨message, -, heq⟩ | ⟨-, response, -, heq⟩
  · rw [heq]
    apply h.arrive rfl
    intro other
    simp only [everywhere, HttpRun.arrive, List.map_append, List.map_cons, List.map_nil,
      List.count_append]
    omega
  · rw [heq]
    have hsend := send_places (s.ticket connection) response (s.arrive (s.ticket connection))
    exact h.arrive hsend.1 hsend.2

theorem step_request {connection : Int} {info : HttpServerRequestInfo}
    (hstep : s.step transport (.request connection info) = some t) :
    t = (s.arrive (s.ticket connection)).onHttpRequest transport (s.ticket connection) info := by
  simp only [step] at hstep
  split at hstep
  · exact (Option.some.inj hstep).symm
  · cases hstep

theorem step_webSocket {connection : Int}
    (hstep : (∃ info, s.step transport (.webSocketRequest connection info) = some t) ∨
      ∃ data, s.step transport (.webSocketMessage connection data) = some t) :
    t = (s.arrive (s.ticket connection)).send (s.ticket connection) webSocketNotAllowed := by
  by_cases hrunning : s.running
  · rcases hstep with ⟨info, hstep⟩ | ⟨data, hstep⟩
    · simp only [step, hrunning, if_true] at hstep
      exact (Option.some.inj hstep).symm
    · simp only [step, hrunning, if_true] at hstep
      exact (Option.some.inj hstep).symm
  · simp [step, hrunning] at hstep

/-- Connections come and go without an answer. -/
theorem step_quiet {event : HttpEvent} (hquiet : (∃ connection, event = .connect connection) ∨
      (∃ connection, event = .close connection) ∨ event = .stop)
    (hstep : s.step transport event = some t) :
    t.arrived = s.arrived ∧ t.everywhere = s.everywhere ∧ t.httpTasks = s.httpTasks ∧
      t.sent = s.sent := by
  rcases hquiet with ⟨connection, rfl⟩ | ⟨connection, rfl⟩ | rfl
  · simp only [step] at hstep
    split at hstep
    · obtain rfl := Option.some.inj hstep
      exact ⟨rfl, rfl, rfl, rfl⟩
    · cases hstep
  · simp only [step] at hstep
    split at hstep
    · obtain rfl := Option.some.inj hstep
      exact ⟨rfl, rfl, rfl, rfl⟩
    · cases hstep
  · obtain rfl := Option.some.inj hstep
    exact ⟨rfl, rfl, rfl, rfl⟩

theorem Inv.quiet {event : HttpEvent} (h : s.Inv)
    (hquiet : (∃ connection, event = .connect connection) ∨
      (∃ connection, event = .close connection) ∨ event = .stop)
    (hstep : s.step transport event = some t) : t.Inv := by
  obtain ⟨harrived, heverywhere, -⟩ := step_quiet hquiet hstep
  exact h.move harrived fun _ => by rw [heverywhere]

theorem Inv.step {event : HttpEvent} (h : s.Inv) (hstep : s.step transport event = some t) :
    t.Inv := by
  cases event with
  | connect connection => exact h.quiet (.inl ⟨connection, rfl⟩) hstep
  | close connection => exact h.quiet (.inr (.inl ⟨connection, rfl⟩)) hstep
  | stop => exact h.quiet (.inr (.inr rfl)) hstep
  | request connection info =>
      obtain rfl := step_request hstep
      exact h.onHttpRequest
  | webSocketRequest connection info =>
      obtain rfl := step_webSocket (.inl ⟨info, hstep⟩)
      have hsend := send_places (s.ticket connection) webSocketNotAllowed
        (s.arrive (s.ticket connection))
      exact h.arrive hsend.1 hsend.2
  | webSocketMessage connection data =>
      obtain rfl := step_webSocket (.inr ⟨data, hstep⟩)
      have hsend := send_places (s.ticket connection) webSocketNotAllowed
        (s.arrive (s.ticket connection))
      exact h.arrive hsend.1 hsend.2
  | runMainTask =>
      simp only [HttpRun.step] at hstep
      split at hstep
      · cases hstep
      · rename_i ticket message rest htasks
        obtain rfl := Option.some.inj hstep
        refine h.move rfl ?_
        intro other
        simp only [everywhere, htasks, List.map_cons, List.count_append, List.count_cons,
          List.count_nil]
        omega
  | runCallback ticket response =>
      simp only [HttpRun.step] at hstep
      split at hstep
      · rename_i hheld
        obtain rfl := Option.some.inj hstep
        refine h.move rfl ?_
        intro other
        have herase := Places.count_erase_add hheld other
        simp only [everywhere, List.map_append, List.map_cons, List.map_nil, List.count_append]
        omega
      · cases hstep
  | runHttpTask =>
      simp only [HttpRun.step] at hstep
      split at hstep
      · cases hstep
      · rename_i ticket response rest htasks
        obtain rfl := Option.some.inj hstep
        have hsend := send_places ticket (transport.mcpResponse response)
          { s with httpTasks := rest }
        apply h.move hsend.1
        intro other
        rw [hsend.2]
        simp only [everywhere, htasks, List.map_cons, List.count_append, List.count_cons,
          List.count_nil]
        omega

theorem onHttpRequest_admitted {ticket : HttpTicket} {info : HttpServerRequestInfo}
    {message : DictValue} (hadmits : transport.Admits info message) :
    s.onHttpRequest transport ticket info =
      { s with mainTasks := s.mainTasks ++ [(ticket, message)] } := by
  rcases onHttpRequest_cases transport ticket info s with ⟨message', hadmits', heq⟩ | ⟨hnot, -⟩
  · obtain rfl : message' = message := Option.some.inj (hadmits'.body.symm.trans hadmits.body)
    exact heq
  · exact absurd ⟨message, hadmits⟩ hnot

/-- The checks before the body do not read it. -/
theorem onHttpRequest_blind {info : HttpServerRequestInfo} (ticket : HttpTicket)
    (data : List UInt8) (hauthorized : transport.isAuthorized info = false) :
    s.onHttpRequest transport ticket info =
      s.onHttpRequest transport ticket { info with data := data } := by
  have hsame : transport.isAuthorized { info with data := data } = false := hauthorized
  have horigin : transport.isAllowedOrigin { info with data := data } =
      transport.isAllowedOrigin info := rfl
  simp only [onHttpRequest, hauthorized, hsame, horigin, Bool.not_false, if_true]

theorem mem_send {ticket : HttpTicket} {response : HttpServerResponseInfo}
    {answer : HttpTicket × HttpServerResponseInfo} (h : answer ∈ (s.send ticket response).sent) :
    answer ∈ s.sent ∨ answer.1.connection ∈ s.openConnections := by
  by_cases hopen : ticket.connection ∈ s.openConnections
  · rw [send_open hopen] at h
    rcases List.mem_append.mp h with h | h
    · exact .inl h
    · rw [List.mem_singleton.mp h]
      exact .inr hopen
  · rw [send_closed hopen] at h
    exact .inl h

theorem step_addressed {event : HttpEvent} {answer : HttpTicket × HttpServerResponseInfo}
    (hstep : s.step transport event = some t) (h : answer ∈ t.sent) :
    answer ∈ s.sent ∨ answer.1.connection ∈ s.openConnections := by
  cases event with
  | request connection info =>
      obtain rfl := step_request hstep
      rcases onHttpRequest_cases transport (s.ticket connection) info
        (s.arrive (s.ticket connection)) with ⟨message, -, heq⟩ | ⟨-, response, -, heq⟩
      · rw [heq] at h
        exact .inl h
      · rw [heq] at h
        have hsent := mem_send h
        exact hsent
  | webSocketRequest connection info =>
      obtain rfl := step_webSocket (.inl ⟨info, hstep⟩)
      have hsent := mem_send h
      exact hsent
  | webSocketMessage connection data =>
      obtain rfl := step_webSocket (.inr ⟨data, hstep⟩)
      have hsent := mem_send h
      exact hsent
  | runHttpTask =>
      simp only [step] at hstep
      split at hstep
      · cases hstep
      · obtain rfl := Option.some.inj hstep
        have hsent := mem_send h
        exact hsent
  | connect connection =>
      rw [(step_quiet (.inl ⟨connection, rfl⟩) hstep).2.2.2] at h
      exact .inl h
  | close connection =>
      rw [(step_quiet (.inr (.inl ⟨connection, rfl⟩)) hstep).2.2.2] at h
      exact .inl h
  | stop =>
      rw [(step_quiet (.inr (.inr rfl)) hstep).2.2.2] at h
      exact .inl h
  | runMainTask =>
      simp only [step] at hstep
      split at hstep
      · cases hstep
      · obtain rfl := Option.some.inj hstep
        exact .inl h
  | runCallback ticket response =>
      simp only [step] at hstep
      split at hstep
      · obtain rfl := Option.some.inj hstep
        exact .inl h
      · cases hstep

theorem Inv.contract (h : s.Inv) : s.Contract transport where
  once := by
    refine List.nodup_iff_count_le_one.mpr ?_
    intro ticket
    have hplaced := h.placed ticket
    have hone := List.nodup_iff_count_le_one.mp h.nodup ticket
    simp only [everywhere, List.count_append] at hplaced
    omega
  settled := by
    intro ticket harrived hmain hcallback hhttp hdropped
    have hplaced := h.placed ticket
    have hpos := List.count_pos_iff.mpr harrived
    rw [← hplaced, List.count_pos_iff] at hpos
    simp only [everywhere, List.mem_append] at hpos
    tauto
  handed := by
    intro connection info t message hstep
    obtain rfl := step_request hstep
    constructor
    · intro htasks
      rcases onHttpRequest_cases transport (s.ticket connection) info
        (s.arrive (s.ticket connection)) with ⟨message', hadmits, heq⟩ | ⟨-, response, -, heq⟩
      · rw [heq] at htasks
        have hsame := List.append_cancel_left htasks
        simp only [List.cons.injEq, Prod.mk.injEq, true_and, and_true] at hsame
        exact hsame ▸ hadmits
      · rw [heq, send] at htasks
        have hkept : s.mainTasks = s.mainTasks ++ [(s.ticket connection, message)] := by
          split at htasks
          · exact htasks
          · exact htasks
        simp at hkept
    · intro hadmits
      rw [onHttpRequest_admitted hadmits]
      rfl
  waiting := by
    intro connection info t message hstep hadmits
    obtain rfl := step_request hstep
    rw [onHttpRequest_admitted hadmits]
    exact ⟨rfl, rfl⟩
  refused := by
    intro connection info t hstep hnot
    obtain rfl := step_request hstep
    rcases onHttpRequest_cases transport (s.ticket connection) info
      (s.arrive (s.ticket connection)) with ⟨message, hadmits, -⟩ | ⟨-, response, hrefusal, heq⟩
    · exact absurd ⟨message, hadmits⟩ hnot
    · rw [heq]
      have hsend := send_answers (s := s) (t := s.arrive (s.ticket connection))
        (s.ticket connection) response rfl rfl rfl
      exact ⟨response, hrefusal, hsend.2.1, hsend.1⟩
  webSocket := by
    intro connection info data t hstep
    obtain rfl := step_webSocket (hstep.imp (fun h => ⟨info, h⟩) fun h => ⟨data, h⟩)
    have hsend := send_answers (s := s) (t := s.arrive (s.ticket connection))
      (s.ticket connection) webSocketNotAllowed rfl rfl rfl
    exact ⟨hsend.2.1, hsend.1⟩
  dispatched := by
    intro ticket message rest htasks
    let dispatched : HttpRun := { s with mainTasks := rest, callbacks := s.callbacks ++ [ticket] }
    have hstep : s.step transport .runMainTask = some dispatched := by
      simp only [HttpRun.step, htasks, dispatched]
    exact ⟨dispatched, hstep, rfl, rfl, rfl, rfl⟩
  called := by
    intro ticket response
    by_cases hheld : ticket ∈ s.callbacks
    · rw [if_pos hheld]
      let posted : HttpRun := { s with
        callbacks := s.callbacks.erase ticket
        httpTasks := s.httpTasks ++ [(ticket, response)] }
      have hstep : s.step transport (.runCallback ticket response) = some posted := by
        simp only [HttpRun.step, hheld, if_true, posted]
      exact ⟨posted, hstep, rfl, rfl, rfl, rfl⟩
    · rw [if_neg hheld]
      simp only [HttpRun.step, hheld, if_false]
  replied := by
    intro ticket response rest htasks
    have hsend := send_answers (s := s) (t := { s with httpTasks := rest }) ticket
      (transport.mcpResponse response) rfl rfl rfl
    exact ⟨_, by simp only [HttpRun.step, htasks], hsend.2.2, hsend.1⟩
  addressed := by
    intro event t hstep answer hanswer
    exact step_addressed hstep hanswer
  blind := by
    intro connection info data hauthorized
    simp only [HttpRun.step]
    rw [onHttpRequest_blind _ data hauthorized]

section Accounts

variable {events : List HttpEvent} {event : HttpEvent} {ticket : HttpTicket}
  {response : HttpServerResponseInfo}

theorem Answered.mono {events' : List HttpEvent} (hsub : events ⊆ events')
    (h : Answered transport events ticket response) :
    Answered transport events' ticket response := by
  induction h with
  | called hcall => exact .called (hsub hcall)
  | refused hrequest hrefusal => exact .refused (hsub hrequest) hrefusal
  | webSocketRequest hrequest => exact .webSocketRequest (hsub hrequest)
  | webSocketMessage hmessage => exact .webSocketMessage (hsub hmessage)

theorem Accounted.mono {events' : List HttpEvent} (hsub : events ⊆ events')
    (h : Accounted transport events s) : Accounted transport events' s where
  posted _ _ hmem := hsub (h.posted _ _ hmem)
  sent _ _ hmem := (h.sent _ _ hmem).mono hsub

/-- Nothing new is posted or sent. -/
theorem Accounted.same (h : Accounted transport events s) (hposted : t.httpTasks ⊆ s.httpTasks)
    (hsent : t.sent = s.sent) : Accounted transport events t where
  posted _ _ hmem := h.posted _ _ (hposted hmem)
  sent _ _ hmem := h.sent _ _ (hsent ▸ hmem)

theorem Accounted.quiet (h : Accounted transport events s)
    (hquiet : (∃ connection, event = .connect connection) ∨
      (∃ connection, event = .close connection) ∨ event = .stop)
    (hstep : s.step transport event = some t) : Accounted transport events t := by
  obtain ⟨-, -, hposted, hsent⟩ := step_quiet hquiet hstep
  exact h.same (hposted ▸ List.Subset.refl _) hsent

theorem Accounted.send (h : Accounted transport events s)
    (hanswered : Answered transport events ticket response) :
    Accounted transport events (s.send ticket response) := by
  by_cases hopen : ticket.connection ∈ s.openConnections
  · rw [send_open hopen]
    apply Accounted.mk
    · exact h.posted
    · intro other answer hmem
      rcases List.mem_append.mp hmem with hmem | hmem
      · exact h.sent other answer hmem
      · simp only [List.mem_singleton, Prod.mk.injEq] at hmem
        obtain ⟨rfl, rfl⟩ := hmem
        exact hanswered
  · rw [send_closed hopen]
    exact h.same (List.Subset.refl _) rfl

theorem Accounted.step (h : Accounted transport events s)
    (hstep : s.step transport event = some t) : Accounted transport (events ++ [event]) t := by
  have hpast : Accounted transport (events ++ [event]) s :=
    h.mono (List.subset_append_left events [event])
  have hlast : event ∈ events ++ [event] := List.mem_append_right events List.mem_cons_self
  cases event with
  | connect connection => exact hpast.quiet (.inl ⟨connection, rfl⟩) hstep
  | close connection => exact hpast.quiet (.inr (.inl ⟨connection, rfl⟩)) hstep
  | stop => exact hpast.quiet (.inr (.inr rfl)) hstep
  | request connection info =>
      obtain rfl := step_request hstep
      have harrived := hpast.same (t := s.arrive (s.ticket connection)) (List.Subset.refl _) rfl
      rcases onHttpRequest_cases transport (s.ticket connection) info
        (s.arrive (s.ticket connection)) with ⟨message, -, heq⟩ | ⟨-, response, hrefusal, heq⟩
      · rw [heq]
        exact harrived.same (List.Subset.refl _) rfl
      · rw [heq]
        exact harrived.send (.refused hlast hrefusal)
  | webSocketRequest connection info =>
      obtain rfl := step_webSocket (.inl ⟨info, hstep⟩)
      have harrived := hpast.same (t := s.arrive (s.ticket connection)) (List.Subset.refl _) rfl
      exact harrived.send (.webSocketRequest hlast)
  | webSocketMessage connection data =>
      obtain rfl := step_webSocket (.inr ⟨data, hstep⟩)
      have harrived := hpast.same (t := s.arrive (s.ticket connection)) (List.Subset.refl _) rfl
      exact harrived.send (.webSocketMessage hlast)
  | runMainTask =>
      simp only [HttpRun.step] at hstep
      split at hstep
      · cases hstep
      · obtain rfl := Option.some.inj hstep
        exact hpast.same (List.Subset.refl _) rfl
  | runCallback called response =>
      simp only [HttpRun.step] at hstep
      split at hstep
      · obtain rfl := Option.some.inj hstep
        apply Accounted.mk
        · intro other answer hmem
          rcases List.mem_append.mp hmem with hmem | hmem
          · exact hpast.posted other answer hmem
          · simp only [List.mem_singleton, Prod.mk.injEq] at hmem
            obtain ⟨rfl, rfl⟩ := hmem
            exact hlast
        · exact hpast.sent
      · cases hstep
  | runHttpTask =>
      simp only [HttpRun.step] at hstep
      split at hstep
      · cases hstep
      · rename_i posted response rest htasks
        obtain rfl := Option.some.inj hstep
        have hcall := hpast.posted posted response (htasks ▸ List.mem_cons_self)
        have hrest : rest ⊆ s.httpTasks := htasks ▸ List.subset_cons_self _ rest
        exact (hpast.same (t := { s with httpTasks := rest }) hrest rfl).send (.called hcall)

theorem Accounted.run {later : List HttpEvent} (h : Accounted transport events s)
    (hrun : Exec (Step (HttpRun.step transport)) s later t) :
    Accounted transport (events ++ later) t := by
  induction hrun generalizing events with
  | nil => simpa using h
  | cons head _ ih => simpa using ih (h.step head)

end Accounts

/-- In every run of the transport, whatever comes in and whenever it is answered. -/
theorem reachable_contract {events : List HttpEvent} {last : HttpRun}
    (hrun : Exec (Step (step transport)) start events last) :
    last.Contract transport ∧ Accounted transport events last := by
  have hinv : last.Inv := hrun.invariant (fun _ _ _ hs hstep => Inv.step hs hstep) start_inv
  have hstart : Accounted transport [] start := ⟨by simp [start], by simp [start]⟩
  exact ⟨hinv.contract, hstart.run hrun⟩

/-- A URL parser that knows one page, and a JSON reader that knows the empty dictionary. -/
def sampleTransport : MCPHttpTransport where
  parseURL := fun text => ⟨text, text == "http://localhost", "http", "localhost"⟩
  json := ⟨fun _ => some [123, 125], fun text => if text = [123, 125] then some [] else none⟩
  token := "secret"

def sampleInfo : HttpServerRequestInfo where
  method := "POST"
  path := "/mcp"
  headers := [("authorization", "bearer secret"), ("origin", "http://localhost"),
    ("accept", "text/html, Application/JSON ;q=1")]
  data := [123, 125]

/-- A request is handed over while one without the token is refused; the late reply is sent. -/
def sampleEvents : List HttpEvent :=
  [.connect 1, .request 1 sampleInfo, .request 1 { sampleInfo with headers := [] },
    .runMainTask, .runCallback ⟨0, 1⟩ none, .runHttpTask]

theorem reachable_contract_sample :
    ∃ last, Exec (Step (step sampleTransport)) start sampleEvents last ∧
      last.sent.map (fun answer => (answer.1.request, answer.2.statusCode)) =
        [(1, 401), (0, 202)] ∧
      last.Contract sampleTransport ∧ Accounted sampleTransport sampleEvents last := by
  have heval : (sampleEvents.foldlM (step sampleTransport) start).map
      (fun last => last.sent.map fun answer => (answer.1.request, answer.2.statusCode)) =
        some [(1, 401), (0, 202)] := by decide +kernel
  obtain ⟨last, hrun, hsent⟩ := Exec.exists_of_foldlM heval
  exact ⟨last, hrun, hsent, reachable_contract hrun⟩

end HttpRun

end Browserd
