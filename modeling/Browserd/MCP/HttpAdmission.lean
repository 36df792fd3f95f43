import Browserd.MCP.HttpContract

/-!
# What a run of the HTTP transport has admitted

A ticket names what came in under its number. Whatever a run has made of a ticket, the message
that the MCP server got for it is the body of a request that was admitted, and to anything else the
transport sent one of its fixed refusals.
-/

namespace Browserd

open Transition

/-- The connection of what comes in, and the request unless a web socket brings it. -/
def HttpEvent.arrival : HttpEvent → Option (Int × Option HttpServerRequestInfo)
  | .request connection info => some (connection, some info)
  | .webSocketRequest connection _ => some (connection, none)
  | .webSocketMessage connection _ => some (connection, none)
  | _ => none

namespace HttpRun

/-- What has come in, in the order of the tickets. -/
def arrivals (events : List HttpEvent) : List (Int × Option HttpServerRequestInfo) :=
  events.filterMap HttpEvent.arrival

/-- The ticket was given to a request that was admitted with the body `message`. -/
def Admitted (transport : MCPHttpTransport) (events : List HttpEvent) (ticket : HttpTicket)
    (message : DictValue) : Prop :=
  ∃ info, (arrivals events)[ticket.request]? = some (ticket.connection, some info) ∧
    transport.Admits info message

/-- The responses that do not come from the MCP server. -/
def refusals : List HttpServerResponseInfo :=
  [notFound, forbidden, unauthorized, methodNotAllowed, notAcceptable, invalidJSON,
    webSocketNotAllowed]

/-- What a run has done with the tickets it gave out. -/
structure AdmittedOnly (transport : MCPHttpTransport) (events : List HttpEvent) (s : HttpRun) :
    Prop where
  posted : ∀ task ∈ s.mainTasks, Admitted transport events task.1 task.2
  held : ∀ ticket ∈ s.callbacks, ∃ message, Admitted transport events ticket message
  replied : ∀ task ∈ s.httpTasks, ∃ message, Admitted transport events task.1 message
  sent : ∀ answer ∈ s.sent, answer.2 ∈ refusals ∨
    ∃ message, Admitted transport events answer.1 message

section Steps

variable {transport : MCPHttpTransport} {events : List HttpEvent} {s t : HttpRun}
  {ticket : HttpTicket} {message : DictValue}

theorem arrivals_append (events : List HttpEvent) (event : HttpEvent) :
    arrivals (events ++ [event]) = arrivals events ++ event.arrival.toList := by
  rw [arrivals, List.filterMap_append, arrivals]
  cases h : event.arrival <;> simp [h]

theorem Admitted.later (h : Admitted transport events ticket message) (event : HttpEvent) :
    Admitted transport (events ++ [event]) ticket message := by
  obtain ⟨info, hinfo, hadmits⟩ := h
  refine ⟨info, ?_, hadmits⟩
  obtain ⟨hlt, -⟩ := List.getElem?_eq_some_iff.mp hinfo
  rw [arrivals_append, List.getElem?_append_left hlt]
  exact hinfo

theorem AdmittedOnly.later (h : s.AdmittedOnly transport events) (event : HttpEvent) :
    s.AdmittedOnly transport (events ++ [event]) where
  posted task htask := (h.posted task htask).later event
  held ticket hticket := by
    obtain ⟨message, hmessage⟩ := h.held ticket hticket
    exact ⟨message, hmessage.later event⟩
  replied task htask := by
    obtain ⟨message, hmessage⟩ := h.replied task htask
    exact ⟨message, hmessage.later event⟩
  sent answer hanswer := by
    rcases h.sent answer hanswer with hrefused | ⟨message, hmessage⟩
    · exact .inl hrefused
    · exact .inr ⟨message, hmessage.later event⟩

theorem refusal_mem {info : HttpServerRequestInfo} {response : HttpServerResponseInfo}
    (h : transport.refusal info = some response) : response ∈ refusals := by
  obtain ⟨check, hfound, rfl⟩ := Option.map_eq_some_iff.mp h
  have hmem := List.mem_of_find?_eq_some hfound
  simp only [MCPHttpTransport.checks, List.mem_cons, List.not_mem_nil, or_false] at hmem
  rcases hmem with rfl | rfl | rfl | rfl | rfl | rfl <;> simp [refusals]

theorem send_frame (response : HttpServerResponseInfo) (s : HttpRun) :
    (s.send ticket response).mainTasks = s.mainTasks ∧
      (s.send ticket response).callbacks = s.callbacks ∧
      (s.send ticket response).httpTasks = s.httpTasks ∧
      (s.send ticket response).arrived = s.arrived := by
  rw [send]
  split <;> exact ⟨rfl, rfl, rfl, rfl⟩

/-- A response sent, or dropped, adds at most itself. -/
theorem AdmittedOnly.send (h : s.AdmittedOnly transport events) {response : HttpServerResponseInfo}
    (hresponse : response ∈ refusals ∨ ∃ message, Admitted transport events ticket message) :
    (s.send ticket response).AdmittedOnly transport events := by
  obtain ⟨hmain, hcallbacks, hhttp, -⟩ := @send_frame ticket response s
  apply AdmittedOnly.mk
  · rw [hmain]
    exact h.posted
  · rw [hcallbacks]
    exact h.held
  · rw [hhttp]
    exact h.replied
  · intro answer hanswer
    by_cases hopen : ticket.connection ∈ s.openConnections
    · rw [send_open hopen] at hanswer
      rcases List.mem_append.mp hanswer with hbefore | hnew
      · exact h.sent answer hbefore
      · rw [List.mem_singleton.mp hnew]
        exact hresponse
    · rw [send_closed hopen] at hanswer
      exact h.sent answer hanswer

/-- The request just arrived has the number of its ticket. -/
theorem AdmittedOnly.request (h : s.AdmittedOnly transport events) {connection : Int}
    {info : HttpServerRequestInfo} (hcount : s.arrived.length = (arrivals events).length) :
    ((s.arrive (s.ticket connection)).onHttpRequest transport (s.ticket connection)
      info).AdmittedOnly transport (events ++ [.request connection info]) := by
  have hlater := h.later (.request connection info)
  have harrive : (s.arrive (s.ticket connection)).AdmittedOnly transport
      (events ++ [.request connection info]) :=
    ⟨hlater.posted, hlater.held, hlater.replied, hlater.sent⟩
  rcases onHttpRequest_cases transport (s.ticket connection) info (s.arrive (s.ticket connection))
    with ⟨message, hadmits, heq⟩ | ⟨-, response, hrefusal, heq⟩
  · have hadmitted : Admitted transport (events ++ [.request connection info])
        (s.ticket connection) message := by
      refine ⟨info, ?_, hadmits⟩
      show (arrivals (events ++ [.request connection info]))[s.arrived.length]? = _
      rw [hcount, arrivals_append]
      simp [HttpEvent.arrival, HttpRun.ticket]
    rw [heq]
    refine ⟨?_, harrive.held, harrive.replied, harrive.sent⟩
    intro task htask
    rcases List.mem_append.mp htask with hbefore | hnew
    · exact harrive.posted task hbefore
    · rw [List.mem_singleton.mp hnew]
      exact hadmitted
  · rw [heq]
    exact harrive.send (.inl (refusal_mem hrefusal))

theorem AdmittedOnly.webSocket (h : s.AdmittedOnly transport events) (connection : Int)
    (event : HttpEvent) :
    ((s.arrive (s.ticket connection)).send (s.ticket connection)
      webSocketNotAllowed).AdmittedOnly transport (events ++ [event]) := by
  have hlater := h.later event
  have harrive : (s.arrive (s.ticket connection)).AdmittedOnly transport (events ++ [event]) :=
    ⟨hlater.posted, hlater.held, hlater.replied, hlater.sent⟩
  exact harrive.send (.inl (by simp [refusals]))

theorem AdmittedOnly.runMainTask {task : HttpTicket × DictValue}
    {rest : List (HttpTicket × DictValue)} (h : s.AdmittedOnly transport events)
    (htasks : s.mainTasks = task :: rest) :
    AdmittedOnly transport events
      { s with mainTasks := rest, callbacks := s.callbacks ++ [task.1] } where
  posted other hother := h.posted other (htasks ▸ List.mem_cons_of_mem _ hother)
  held ticket hticket := by
    rcases List.mem_append.mp hticket with hbefore | hnew
    · exact h.held ticket hbefore
    · rw [List.mem_singleton.mp hnew]
      exact ⟨task.2, h.posted task (htasks ▸ List.mem_cons_self)⟩
  replied := h.replied
  sent := h.sent

theorem AdmittedOnly.runCallback (h : s.AdmittedOnly transport events)
    (hheld : ticket ∈ s.callbacks) (response : Option DictValue) :
    AdmittedOnly transport events
      { s with
        callbacks := s.callbacks.erase ticket
        httpTasks := s.httpTasks ++ [(ticket, response)] } where
  posted := h.posted
  held other hother := h.held other (List.mem_of_mem_erase hother)
  replied task htask := by
    rcases List.mem_append.mp htask with hbefore | hnew
    · exact h.replied task hbefore
    · rw [List.mem_singleton.mp hnew]
      exact h.held ticket hheld
  sent := h.sent

theorem AdmittedOnly.runHttpTask {task : HttpTicket × Option DictValue}
    {rest : List (HttpTicket × Option DictValue)} (h : s.AdmittedOnly transport events)
    (htasks : s.httpTasks = task :: rest) :
    ({ s with httpTasks := rest }.send task.1
      (transport.mcpResponse task.2)).AdmittedOnly transport events := by
  have hrest : AdmittedOnly transport events { s with httpTasks := rest } :=
    ⟨h.posted, h.held, fun other hother => h.replied other (htasks ▸ List.mem_cons_of_mem _ hother),
      h.sent⟩
  exact hrest.send (.inr (h.replied task (htasks ▸ List.mem_cons_self)))

/-- The number of tickets is the number of arrivals. -/
theorem step_arrived {event : HttpEvent} (hstep : s.step transport event = some t)
    (hcount : s.arrived.length = (arrivals events).length) :
    t.arrived.length = (arrivals (events ++ [event])).length := by
  have hquiet (harrival : event.arrival = none) (harrived : t.arrived = s.arrived) :
      t.arrived.length = (arrivals (events ++ [event])).length := by
    rw [harrived, hcount, arrivals_append, harrival]
    simp
  have harrive (harrival : event.arrival.isSome)
      (harrived : t.arrived.length = s.arrived.length + 1) :
      t.arrived.length = (arrivals (events ++ [event])).length := by
    obtain ⟨arrival, harrival⟩ := Option.isSome_iff_exists.mp harrival
    rw [harrived, hcount, arrivals_append, harrival]
    simp
  have hsend (ticket : HttpTicket) (response : HttpServerResponseInfo) :
      ((s.arrive ticket).send ticket response).arrived.length = s.arrived.length + 1 := by
    rw [(send_frame response _).2.2.2]
    simp [arrive]
  cases event with
  | connect connection => exact hquiet rfl (step_quiet (.inl ⟨connection, rfl⟩) hstep).1
  | close connection => exact hquiet rfl (step_quiet (.inr (.inl ⟨connection, rfl⟩)) hstep).1
  | stop => exact hquiet rfl (step_quiet (.inr (.inr rfl)) hstep).1
  | request connection info =>
      obtain rfl := step_request hstep
      apply harrive rfl
      rcases onHttpRequest_cases transport (s.ticket connection) info
        (s.arrive (s.ticket connection)) with ⟨message, -, heq⟩ | ⟨-, response, -, heq⟩
      · rw [heq]
        simp [arrive]
      · rw [heq]
        exact hsend _ response
  | webSocketRequest connection info =>
      obtain rfl := step_webSocket (.inl ⟨info, hstep⟩)
      exact harrive rfl (hsend _ _)
  | webSocketMessage connection data =>
      obtain rfl := step_webSocket (.inr ⟨data, hstep⟩)
      exact harrive rfl (hsend _ _)
  | runMainTask =>
      simp only [step] at hstep
      split at hstep
      · cases hstep
      · obtain rfl := Option.some.inj hstep
        exact hquiet rfl rfl
  | runCallback ticket response =>
      simp only [step] at hstep
      split at hstep
      · obtain rfl := Option.some.inj hstep
        exact hquiet rfl rfl
      · cases hstep
  | runHttpTask =>
      simp only [step] at hstep
      split at hstep
      · cases hstep
      · obtain rfl := Option.some.inj hstep
        exact hquiet rfl (send_frame _ _).2.2.2

theorem AdmittedOnly.step (h : s.AdmittedOnly transport events)
    (hcount : s.arrived.length = (arrivals events).length) {event : HttpEvent}
    (hstep : s.step transport event = some t) : t.AdmittedOnly transport (events ++ [event]) := by
  have hlater := h.later event
  cases event with
  | connect connection =>
      simp only [HttpRun.step] at hstep
      split at hstep
      · obtain rfl := Option.some.inj hstep
        exact ⟨hlater.posted, hlater.held, hlater.replied, hlater.sent⟩
      · cases hstep
  | close connection =>
      simp only [HttpRun.step] at hstep
      split at hstep
      · obtain rfl := Option.some.inj hstep
        exact ⟨hlater.posted, hlater.held, hlater.replied, hlater.sent⟩
      · cases hstep
  | stop =>
      obtain rfl := Option.some.inj hstep
      exact ⟨hlater.posted, hlater.held, hlater.replied, hlater.sent⟩
  | request connection info =>
      obtain rfl := step_request hstep
      exact h.request hcount
  | webSocketRequest connection info =>
      obtain rfl := step_webSocket (.inl ⟨info, hstep⟩)
      exact h.webSocket connection _
  | webSocketMessage connection data =>
      obtain rfl := step_webSocket (.inr ⟨data, hstep⟩)
      exact h.webSocket connection _
  | runMainTask =>
      simp only [HttpRun.step] at hstep
      split at hstep
      · cases hstep
      · rename_i ticket message rest htasks
        obtain rfl := Option.some.inj hstep
        exact hlater.runMainTask htasks
  | runCallback ticket response =>
      simp only [HttpRun.step] at hstep
      split at hstep
      · rename_i hheld
        obtain rfl := Option.some.inj hstep
        exact hlater.runCallback hheld response
      · cases hstep
  | runHttpTask =>
      simp only [HttpRun.step] at hstep
      split at hstep
      · cases hstep
      · rename_i ticket response rest htasks
        obtain rfl := Option.some.inj hstep
        exact hlater.runHttpTask htasks

theorem AdmittedOnly.run {later : List HttpEvent} (h : s.AdmittedOnly transport events)
    (hcount : s.arrived.length = (arrivals events).length)
    (hrun : Exec (Step (HttpRun.step transport)) s later t) :
    t.AdmittedOnly transport (events ++ later) := by
  induction hrun generalizing events with
  | nil =>
      rw [List.append_nil]
      exact h
  | cons head tail ih =>
      rw [List.append_cons]
      exact ih (h.step hcount head) (step_arrived head hcount)

theorem start_admittedOnly : start.AdmittedOnly transport [] where
  posted _ h := absurd h List.not_mem_nil
  held _ h := absurd h List.not_mem_nil
  replied _ h := absurd h List.not_mem_nil
  sent _ h := absurd h List.not_mem_nil

end Steps

end HttpRun

end Browserd
