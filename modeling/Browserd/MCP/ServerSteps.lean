import Browserd.MCP.Server

/-!
# What one step of the MCP server can do

One inversion lemma for `OnMessage` and one induction rule for the run of `ExecuteNextToolCall`
through the queue. The two disciplines of the server are derived from these.
-/

namespace Browserd

/-- A JSON-RPC answer to the request `id`: its own id, and exactly one of result and error. -/
def AnswersRequest (id : Value) (response : DictValue) : Prop :=
  response.find "id" = some id ∧
    (((response.find "result").isSome ∧ response.find "error" = none) ∨
      (response.find "result" = none ∧ (response.find "error").isSome))

/-- What the transport must be given back for `message`. -/
def ProperReply (message : DictValue) (response : Option DictValue) : Prop :=
  match message.find "id" with
  | none => response = none
  | some id =>
      if message.findString "method" = some "notifications/initialized" then response = none
      else ∃ answer, response = some answer ∧ AnswersRequest id answer

/-- The messages that open the session. -/
def initializes (message : DictValue) : Bool :=
  (message.findString "method" = some "initialize" ∧ (message.find "id").isSome) ∨
    message.findString "method" = some "notifications/initialized"

namespace MCPServer

variable {σ : Type*}

theorem resultResponse_answers (id : Value) (result : DictValue) :
    AnswersRequest id (resultResponse id result) := by
  simp [AnswersRequest, resultResponse]

theorem errorResponse_answers (id : Value) (code : Int32) (message : String) :
    AnswersRequest id (errorResponse id code message) := by
  simp [AnswersRequest, errorResponse]

/-- The state in which a call has just been answered, after its handler if it was found. -/
def answered (s : MCPServer σ) (rest : List PendingToolCall) (browser : σ)
    (events : List MCPEvent) (callback : MCPResponseCallback) (answer : DictValue) :
    MCPServer σ :=
  { s with
    toolCallInProgress := true
    toolCallQueue := rest
    browser := browser
    log := s.log ++ events ++ [.replied callback (some answer)] }

/-- The state in which the handler of `call` has returned and kept its callback. -/
def keptPending (s : MCPServer σ) (call : PendingToolCall) (rest : List PendingToolCall)
    (browser : σ) : MCPServer σ :=
  { s with
    toolCallInProgress := true
    toolCallQueue := rest
    browser := browser
    outstanding := s.outstanding ++ [call.resultCallback]
    log := s.log ++ [.invoked call.responseCallback] }

/-- The server finds the handler of `call`, and running it leaves this state and result. -/
def HandlerRuns (s : MCPServer σ) (call : PendingToolCall) (browser : σ)
    (result : Option ToolResult) : Prop :=
  s.hasController = true ∧ ∃ tool, s.findTool call.name = some tool ∧
    tool.handler call.args call.resultCallback s.browser = (browser, result)

/-- The events of a call answered in the same stack, without its handler or by it. -/
def AnswerEvents (s : MCPServer σ) (call : PendingToolCall) (browser : σ)
    (events : List MCPEvent) : Prop :=
  (events = [] ∧ browser = s.browser ∧
      (s.hasController = true → s.findTool call.name = none)) ∨
    (events = [.invoked call.responseCallback, .completed call.responseCallback] ∧
      ∃ result, s.HandlerRuns call browser (some result))

private theorem executeQueue_cons (call : PendingToolCall) (rest : List PendingToolCall)
    (s : MCPServer σ) :
    (∃ browser events answer, AnswersRequest call.id answer ∧
        s.AnswerEvents call browser events ∧
        executeQueue (call :: rest) s =
          executeQueue rest (s.answered rest browser events call.responseCallback answer)) ∨
      ∃ browser, s.HandlerRuns call browser none ∧
        executeQueue (call :: rest) s = s.keptPending call rest browser := by
  rw [executeQueue]
  by_cases hc : s.hasController = false
  · refine .inl ⟨s.browser, [], _, resultResponse_answers call.id
      (toolCallResult (textContent "No browser controller") true),
      .inl ⟨rfl, rfl, by simp [hc]⟩, ?_⟩
    simp [hc, answered, sendResult, record]
  · have hc : s.hasController = true := by simpa using hc
    simp only [hc, Bool.true_eq_false, if_false, findTool]
    cases htool : s.tools.find? fun tool => tool.name == call.name with
    | none =>
        refine .inl ⟨s.browser, [], _, errorResponse_answers call.id (-32602)
          ("Unknown tool: " ++ call.name), .inl ⟨rfl, rfl, fun _ => htool⟩, ?_⟩
        simp [answered, sendError, record, hc]
    | some tool =>
        simp only [record]
        cases hrun : tool.handler call.args call.resultCallback s.browser with
        | mk browser result =>
            cases result with
            | none =>
                exact .inr ⟨browser, ⟨hc, tool, htool, hrun⟩, by simp [keptPending, hc]⟩
            | some result =>
                refine .inl ⟨browser, _, _, resultResponse_answers call.id
                  (toolCallResult result.1 result.2),
                  .inr ⟨rfl, result, hc, tool, htool, hrun⟩, ?_⟩
                simp [answered, sendResult, record, hc]

/-- To show `Q` after `ExecuteNextToolCall`, find a `P` that holds before it, is kept by every
call answered in the same stack, and gives `Q` where the stack ends: on an empty queue or with a
handler that keeps its callback. -/
theorem executeNextToolCall_induction {P Q : MCPServer σ → Prop}
    (hanswered : ∀ s call rest browser events answer, P s → s.toolCallQueue = call :: rest →
      AnswersRequest call.id answer → s.AnswerEvents call browser events →
      P (s.answered rest browser events call.responseCallback answer))
    (hempty : ∀ s, P s → s.toolCallQueue = [] →
      Q { s with toolCallInProgress := false, toolCallQueue := [] })
    (hpending : ∀ s call rest browser, P s → s.toolCallQueue = call :: rest →
      s.HandlerRuns call browser none → Q (s.keptPending call rest browser))
    (s : MCPServer σ) (hs : P s) : Q s.executeNextToolCall := by
  have hrun : ∀ queue (s : MCPServer σ), s.toolCallQueue = queue → P s →
      Q (executeQueue queue s) := by
    intro queue
    induction queue with
    | nil => intro s hq hs; exact hempty s hs hq
    | cons call rest ih =>
        intro s hq hs
        rcases executeQueue_cons call rest s with
          ⟨browser, events, answer, hanswer, hevents, heq⟩ | ⟨browser, hruns, heq⟩
        · rw [heq]
          exact ih _ rfl (hanswered s call rest browser events answer hs hq hanswer hevents)
        · rw [heq]
          exact hpending s call rest browser hs hq hruns
  exact hrun s.toolCallQueue s rfl hs

/-- The state in which the message of `callback` has been answered at once. -/
def answeredAtOnce (s : MCPServer σ) (message : DictValue) (callback : MCPResponseCallback)
    (response : Option DictValue) : MCPServer σ :=
  { s with
    initialized := s.initialized || initializes message
    log := s.log ++ [.replied callback response] }

/-- The state in which `call` has just been put into the queue. -/
def enqueued (s : MCPServer σ) (call : PendingToolCall) : MCPServer σ :=
  { s with
    toolCallQueue := s.toolCallQueue ++ [call]
    log := s.log ++ [.accepted call.responseCallback] }

private theorem replies_nothing {message : DictValue} {callback : MCPResponseCallback}
    (s : MCPServer σ) (hid : message.find "id" = none) (hinit : initializes message = false) :
    ∃ response, ProperReply message response ∧
      s.sendNoResponse callback = s.answeredAtOnce message callback response := by
  refine ⟨none, by simp [ProperReply, hid], ?_⟩
  simp [sendNoResponse, answeredAtOnce, record, hinit]

private theorem replies_answer {message : DictValue} (callback : MCPResponseCallback)
    {id : Value} {answer : DictValue} (s : MCPServer σ) (hid : message.find "id" = some id)
    (hmethod : message.findString "method" ≠ some "notifications/initialized")
    (hinit : initializes message = false) (hanswer : AnswersRequest id answer) :
    ∃ response, ProperReply message response ∧
      s.record (.replied callback (some answer)) =
        s.answeredAtOnce message callback response := by
  refine ⟨some answer, ?_, ?_⟩
  · simpa [ProperReply, hid, hmethod] using hanswer
  · simp [answeredAtOnce, record, hinit]

private theorem initializes_of_method {message : DictValue} {method : String}
    (hm : message.findString "method" = some method) (h₁ : method ≠ "initialize")
    (h₂ : method ≠ "notifications/initialized") : initializes message = false := by
  simp [initializes, hm, h₁, h₂]

private theorem handleToolsCall_cases {message : DictValue} {id : Value} (params : DictValue)
    (callback : MCPResponseCallback) (s : MCPServer σ)
    (hm : message.findString "method" = some "tools/call") (hid : message.find "id" = some id) :
    (∃ response, ProperReply message response ∧
        s.handleToolsCall params id callback = s.answeredAtOnce message callback response) ∨
      ∃ call : PendingToolCall, call.id = id ∧ call.responseCallback = callback ∧
        s.handleToolsCall params id callback =
          if s.toolCallInProgress = false then (s.enqueued call).executeNextToolCall
          else s.enqueued call := by
  unfold handleToolsCall
  cases params.findString "name" with
  | none =>
      exact .inl (replies_answer callback s hid (by simp [hm])
        (initializes_of_method hm (by decide) (by decide)) (errorResponse_answers id _ _))
  | some toolName =>
      exact .inr ⟨⟨toolName, (params.findDict "arguments").getD [], id, callback⟩, rfl, rfl, rfl⟩

/-- `OnMessage` answers the message before it returns, or puts a call into the queue and, when
no call is in progress, starts executing. -/
theorem onMessage_cases (message : DictValue) (callback : MCPResponseCallback)
    (s : MCPServer σ) :
    (∃ response, ProperReply message response ∧
        s.onMessage message callback = s.answeredAtOnce message callback response) ∨
      ∃ call : PendingToolCall, s.initialized = true ∧
        message.findString "method" = some "tools/call" ∧
        message.find "id" = some call.id ∧ call.responseCallback = callback ∧
        s.onMessage message callback =
          if s.toolCallInProgress = false then (s.enqueued call).executeNextToolCall
          else s.enqueued call := by
  unfold onMessage
  cases hm : message.findString "method" with
  | none =>
      have hinit : initializes message = false := by simp [initializes, hm]
      cases hid : message.find "id" with
      | none => exact .inl (replies_nothing s hid hinit)
      | some id =>
          exact .inl (replies_answer callback s hid (by simp [hm]) hinit
            (errorResponse_answers id _ _))
  | some method =>
      -- The branches are tried in the order of the source.
      by_cases h₁ : method = "initialize"
      · subst h₁
        cases hid : message.find "id" with
        | none => exact .inl (replies_nothing s hid (by simp [initializes, hm, hid]))
        | some id =>
            refine .inl ⟨some (resultResponse id initializeResult), ?_, ?_⟩
            · simpa [ProperReply, hid, hm] using resultResponse_answers id initializeResult
            · simp [handleInitialize, sendResult, record, answeredAtOnce, initializes, hm, hid]
      by_cases h₂ : method = "notifications/initialized"
      · subst h₂
        refine .inl ⟨none, ?_, ?_⟩
        · cases hid : message.find "id" <;> simp [ProperReply, hid, hm]
        · simp [sendNoResponse, record, answeredAtOnce, initializes, hm]
      have hinit := initializes_of_method hm h₁ h₂
      have hmethod : message.findString "method" ≠ some "notifications/initialized" := by
        simpa [hm] using h₂
      have hanswer {id : Value} {answer : DictValue} (hid : message.find "id" = some id)
          (h : AnswersRequest id answer) :=
        replies_answer callback s hid hmethod hinit h
      simp only [h₁, h₂, if_false]
      by_cases h₃ : method = "ping"
      · cases hid : message.find "id" with
        | none => exact .inl (by simpa [h₃] using replies_nothing s hid hinit)
        | some id =>
            exact .inl (by simpa [h₃, sendResult] using hanswer hid (resultResponse_answers id _))
      by_cases h₄ : s.initialized = false
      · cases hid : message.find "id" with
        | none => exact .inl (by simpa [h₃, h₄] using replies_nothing s hid hinit)
        | some id =>
            exact .inl
              (by simpa [h₃, h₄, sendError] using hanswer hid (errorResponse_answers id _ _))
      by_cases h₅ : method = "tools/list"
      · cases hid : message.find "id" with
        | none => exact .inl (by simpa [h₅, h₄] using replies_nothing s hid hinit)
        | some id =>
            exact .inl (by
              simpa [h₅, h₄, handleToolsList, sendResult] using
                hanswer hid (resultResponse_answers id _))
      by_cases h₆ : method = "tools/call"
      · subst h₆
        cases hid : message.find "id" with
        | none => exact .inl (by simpa [h₄] using replies_nothing s hid hinit)
        | some id =>
            rcases handleToolsCall_cases ((message.findDict "params").getD [])
              callback s hm hid with h | ⟨call, hcid, hcb, heq⟩
            · exact .inl (by simpa [h₄] using h)
            · exact .inr ⟨call, by simpa using h₄, rfl, by simp [hcid], hcb,
                by simpa [h₄] using heq⟩
      · cases hid : message.find "id" with
        | none => exact .inl (by simpa [h₃, h₄, h₅, h₆] using replies_nothing s hid hinit)
        | some id =>
            exact .inl (by
              simpa [h₃, h₄, h₅, h₆, sendError] using hanswer hid (errorResponse_answers id _ _))

end MCPServer

end Browserd
