import Browserd.MCP.QueueDiscipline

/-!
# The server as a host of tools

What a server guarantees for tools of any kind, if each of them either answers its call or keeps
its callback: the callbacks that the tools hold are the ones that the server waits for, and a
result that is given back is replied before anything else.
-/

namespace Browserd

open Transition (Exec Step)

theorem receivedMessages_append (log events : List MCPEvent) :
    receivedMessages (log ++ events) = receivedMessages log ++ receivedMessages events :=
  List.filterMap_append

namespace MCPServer

variable {σ : Type*}

/-- From a state in which nothing is held, a handler answers and holds nothing, or holds its
callback. `P` is what the handlers keep of the state. -/
def HandlesOneCall (held : σ → List ToolResultCallback) (P : σ → Prop) (tool : MCPToolDef σ) :
    Prop :=
  ∀ args callback browser, held browser = [] → P browser →
    let (browser, result) := tool.handler args callback browser
    held browser = (if result.isNone then [callback] else []) ∧ P browser

/-- How many accepted calls have not been answered. -/
def unanswered (s : MCPServer σ) : Nat := s.toolCallQueue.length + s.outstanding.length

/-- The callbacks that the server waits for are those that its tools hold. -/
structure Hosts (held : σ → List ToolResultCallback) (P : σ → Prop) (tools : List (MCPToolDef σ))
    (s : MCPServer σ) : Prop where
  tools : s.tools = tools
  queue : QueueInvariant s
  held : held s.browser = s.outstanding
  property : P s.browser

section Log

variable {s t : MCPServer σ}

/-- The messages that an input brings. -/
def Input.messages : Input σ → List DictValue
  | .message m => [m]
  | _ => []

private theorem executeNextToolCall_log :
    ∃ events, s.executeNextToolCall.log = s.log ++ events ∧ receivedMessages events = [] := by
  apply executeNextToolCall_induction
    (P := fun t => ∃ events, t.log = s.log ++ events ∧ receivedMessages events = [])
    (Q := fun t => ∃ events, t.log = s.log ++ events ∧ receivedMessages events = [])
  case hanswered =>
    rintro t call rest browser events answer ⟨before, hlog, hbefore⟩ - - hevents
    refine ⟨before ++ events ++ [.replied call.responseCallback (some answer)], ?_, ?_⟩
    · simp [answered, hlog]
    · rw [receivedMessages_append, receivedMessages_append, hbefore]
      rcases hevents with ⟨rfl, -⟩ | ⟨rfl, -⟩ <;> rfl
  case hempty => exact fun t h _ => h
  case hpending =>
    rintro t call rest browser ⟨before, hlog, hbefore⟩ - -
    refine ⟨before ++ [.invoked call.responseCallback], ?_, ?_⟩
    · simp [keptPending, hlog]
    · rw [receivedMessages_append, hbefore]
      rfl
  case hs => exact ⟨[], by simp, rfl⟩

/-- A step adds to the history, and what it receives is what its input brings. -/
theorem step_log {input : Input σ} (h : s.step input = some t) :
    ∃ events, t.log = s.log ++ events ∧ receivedMessages events = input.messages := by
  cases input with
  | message message =>
      obtain rfl := (Option.some.inj h).symm
      rcases onMessage_cases message (receivedMessages s.log).length
        (s.record (.received message)) with ⟨response, -, heq⟩ | ⟨call, -, -, -, -, heq⟩
      · rw [heq]
        exact ⟨[.received message, .replied (receivedMessages s.log).length response],
          by simp [answeredAtOnce, record], rfl⟩
      · rw [heq]
        split
        · obtain ⟨events, hlog, hevents⟩ := executeNextToolCall_log
            (s := (s.record (.received message)).enqueued call)
          refine ⟨[.received message, .accepted call.responseCallback] ++ events, ?_, ?_⟩
          · rw [hlog]
            simp [enqueued, record]
          · rw [receivedMessages_append, hevents]
            rfl
        · exact ⟨[.received message, .accepted call.responseCallback],
            by simp [enqueued, record], rfl⟩
  | toolResult c content isError =>
      rw [step] at h
      split at h
      · rename_i cb hfind
        obtain rfl := (Option.some.inj h).symm
        rw [onToolCallComplete]
        obtain ⟨events, hlog, hevents⟩ := executeNextToolCall_log
          (s := (({ s with
            outstanding := s.outstanding.eraseP fun cb => cb.responseCallback == c }.record
              (.completed c)).sendResult cb.id (toolCallResult content isError)
                cb.responseCallback))
        refine ⟨[.completed c, .replied cb.responseCallback
          (some (resultResponse cb.id (toolCallResult content isError)))] ++ events, ?_, ?_⟩
        · rw [hlog]
          simp [sendResult, record]
        · rw [receivedMessages_append, hevents]
          rfl
      · cases h
  | setController present =>
      obtain rfl := (Option.some.inj h).symm
      exact ⟨[], by simp, rfl⟩
  | browserChange browser =>
      obtain rfl := (Option.some.inj h).symm
      exact ⟨[], by simp, rfl⟩

theorem exec_received {inputs : List (Input σ)} (hrun : Exec (Step step) s inputs t) :
    receivedMessages t.log = receivedMessages s.log ++ inputs.flatMap Input.messages := by
  induction hrun with
  | nil s => simp
  | cons head _ ih =>
      obtain ⟨events, hlog, hevents⟩ := step_log head
      rw [ih, hlog, receivedMessages_append, hevents, List.flatMap_cons, List.append_assoc]

end Log

section Replies

variable {s t : MCPServer σ} {callback : MCPResponseCallback}

theorem mem_repliedCalls_append {log events : List MCPEvent} (h : callback ∈ repliedCalls log) :
    callback ∈ repliedCalls (log ++ events) := by
  simp only [repliedCalls, sentReplies, List.filterMap_append, List.map_append] at h ⊢
  exact List.mem_append_left _ h

theorem executeNextToolCall_keepsReplies (h : callback ∈ repliedCalls s.log) :
    callback ∈ repliedCalls s.executeNextToolCall.log := by
  obtain ⟨events, hlog, -⟩ := executeNextToolCall_log (s := s)
  rw [hlog]
  exact mem_repliedCalls_append h

/-- What has been replied stays replied. -/
theorem step_keepsReplies {input : Input σ} (h : callback ∈ repliedCalls s.log)
    (hstep : step s input = some t) : callback ∈ repliedCalls t.log := by
  obtain ⟨events, hlog, -⟩ := step_log hstep
  rw [hlog]
  exact mem_repliedCalls_append h

end Replies

/-- A message that arrives while a call is outstanding does not reach the browser. -/
theorem QueueInvariant.message_busy {s t : MCPServer σ} (h : QueueInvariant s)
    (hout : s.outstanding ≠ []) {message : DictValue}
    (hstep : step s (.message message) = some t) : t.browser = s.browser := by
  obtain rfl := (Option.some.inj hstep).symm
  rcases onMessage_cases message (receivedMessages s.log).length
    (s.record (.received message)) with ⟨response, -, heq⟩ | ⟨call, -, -, -, -, heq⟩
  · rw [heq]
    rfl
  · have hprogress : (s.record (.received message)).toolCallInProgress = true :=
      h.progress.mpr hout
    rw [heq, hprogress, if_neg (by decide)]
    rfl

section Hosting

variable {held : σ → List ToolResultCallback} {P : σ → Prop} {tools : List (MCPToolDef σ)}
  {s t : MCPServer σ}

theorem init_hosts (hasController : Bool) {browser : σ} (hheld : held browser = [])
    (hbrowser : P browser) : Hosts held P tools (init tools hasController browser) where
  tools := rfl
  queue := init_queueInvariant tools hasController browser
  held := hheld
  property := hbrowser

private theorem HandlerRuns.one {call : PendingToolCall} {browser : σ} {result : Option ToolResult}
    (htools : ∀ tool ∈ s.tools, HandlesOneCall held P tool) (h : s.HandlerRuns call browser result)
    (hheld : held s.browser = []) (hbrowser : P s.browser) :
    held browser = (if result.isNone then [call.resultCallback] else []) ∧ P browser := by
  obtain ⟨-, tool, hfind, hrun⟩ := h
  have hone := htools tool (List.mem_of_find?_eq_some hfind) call.args call.resultCallback
    s.browser hheld hbrowser
  rw [hrun] at hone
  exact hone

/-- `ExecuteNextToolCall` starts with nothing held and ends with what the last call holds. -/
private theorem executeNextToolCall_hosts (htools : ∀ tool ∈ tools, HandlesOneCall held P tool)
    (hs : s.tools = tools) (houtstanding : s.outstanding = []) (hheld : held s.browser = [])
    (hbrowser : P s.browser) :
    s.executeNextToolCall.tools = tools ∧
      held s.executeNextToolCall.browser = s.executeNextToolCall.outstanding ∧
      P s.executeNextToolCall.browser := by
  apply executeNextToolCall_induction
    (P := fun s => s.tools = tools ∧ s.outstanding = [] ∧ held s.browser = [] ∧ P s.browser)
    (Q := fun s => s.tools = tools ∧ held s.browser = s.outstanding ∧ P s.browser)
  case hanswered =>
    rintro s call rest browser events answer ⟨hs, houtstanding, hheld, hbrowser⟩ - - hevents
    rcases hevents with ⟨-, rfl, -⟩ | ⟨-, result, hruns⟩
    · exact ⟨hs, houtstanding, hheld, hbrowser⟩
    · obtain ⟨hheld', hbrowser'⟩ := HandlerRuns.one (hs ▸ htools) hruns hheld hbrowser
      exact ⟨hs, houtstanding, hheld', hbrowser'⟩
  case hempty =>
    rintro s ⟨hs, houtstanding, hheld, hbrowser⟩ -
    exact ⟨hs, hheld.trans houtstanding.symm, hbrowser⟩
  case hpending =>
    rintro s call rest browser ⟨hs, houtstanding, hheld, hbrowser⟩ - hruns
    obtain ⟨hheld', hbrowser'⟩ := HandlerRuns.one (hs ▸ htools) hruns hheld hbrowser
    refine ⟨hs, ?_, hbrowser'⟩
    show held browser = s.outstanding ++ [call.resultCallback]
    rw [houtstanding]
    exact hheld'
  case hs => exact ⟨hs, houtstanding, hheld, hbrowser⟩

/-- No call is added to those that wait. -/
private theorem executeNextToolCall_unanswered (houtstanding : s.outstanding = []) :
    s.executeNextToolCall.unanswered ≤ s.toolCallQueue.length := by
  apply executeNextToolCall_induction
    (P := fun t => t.outstanding = [] ∧ t.toolCallQueue.length ≤ s.toolCallQueue.length)
    (Q := fun t => t.unanswered ≤ s.toolCallQueue.length)
  case hanswered =>
    rintro t call rest browser events answer ⟨hidle, hle⟩ hqueue - -
    rw [hqueue, List.length_cons] at hle
    exact ⟨hidle, Nat.le_of_succ_le hle⟩
  case hempty =>
    rintro t ⟨hidle, hle⟩ -
    simp [unanswered, hidle]
  case hpending =>
    rintro t call rest browser ⟨hidle, hle⟩ hqueue -
    rw [hqueue, List.length_cons] at hle
    simpa [unanswered, keptPending, hidle] using hle
  case hs => exact ⟨houtstanding, Nat.le_refl _⟩

theorem Hosts.setController (h : Hosts held P tools s) (present : Bool)
    (hstep : step s (.setController present) = some t) : Hosts held P tools t := by
  have hqueue := step_queueInvariant h.queue hstep
  obtain rfl := (Option.some.inj hstep).symm
  exact ⟨h.tools, hqueue, h.held, h.property⟩

/-- The browser changes, but not the callbacks that its tools hold. -/
theorem Hosts.browserChange (h : Hosts held P tools s) {browser : σ}
    (hheld : held browser = held s.browser) (hbrowser : P browser) :
    Hosts held P tools { s with browser := browser } where
  tools := h.tools
  queue := @step_queueInvariant _ s _ (.browserChange browser) h.queue rfl
  held := hheld.trans h.held
  property := hbrowser

theorem Hosts.message (htools : ∀ tool ∈ tools, HandlesOneCall held P tool)
    (h : Hosts held P tools s) (message : DictValue)
    (hstep : step s (.message message) = some t) : Hosts held P tools t := by
  have hqueue := step_queueInvariant h.queue hstep
  obtain rfl := (Option.some.inj hstep).symm
  rcases onMessage_cases message (receivedMessages s.log).length
    (s.record (.received message)) with ⟨response, -, heq⟩ | ⟨call, -, -, -, -, heq⟩
  · rw [heq] at hqueue ⊢
    exact ⟨h.tools, hqueue, h.held, h.property⟩
  · rw [heq] at hqueue ⊢
    by_cases hprogress : (s.record (.received message)).toolCallInProgress = false
    · rw [if_pos hprogress] at hqueue ⊢
      have hidle : s.outstanding = [] := h.queue.idle hprogress
      obtain ⟨hs, hheld, hbrowser⟩ := executeNextToolCall_hosts htools
        (s := (s.record (.received message)).enqueued call) h.tools hidle
        (h.held.trans hidle) h.property
      exact ⟨hs, hqueue, hheld, hbrowser⟩
    · rw [if_neg hprogress] at hqueue ⊢
      exact ⟨h.tools, hqueue, h.held, h.property⟩

theorem Hosts.outstanding_eq (h : Hosts held P tools s) {cb : ToolResultCallback}
    (hcb : cb ∈ held s.browser) : s.outstanding = [cb] := by
  rw [h.held] at hcb
  cases hout : s.outstanding with
  | nil => simp [hout] at hcb
  | cons first rest =>
      have hle : rest.length + 1 ≤ 1 := by simpa [hout] using h.queue.outstanding_le
      obtain rfl : rest = [] := List.length_eq_zero_iff.mp (by omega)
      rw [hout] at hcb
      rw [List.mem_singleton.mp hcb]

/-- The callback that is held is run, in a browser that no longer holds it. -/
theorem Hosts.toolResult (htools : ∀ tool ∈ tools, HandlesOneCall held P tool)
    (h : Hosts held P tools s) {cb : ToolResultCallback} (hcb : cb ∈ held s.browser) {browser : σ}
    (hheld : held browser = []) (hbrowser : P browser) (content : ListValue) (isError : Bool) :
    ∃ t, step { s with browser := browser } (.toolResult cb.responseCallback content isError) =
        some t ∧
      Hosts held P tools t ∧ cb.responseCallback ∈ repliedCalls t.log ∧
        t.unanswered < s.unanswered := by
  have houtstanding := h.outstanding_eq hcb
  have hqueue : QueueInvariant { s with browser := browser } :=
    @step_queueInvariant _ s _ (.browserChange browser) h.queue rfl
  have hstep : step { s with browser := browser }
      (.toolResult cb.responseCallback content isError) =
        some (({ s with browser := browser, outstanding := [] }.record
          (.completed cb.responseCallback)).onToolCallComplete cb.id cb.responseCallback content
            isError) := by
    simp [step, houtstanding]
  obtain ⟨hs, hheld', hbrowser'⟩ := executeNextToolCall_hosts htools
    (s := (({ s with browser := browser, outstanding := [] }.record
      (.completed cb.responseCallback)).sendResult cb.id (toolCallResult content isError)
        cb.responseCallback))
    h.tools rfl hheld hbrowser
  refine ⟨_, hstep, ⟨hs, step_queueInvariant hqueue hstep, hheld', hbrowser'⟩, ?_, ?_⟩
  · apply executeNextToolCall_keepsReplies
    simp [sendResult, record, repliedCalls, sentReplies]
  · have hle := executeNextToolCall_unanswered
      (s := (({ s with browser := browser, outstanding := [] }.record
        (.completed cb.responseCallback)).sendResult cb.id (toolCallResult content isError)
          cb.responseCallback)) rfl
    apply Nat.lt_of_le_of_lt hle
    simp [unanswered, houtstanding, sendResult, record]

end Hosting

end MCPServer

end Browserd
