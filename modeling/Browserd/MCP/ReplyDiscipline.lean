import Browserd.MCP.QueueDiscipline

/-!
# The reply discipline

Every message is answered once: the callbacks already run, those of queued calls and those held
by handlers are together the callbacks of the messages received, each exactly once. What is sent
to a callback is the proper reply to its own message.
-/

namespace Browserd

open Transition

/-- What the history says when the calls `pending` are still to be answered, each given by its
callback and its id. -/
structure ReplyHistory (log : List MCPEvent) (pending : List (MCPResponseCallback × Value)) :
    Prop where
  conserved : (List.range (receivedMessages log).length).Perm
    (repliedCalls log ++ pending.map Prod.fst)
  proper : ∀ c response, (c, response) ∈ sentReplies log →
    ∃ message, (receivedMessages log)[c]? = some message ∧ ProperReply message response
  calls : ∀ c ∈ acceptedCalls log, ∃ message, (receivedMessages log)[c]? = some message ∧
    message.findString "method" = some "tools/call" ∧ (message.find "id").isSome
  waiting : ∀ c id, (c, id) ∈ pending → c ∈ acceptedCalls log ∧
    ∃ message, (receivedMessages log)[c]? = some message ∧ message.find "id" = some id

namespace ReplyHistory

variable {log : List MCPEvent} {pending : List (MCPResponseCallback × Value)}

theorem start : ReplyHistory [] [] where
  conserved := by simp [receivedMessages, repliedCalls, sentReplies]
  proper := by simp [sentReplies]
  calls := by simp [acceptedCalls]
  waiting := by simp

/-- Events between a handler and the server answer nothing. -/
theorem quiet (events : List MCPEvent) (h : ReplyHistory log pending)
    (hevents : receivedMessages events = [] ∧ acceptedCalls events = [] ∧
      sentReplies events = []) : ReplyHistory (log ++ events) pending := by
  obtain ⟨hm, ha, hr⟩ := hevents
  have hmessages : receivedMessages (log ++ events) = receivedMessages log := by
    simpa [receivedMessages] using hm
  have haccepted : acceptedCalls (log ++ events) = acceptedCalls log := by
    simpa [acceptedCalls] using ha
  have hreplies : sentReplies (log ++ events) = sentReplies log := by
    simpa [sentReplies] using hr
  constructor
  · simpa only [repliedCalls, hmessages, hreplies] using h.conserved
  · simpa only [hmessages, hreplies] using h.proper
  · simpa only [hmessages, haccepted] using h.calls
  · simpa only [hmessages, haccepted] using h.waiting

/-- A pending call gets its answer. -/
theorem answer {before after : List (MCPResponseCallback × Value)} {callback : MCPResponseCallback}
    {id : Value} {response : DictValue}
    (h : ReplyHistory log (before ++ (callback, id) :: after))
    (hanswer : AnswersRequest id response) :
    ReplyHistory (log ++ [.replied callback (some response)]) (before ++ after) := by
  have hmessages : receivedMessages (log ++ [.replied callback (some response)]) =
      receivedMessages log := by simp [receivedMessages]
  have haccepted : acceptedCalls (log ++ [.replied callback (some response)]) =
      acceptedCalls log := by simp [acceptedCalls]
  have hreplies : sentReplies (log ++ [.replied callback (some response)]) =
      sentReplies log ++ [(callback, some response)] := by simp [sentReplies]
  constructor
  · rw [hmessages]
    apply h.conserved.trans
    simp only [repliedCalls, hreplies, List.map_append, List.map_cons, List.map_nil,
      List.append_assoc]
    exact List.Perm.append_left _ List.perm_middle
  · intro c r hmem
    rw [hmessages]
    rw [hreplies, List.mem_append, List.mem_singleton] at hmem
    rcases hmem with hmem | heq
    · exact h.proper c r hmem
    · obtain ⟨rfl, rfl⟩ := Prod.mk.inj heq
      obtain ⟨hcall, message, hmessage, hid⟩ := h.waiting c id (by simp)
      obtain ⟨message', hmessage', hmethod, -⟩ := h.calls c hcall
      obtain rfl : message = message' := by simpa [hmessage] using hmessage'
      refine ⟨message, hmessage, ?_⟩
      simpa [ProperReply, hid, hmethod] using hanswer
  · simpa only [hmessages, haccepted] using h.calls
  · intro c id' hmem
    rw [hmessages, haccepted]
    apply h.waiting c id'
    simp only [List.mem_append, List.mem_cons] at hmem ⊢
    tauto

private theorem getElem?_snoc {messages : List DictValue} {message m : DictValue} {c : Nat}
    (h : messages[c]? = some m) : (messages ++ [message])[c]? = some m := by
  have hlt : c < messages.length := (List.getElem?_eq_some_iff.mp h).1
  rw [List.getElem?_append_left hlt, h]

/-- A message is received and answered at once. -/
theorem receivedReplied {message : DictValue} {response : Option DictValue}
    (h : ReplyHistory log pending) (hproper : ProperReply message response) :
    ReplyHistory (log ++ [.received message] ++
      [.replied (receivedMessages log).length response]) pending := by
  generalize hn : (receivedMessages log).length = n
  have hmessages : receivedMessages (log ++ [.received message] ++ [.replied n response]) =
      receivedMessages log ++ [message] := by simp [receivedMessages]
  have haccepted : acceptedCalls (log ++ [.received message] ++ [.replied n response]) =
      acceptedCalls log := by simp [acceptedCalls]
  have hreplies : sentReplies (log ++ [.received message] ++ [.replied n response]) =
      sentReplies log ++ [(n, response)] := by simp [sentReplies]
  constructor
  · rw [hmessages, List.length_append, List.length_singleton, List.range_succ, hn]
    have hreplied : repliedCalls (log ++ [.received message] ++ [.replied n response]) =
        repliedCalls log ++ [n] := by rw [repliedCalls, hreplies, List.map_append]; rfl
    rw [hreplied, List.append_assoc]
    have hconserved := (hn ▸ h.conserved).append_right [n]
    rw [List.append_assoc] at hconserved
    exact hconserved.trans (List.Perm.append_left _ List.perm_append_comm)
  · intro c r hmem
    rw [hmessages]
    rw [hreplies, List.mem_append, List.mem_singleton] at hmem
    rcases hmem with hmem | heq
    · obtain ⟨m, hm, hp⟩ := h.proper c r hmem
      exact ⟨m, getElem?_snoc hm, hp⟩
    · obtain ⟨rfl, rfl⟩ := Prod.mk.inj heq
      exact ⟨message, by simp [← hn], hproper⟩
  · intro c hc
    rw [haccepted] at hc
    obtain ⟨m, hm, hcall⟩ := h.calls c hc
    exact ⟨m, hmessages ▸ getElem?_snoc hm, hcall⟩
  · intro c id hmem
    obtain ⟨hc, m, hm, hid⟩ := h.waiting c id hmem
    exact ⟨haccepted ▸ hc, m, hmessages ▸ getElem?_snoc hm, hid⟩

/-- A `tools/call` is received and put into the queue. -/
theorem receivedAccepted {message : DictValue} {id : Value} (h : ReplyHistory log pending)
    (hmethod : message.findString "method" = some "tools/call")
    (hid : message.find "id" = some id) :
    ReplyHistory (log ++ [.received message] ++ [.accepted (receivedMessages log).length])
      (pending ++ [((receivedMessages log).length, id)]) := by
  generalize hn : (receivedMessages log).length = n
  have hmessages : receivedMessages (log ++ [.received message] ++ [.accepted n]) =
      receivedMessages log ++ [message] := by simp [receivedMessages]
  have haccepted : acceptedCalls (log ++ [.received message] ++ [.accepted n]) =
      acceptedCalls log ++ [n] := by simp [acceptedCalls]
  have hreplies : sentReplies (log ++ [.received message] ++ [.accepted n]) =
      sentReplies log := by simp [sentReplies]
  have hlast : (receivedMessages log ++ [message])[n]? = some message := by simp [← hn]
  constructor
  · rw [hmessages, List.length_append, List.length_singleton, List.range_succ, hn]
    simp only [repliedCalls, hreplies, List.map_append, List.map_cons, List.map_nil]
    rw [← List.append_assoc]
    exact (hn ▸ h.conserved).append_right [n]
  · intro c r hmem
    rw [hreplies] at hmem
    obtain ⟨m, hm, hp⟩ := h.proper c r hmem
    exact ⟨m, hmessages ▸ getElem?_snoc hm, hp⟩
  · intro c hc
    rw [haccepted, List.mem_append, List.mem_singleton] at hc
    rw [hmessages]
    rcases hc with hc | rfl
    · obtain ⟨m, hm, hcall⟩ := h.calls c hc
      exact ⟨m, getElem?_snoc hm, hcall⟩
    · exact ⟨message, hlast, hmethod, by simp [hid]⟩
  · intro c id' hmem
    rw [hmessages, haccepted]
    rw [List.mem_append, List.mem_singleton] at hmem
    rcases hmem with hmem | heq
    · obtain ⟨hc, m, hm, hid'⟩ := h.waiting c id' hmem
      exact ⟨List.mem_append_left _ hc, m, getElem?_snoc hm, hid'⟩
    · obtain ⟨rfl, rfl⟩ := Prod.mk.inj heq
      exact ⟨by simp, message, hlast, hid⟩

end ReplyHistory

namespace MCPServer

variable {σ : Type*}

/-- The calls still to be answered, the outstanding ones first. -/
def pendingReplies (s : MCPServer σ) : List (MCPResponseCallback × Value) :=
  s.outstanding.map (fun cb => (cb.responseCallback, cb.id)) ++
    s.toolCallQueue.map (fun call => (call.responseCallback, call.id))

theorem executeNextToolCall_replyHistory {s : MCPServer σ}
    (h : ReplyHistory s.log s.pendingReplies) :
    ReplyHistory s.executeNextToolCall.log s.executeNextToolCall.pendingReplies := by
  apply executeNextToolCall_induction (P := fun s => ReplyHistory s.log s.pendingReplies)
    (Q := fun s => ReplyHistory s.log s.pendingReplies)
  case hanswered =>
    intro s call rest browser events answer h hq hanswer hevents
    have hquiet : receivedMessages events = [] ∧ acceptedCalls events = [] ∧
        sentReplies events = [] := by
      rcases hevents with ⟨rfl, -⟩ | ⟨rfl, -⟩ <;> exact ⟨rfl, rfl, rfl⟩
    simp only [pendingReplies, hq, List.map_cons] at h
    exact (h.quiet events hquiet).answer hanswer
  case hempty =>
    intro s h hq
    simpa [pendingReplies, hq] using h
  case hpending =>
    intro s call rest browser h hq _
    have hquiet := h.quiet [.invoked call.responseCallback] ⟨rfl, rfl, rfl⟩
    simpa [pendingReplies, hq, keptPending, PendingToolCall.resultCallback] using hquiet
  case hs => exact h

/-- One step keeps the history. -/
theorem step_replyHistory {s t : MCPServer σ} {input : Input σ}
    (h : ReplyHistory s.log s.pendingReplies) (hstep : step s input = some t) :
    ReplyHistory t.log t.pendingReplies := by
  cases input with
  | message m =>
      simp only [step, Option.some.injEq] at hstep
      subst hstep
      rcases onMessage_cases m (receivedMessages s.log).length (s.record (.received m))
        with ⟨response, hproper, heq⟩ | ⟨call, -, hmethod, hid, hcall, heq⟩
      · rw [heq]
        exact h.receivedReplied hproper
      · rw [heq]
        have hqueued : ReplyHistory ((s.record (.received m)).enqueued call).log
            ((s.record (.received m)).enqueued call).pendingReplies := by
          have := h.receivedAccepted hmethod hid
          simpa [enqueued, record, pendingReplies, hcall] using this
        split
        · exact executeNextToolCall_replyHistory hqueued
        · exact hqueued
  | toolResult c content isError =>
      simp only [step] at hstep
      split at hstep
      · rename_i cb hfind
        obtain ⟨hcb, before, after, hsplit, hbefore⟩ := List.find?_eq_some_iff_append.mp hfind
        have herase : s.outstanding.eraseP (fun cb => cb.responseCallback == c) =
            before ++ after := by
          rw [hsplit, List.eraseP_append_right _ (fun b hb => by simpa using hbefore b hb),
            List.eraseP_cons_of_pos (by simpa using hcb)]
        have hc : cb.responseCallback = c := by simpa using hcb
        subst hc
        have hquiet := h.quiet [.completed cb.responseCallback] ⟨rfl, rfl, rfl⟩
        simp only [pendingReplies, hsplit, List.map_append, List.map_cons, List.append_assoc,
          List.cons_append] at hquiet
        have hanswer :=
          hquiet.answer (resultResponse_answers cb.id (toolCallResult content isError))
        simp only [Option.some.injEq] at hstep
        rw [← hstep, onToolCallComplete]
        apply executeNextToolCall_replyHistory
        simpa [sendResult, record, pendingReplies, herase] using hanswer
      · simp at hstep
  | setController present =>
      simp only [step, Option.some.injEq] at hstep
      exact hstep ▸ h
  | browserChange browser =>
      simp only [step, Option.some.injEq] at hstep
      exact hstep ▸ h

theorem exec_replyHistory {tools : List (MCPToolDef σ)} {hasController : Bool} {browser : σ}
    {inputs : List (Input σ)} {s : MCPServer σ}
    (h : Exec (Step step) (init tools hasController browser) inputs s) :
    ReplyHistory s.log s.pendingReplies :=
  h.invariant (I := fun s => ReplyHistory s.log s.pendingReplies)
    (fun _ _ _ hs hstep => step_replyHistory hs hstep) ReplyHistory.start

/-- The session is open if a message that opens it has been received. -/
def OpenedByMessage (s : MCPServer σ) : Prop :=
  s.initialized = (receivedMessages s.log).any initializes

theorem executeNextToolCall_openedByMessage {s : MCPServer σ} (h : s.OpenedByMessage) :
    s.executeNextToolCall.OpenedByMessage := by
  apply executeNextToolCall_induction (P := OpenedByMessage) (Q := OpenedByMessage)
  case hanswered =>
    intro s call rest browser events answer h hq hanswer hevents
    have hquiet : receivedMessages events = [] := by
      rcases hevents with ⟨rfl, -⟩ | ⟨rfl, -⟩ <;> rfl
    simp only [receivedMessages] at hquiet
    simpa [OpenedByMessage, answered, receivedMessages, hquiet] using h
  case hempty => exact fun s h _ => h
  case hpending =>
    intro s call rest browser h hq hruns
    simpa [OpenedByMessage, keptPending, receivedMessages] using h
  case hs => exact h

/-- One step keeps it: only a message opens the session, and nothing closes it. -/
theorem step_openedByMessage {s t : MCPServer σ} {input : Input σ} (h : s.OpenedByMessage)
    (hstep : step s input = some t) : t.OpenedByMessage := by
  cases input with
  | message m =>
      simp only [step, Option.some.injEq] at hstep
      subst hstep
      rcases onMessage_cases m (receivedMessages s.log).length (s.record (.received m))
        with ⟨response, -, heq⟩ | ⟨call, hinit, -, -, -, heq⟩
      · rw [heq]
        have hopened : s.initialized = (receivedMessages s.log).any initializes := h
        simp [OpenedByMessage, answeredAtOnce, record, hopened, receivedMessages]
      · rw [heq]
        have hqueued : ((s.record (.received m)).enqueued call).OpenedByMessage := by
          have hopened : (receivedMessages s.log).any initializes = true := h.symm.trans hinit
          have hsame : ((s.record (.received m)).enqueued call).initialized = true := hinit
          rw [OpenedByMessage, hsame]
          simp only [receivedMessages] at hopened
          simp [enqueued, record, receivedMessages, hopened]
        split
        · exact executeNextToolCall_openedByMessage hqueued
        · exact hqueued
  | toolResult c content isError =>
      simp only [step] at hstep
      split at hstep
      · obtain rfl := Option.some.inj hstep
        rw [onToolCallComplete]
        apply executeNextToolCall_openedByMessage
        simpa [OpenedByMessage, sendResult, record, receivedMessages] using h
      · cases hstep
  | setController present =>
      obtain rfl := Option.some.inj hstep
      exact h
  | browserChange browser =>
      obtain rfl := Option.some.inj hstep
      exact h

/-- Before the session is opened a request is refused and nothing else happens. -/
theorem step_uninitialized {s : MCPServer σ} {message : DictValue} {id : Value} {method : String}
    (hinit : s.initialized = false) (hid : message.find "id" = some id)
    (hmethod : message.findString "method" = some method)
    (hother : method ∉ ["initialize", "notifications/initialized", "ping"]) :
    step s (.message message) = some { s with
      log := s.log ++ [.received message] ++ [.replied (receivedMessages s.log).length
        (some (errorResponse id (-32002) "Server not initialized"))] } := by
  simp only [List.mem_cons, List.not_mem_nil, or_false, not_or] at hother
  obtain ⟨h₁, h₂, h₃⟩ := hother
  simp [step, onMessage, hmethod, h₁, h₂, h₃, record, hinit, hid, sendError]

/-- In every run: no reply callback is run twice; the messages received are as many as the
callbacks run, the calls queued and the calls held by handlers; a message not yet answered is an
accepted `tools/call` request; what a callback is given is the proper reply to its own message;
the session is open exactly if an opening message has been received, and before that a request is
refused without any other effect. -/
theorem reply_discipline (tools : List (MCPToolDef σ)) (hasController : Bool) (browser : σ)
    (inputs : List (Input σ)) (s : MCPServer σ)
    (h : Exec (Step step) (init tools hasController browser) inputs s) :
    (repliedCalls s.log).Nodup ∧
    (receivedMessages s.log).length =
      (repliedCalls s.log).length + s.toolCallQueue.length + s.outstanding.length ∧
    (∀ c message, (receivedMessages s.log)[c]? = some message → c ∈ repliedCalls s.log ∨
      (c ∈ acceptedCalls s.log ∧ message.findString "method" = some "tools/call" ∧
        (message.find "id").isSome)) ∧
    (∀ c response, (c, response) ∈ sentReplies s.log →
      ∃ message, (receivedMessages s.log)[c]? = some message ∧ ProperReply message response) ∧
    (s.initialized = true ↔ ∃ message ∈ receivedMessages s.log, initializes message = true) ∧
    (∀ message id method, s.initialized = false → message.find "id" = some id →
      message.findString "method" = some method →
      method ∉ ["initialize", "notifications/initialized", "ping"] →
      step s (.message message) = some { s with
        log := s.log ++ [.received message] ++ [.replied (receivedMessages s.log).length
          (some (errorResponse id (-32002) "Server not initialized"))] }) := by
  have hhistory := exec_replyHistory h
  have hconserved := hhistory.conserved
  have hopened : s.OpenedByMessage :=
    h.invariant (fun _ _ _ hs hstep => step_openedByMessage hs hstep) rfl
  refine ⟨?_, ?_, ?_, hhistory.proper, ?_, ?_⟩
  · have hnodup := hconserved.nodup_iff.mp List.nodup_range
    exact (List.nodup_append.mp hnodup).1
  · have hlength := hconserved.length_eq
    simp only [List.length_range, List.length_append, List.length_map, pendingReplies] at hlength
    omega
  · intro c message hmessage
    have hlt : c < (receivedMessages s.log).length := (List.getElem?_eq_some_iff.mp hmessage).1
    have hmem := hconserved.mem_iff.mp (List.mem_range.mpr hlt)
    rcases List.mem_append.mp hmem with hmem | hmem
    · exact .inl hmem
    · obtain ⟨⟨c', id⟩, hpending, rfl⟩ := List.mem_map.mp hmem
      have hcall := (hhistory.waiting c' id hpending).1
      obtain ⟨message', hmessage', hmethod, hid⟩ := hhistory.calls c' hcall
      obtain rfl : message = message' := by simpa [hmessage] using hmessage'
      exact .inr ⟨hcall, hmethod, hid⟩
  · rw [hopened]
    exact List.any_eq_true
  · intro message id method hinit hid hmethod hother
    exact step_uninitialized hinit hid hmethod hother

def earlyCall : List (Input Unit) :=
  [.message (sampleCall 1 "ping_tab")]

/-- The call that came too early is sent again after the opening, while another is pending. -/
def openedInputs : List (Input Unit) :=
  earlyCall ++ [.message [("method", .string "notifications/initialized")],
    .message (sampleCall 2 "load"), .message (sampleCall 1 "ping_tab"),
    .toolResult 2 (textContent "loaded") false]

theorem reply_discipline_sample :
    ∃ s t, Exec (Step step) (init sampleTools true ()) earlyCall s ∧
      Exec (Step step) (init sampleTools true ()) openedInputs t ∧
      step s (.message (sampleCall 2 "load")) = some { s with
        log := s.log ++ [.received (sampleCall 2 "load")] ++ [.replied 1
          (some (errorResponse (.integer 2) (-32002) "Server not initialized"))] } ∧
      t.initialized = true ∧ (repliedCalls t.log).Nodup ∧ repliedCalls t.log = [0, 1, 2, 3] := by
  have hearly : Exec (Step step) (init sampleTools true ()) earlyCall _ := .cons rfl (.nil _)
  have hrun : Exec (Step step) (init sampleTools true ()) openedInputs _ :=
    .cons rfl (.cons rfl (.cons rfl (.cons rfl (.cons rfl (.nil _)))))
  obtain ⟨-, -, -, -, -, hrefused⟩ := reply_discipline _ _ _ _ _ hearly
  obtain ⟨hnodup, -, -, -, hopened, -⟩ := reply_discipline _ _ _ _ _ hrun
  refine ⟨_, _, hearly, hrun, ?_, hopened.mpr ?_, hnodup, rfl⟩
  · exact hrefused _ _ _ rfl rfl rfl (by decide)
  · exact ⟨_, List.mem_of_getElem? (i := 1) rfl, by decide⟩

end MCPServer

end Browserd
