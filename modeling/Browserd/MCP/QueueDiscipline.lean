import Browserd.MCP.ServerSteps

/-!
# The tool queue discipline

At most one handler is outstanding, calls are served in the order in which they were accepted,
and the in-progress flag tells exactly whether a handler still holds its callback.
-/

namespace Browserd

open Transition

/-- The replies to accepted calls, in the order in which they were sent. -/
def acceptedReplies (log : List MCPEvent) : List MCPResponseCallback :=
  (repliedCalls log).filter (· ∈ acceptedCalls log)

/-- No more than one handler invocation is without its completion. -/
def OneInvocation (past : List MCPEvent) : Prop :=
  (invokedCalls past).length ≤ (completedCalls past).length + 1

/-- If the last event is an invocation, an opening message was received before it. -/
def InvokedAfterOpening (past : List MCPEvent) : Prop :=
  ∀ before callback, past = before ++ [.invoked callback] →
    ∃ message, .received message ∈ before ∧ initializes message

/-- What the history says when the handlers of the calls `outstanding` hold their callbacks and
the calls `queued` wait. -/
structure CallHistory (log : List MCPEvent) (outstanding queued : List MCPResponseCallback)
    (initialized : Bool) : Prop where
  order : acceptedCalls log = acceptedReplies log ++ outstanding ++ queued
  invoked : (invokedCalls log).Sublist (acceptedReplies log ++ outstanding)
  sorted : (acceptedCalls log).Pairwise (· < ·)
  accepted_lt : ∀ c ∈ acceptedCalls log, c < (receivedMessages log).length
  replied_lt : ∀ c ∈ repliedCalls log, c < (receivedMessages log).length
  balance : (invokedCalls log).length = (completedCalls log).length + outstanding.length
  single : Always OneInvocation log
  opening : Always InvokedAfterOpening log
  opened : initialized = true → ∃ message, .received message ∈ log ∧ initializes message
  queue_opened : queued ≠ [] → initialized = true

section Frame

variable (log : List MCPEvent) {e : MCPEvent}

theorem acceptedCalls_frame (he : ∀ c, e ≠ .accepted c) :
    acceptedCalls (log ++ [e]) = acceptedCalls log := by
  rw [acceptedCalls, List.filterMap_append]
  cases e with
  | accepted c => exact absurd rfl (he c)
  | _ => exact List.append_nil _

theorem repliedCalls_frame (he : ∀ c response, e ≠ .replied c response) :
    repliedCalls (log ++ [e]) = repliedCalls log := by
  rw [repliedCalls, sentReplies, List.filterMap_append, List.map_append]
  cases e with
  | replied c response => exact absurd rfl (he c response)
  | _ => exact List.append_nil _

theorem invokedCalls_frame (he : ∀ c, e ≠ .invoked c) :
    invokedCalls (log ++ [e]) = invokedCalls log := by
  rw [invokedCalls, List.filterMap_append]
  cases e with
  | invoked c => exact absurd rfl (he c)
  | _ => exact List.append_nil _

theorem completedCalls_frame (he : ∀ c, e ≠ .completed c) :
    completedCalls (log ++ [e]) = completedCalls log := by
  rw [completedCalls, List.filterMap_append]
  cases e with
  | completed c => exact absurd rfl (he c)
  | _ => exact List.append_nil _

theorem lt_received_snoc (e : MCPEvent) {c : MCPResponseCallback}
    (h : c < (receivedMessages log).length) : c < (receivedMessages (log ++ [e])).length := by
  rw [receivedMessages, List.filterMap_append, List.length_append]
  exact Nat.lt_add_right _ h

end Frame

namespace CallHistory

variable {log : List MCPEvent} {outstanding queued : List MCPResponseCallback}
  {callback : MCPResponseCallback} {initialized : Bool}

/-- An event that is no invocation keeps what held at every moment. -/
private theorem always_snoc {e : MCPEvent} (hsingle : Always OneInvocation log)
    (hopening : Always InvokedAfterOpening log) (he : ∀ callback, e ≠ .invoked callback) :
    Always OneInvocation (log ++ [e]) ∧ Always InvokedAfterOpening (log ++ [e]) := by
  constructor
  · apply hsingle.snoc
    have hnow := hsingle.now
    cases e with
    | invoked callback => exact absurd rfl (he callback)
    | _ => simp [OneInvocation, invokedCalls, completedCalls] at hnow ⊢; omega
  · apply hopening.snoc
    intro before callback heq
    have hlast := (List.append_inj' heq rfl).2
    simp only [List.cons.injEq, and_true] at hlast
    exact absurd hlast (he callback)

private theorem opened_snoc (e : MCPEvent)
    (h : ∃ message, .received message ∈ log ∧ initializes message) :
    ∃ message, .received message ∈ log ++ [e] ∧ initializes message := by
  obtain ⟨message, hmessage, hopens⟩ := h
  exact ⟨message, List.mem_append_left _ hmessage, hopens⟩

private theorem acceptedReplies_snoc (log : List MCPEvent) {e : MCPEvent}
    (ha : ∀ c, e ≠ .accepted c) (hr : ∀ c r, e ≠ .replied c r) :
    acceptedReplies (log ++ [e]) = acceptedReplies log := by
  rw [acceptedReplies, acceptedCalls_frame log ha, repliedCalls_frame log hr]
  rfl

private theorem repliedCalls_replied (log : List MCPEvent) (callback : MCPResponseCallback)
    (response : Option DictValue) :
    repliedCalls (log ++ [.replied callback response]) = repliedCalls log ++ [callback] := by
  rw [repliedCalls, sentReplies, List.filterMap_append, List.map_append]
  rfl

private theorem acceptedReplies_replied (log : List MCPEvent) (callback : MCPResponseCallback)
    (response : Option DictValue) :
    acceptedReplies (log ++ [.replied callback response]) =
      acceptedReplies log ++ if callback ∈ acceptedCalls log then [callback] else [] := by
  have haccepted : acceptedCalls (log ++ [.replied callback response]) = acceptedCalls log :=
    acceptedCalls_frame log (by simp)
  rw [acceptedReplies, haccepted, repliedCalls_replied, List.filter_append]
  by_cases hmem : callback ∈ acceptedCalls log <;> simp [acceptedReplies, hmem]

theorem start : CallHistory [] [] [] false where
  order := rfl
  invoked := List.Sublist.refl _
  sorted := List.Pairwise.nil
  accepted_lt := by simp [acceptedCalls]
  replied_lt := by simp [repliedCalls, sentReplies]
  balance := rfl
  single := Always.nil (by simp [OneInvocation, invokedCalls])
  opening := Always.nil (by simp [InvokedAfterOpening])
  opened := by simp
  queue_opened := by simp

/-- An event that accepts no call. -/
private theorem sameAccepted {e : MCPEvent} (h : CallHistory log outstanding queued initialized)
    (haccepted : acceptedCalls (log ++ [e]) = acceptedCalls log) :
    (acceptedCalls (log ++ [e])).Pairwise (· < ·) ∧
      ∀ c ∈ acceptedCalls (log ++ [e]), c < (receivedMessages (log ++ [e])).length := by
  rw [haccepted]
  refine ⟨h.sorted, ?_⟩
  intro c hc
  exact lt_received_snoc log _ (h.accepted_lt c hc)

theorem received (message : DictValue) (h : CallHistory log outstanding queued initialized) :
    CallHistory (log ++ [.received message]) outstanding queued initialized := by
  have haccepted : acceptedCalls (log ++ [.received message]) = acceptedCalls log :=
    acceptedCalls_frame log (by simp)
  have hreplied : repliedCalls (log ++ [.received message]) = repliedCalls log :=
    repliedCalls_frame log (by simp)
  have hinvoked : invokedCalls (log ++ [.received message]) = invokedCalls log :=
    invokedCalls_frame log (by simp)
  have hcompleted : completedCalls (log ++ [.received message]) = completedCalls log :=
    completedCalls_frame log (by simp)
  have hreplies := acceptedReplies_snoc (e := .received message) log (by simp) (by simp)
  have halways := always_snoc (e := .received message) h.single h.opening (by simp)
  constructor
  · rw [hreplies, haccepted]
    exact h.order
  · rw [hreplies, hinvoked]
    exact h.invoked
  · exact (h.sameAccepted haccepted).1
  · exact (h.sameAccepted haccepted).2
  · intro c hc
    exact lt_received_snoc log _ (h.replied_lt c (hreplied ▸ hc))
  · rw [hinvoked, hcompleted]
    exact h.balance
  · exact halways.1
  · exact halways.2
  · exact fun hinit => opened_snoc _ (h.opened hinit)
  · exact h.queue_opened

/-- A reply, either to a message that is no accepted call or to the call that is served. -/
private theorem replied {outstanding' queued' : List MCPResponseCallback}
    (response : Option DictValue) (h : CallHistory log outstanding queued initialized)
    (hlt : callback < (receivedMessages log).length)
    (hcalls : (if callback ∈ acceptedCalls log then [callback] else []) ++ outstanding' ++ queued' =
      outstanding ++ queued)
    (hinvoked : (invokedCalls log).Sublist
      (acceptedReplies (log ++ [.replied callback response]) ++ outstanding'))
    (hlength : outstanding'.length = outstanding.length)
    (hqueue : queued' ≠ [] → queued ≠ []) :
    CallHistory (log ++ [.replied callback response]) outstanding' queued' initialized := by
  have haccepted : acceptedCalls (log ++ [.replied callback response]) = acceptedCalls log :=
    acceptedCalls_frame log (by simp)
  have hkept : invokedCalls (log ++ [.replied callback response]) = invokedCalls log :=
    invokedCalls_frame log (by simp)
  have hcompleted : completedCalls (log ++ [.replied callback response]) = completedCalls log :=
    completedCalls_frame log (by simp)
  have halways := always_snoc (e := .replied callback response) h.single h.opening (by simp)
  constructor
  · rw [acceptedReplies_replied, haccepted]
    have horder := h.order
    rw [List.append_assoc, ← hcalls] at horder
    simpa only [List.append_assoc] using horder
  · rw [hkept]
    exact hinvoked
  · exact (h.sameAccepted haccepted).1
  · exact (h.sameAccepted haccepted).2
  · intro c hc
    apply lt_received_snoc
    rw [repliedCalls_replied, List.mem_append, List.mem_singleton] at hc
    rcases hc with hc | rfl
    · exact h.replied_lt c hc
    · exact hlt
  · rw [hlength, hkept, hcompleted]
    exact h.balance
  · exact halways.1
  · exact halways.2
  · exact fun hinit => opened_snoc _ (h.opened hinit)
  · exact fun hq => h.queue_opened (hqueue hq)

/-- A reply to a message that is no accepted call leaves the calls alone. -/
theorem repliedAtOnce (response : Option DictValue)
    (h : CallHistory log outstanding queued initialized) (hfresh : callback ∉ acceptedCalls log)
    (hlt : callback < (receivedMessages log).length) :
    CallHistory (log ++ [.replied callback response]) outstanding queued initialized := by
  refine h.replied response hlt (by simp [hfresh]) ?_ rfl id
  rw [acceptedReplies_replied]
  simpa [hfresh] using h.invoked

theorem openSession {message : DictValue} (h : CallHistory log outstanding queued initialized)
    (hmessage : .received message ∈ log) :
    CallHistory log outstanding queued (initialized || initializes message) :=
  { h with
    opened := by
      intro hinit
      rcases Bool.or_eq_true_iff.mp hinit with hinit | hopens
      · exact h.opened hinit
      · exact ⟨message, hmessage, hopens⟩
    queue_opened := fun hq => by simp [h.queue_opened hq] }

theorem accepted (h : CallHistory log outstanding queued true)
    (hlarge : ∀ c ∈ acceptedCalls log, c < callback) (hreply : callback ∉ repliedCalls log)
    (hlt : callback < (receivedMessages log).length) :
    CallHistory (log ++ [.accepted callback]) outstanding (queued ++ [callback]) true := by
  have haccepted : acceptedCalls (log ++ [.accepted callback]) =
      acceptedCalls log ++ [callback] := by simp [acceptedCalls]
  have hreplied : repliedCalls (log ++ [.accepted callback]) = repliedCalls log :=
    repliedCalls_frame log (by simp)
  have hinvoked : invokedCalls (log ++ [.accepted callback]) = invokedCalls log :=
    invokedCalls_frame log (by simp)
  have hcompleted : completedCalls (log ++ [.accepted callback]) = completedCalls log :=
    completedCalls_frame log (by simp)
  have hreplies : acceptedReplies (log ++ [.accepted callback]) = acceptedReplies log := by
    simp only [acceptedReplies, haccepted, hreplied]
    apply List.filter_congr
    intro c hc
    have hne : c ≠ callback := fun he => hreply (he ▸ hc)
    simp [hne]
  have halways := always_snoc (e := .accepted callback) h.single h.opening (by simp)
  constructor
  · rw [haccepted, hreplies, h.order, List.append_assoc]
  · rw [hreplies, hinvoked]
    exact h.invoked
  · rw [haccepted, List.pairwise_append]
    refine ⟨h.sorted, by simp, ?_⟩
    intro c hc d hd
    rw [List.mem_singleton.mp hd]
    exact hlarge c hc
  · intro c hc
    apply lt_received_snoc
    rw [haccepted, List.mem_append, List.mem_singleton] at hc
    rcases hc with hc | rfl
    · exact h.accepted_lt c hc
    · exact hlt
  · intro c hc
    exact lt_received_snoc log _ (h.replied_lt c (hreplied ▸ hc))
  · rw [hinvoked, hcompleted]
    exact h.balance
  · exact halways.1
  · exact halways.2
  · exact fun hinit => opened_snoc _ (h.opened hinit)
  · exact fun _ => rfl

theorem head_mem (h : CallHistory log outstanding (callback :: queued) initialized) :
    callback ∈ acceptedCalls log := by
  rw [h.order]
  simp

theorem invoke (h : CallHistory log [] (callback :: queued) initialized) :
    CallHistory (log ++ [.invoked callback]) [callback] queued initialized := by
  have haccepted : acceptedCalls (log ++ [.invoked callback]) = acceptedCalls log :=
    acceptedCalls_frame log (by simp)
  have hreplied : repliedCalls (log ++ [.invoked callback]) = repliedCalls log :=
    repliedCalls_frame log (by simp)
  have hcompleted : completedCalls (log ++ [.invoked callback]) = completedCalls log :=
    completedCalls_frame log (by simp)
  have hinvoked : invokedCalls (log ++ [.invoked callback]) = invokedCalls log ++ [callback] := by
    simp [invokedCalls]
  have hreplies := acceptedReplies_snoc (e := .invoked callback) log (by simp) (by simp)
  have hbalance : (invokedCalls log).length = (completedCalls log).length := h.balance
  constructor
  · rw [hreplies, haccepted, h.order, List.append_nil, List.append_assoc]
    rfl
  · rw [hreplies, hinvoked]
    have hserved : (invokedCalls log).Sublist (acceptedReplies log) := by
      simpa using h.invoked
    exact hserved.append (List.Sublist.refl [callback])
  · exact (h.sameAccepted haccepted).1
  · exact (h.sameAccepted haccepted).2
  · intro c hc
    exact lt_received_snoc log _ (h.replied_lt c (hreplied ▸ hc))
  · rw [hinvoked, hcompleted, List.length_append, hbalance]
  · apply h.single.snoc
    rw [OneInvocation, hinvoked, hcompleted, List.length_append, hbalance]
    exact Nat.le_refl _
  · apply h.opening.snoc
    intro before callback heq
    obtain ⟨rfl, -⟩ := List.append_inj' heq rfl
    exact h.opened (h.queue_opened (by simp))
  · exact fun hinit => opened_snoc _ (h.opened hinit)
  · exact fun _ => h.queue_opened (by simp)

/-- The next call is answered without a handler. -/
theorem replyHead (response : Option DictValue)
    (h : CallHistory log [] (callback :: queued) initialized) :
    CallHistory (log ++ [.replied callback response]) [] queued initialized := by
  refine h.replied response (h.accepted_lt _ h.head_mem) (by simp [h.head_mem]) ?_ rfl (by simp)
  rw [acceptedReplies_replied]
  exact h.invoked.trans (by simp)

/-- The handler of the call that is served runs its callback, which sends the reply. -/
theorem complete (response : Option DictValue)
    (h : CallHistory log [callback] queued initialized) :
    CallHistory (log ++ [.completed callback] ++ [.replied callback response]) [] queued
      initialized := by
  have hmem : callback ∈ acceptedCalls log := by
    rw [h.order]
    simp
  have haccepted : acceptedCalls (log ++ [.completed callback]) = acceptedCalls log :=
    acceptedCalls_frame log (by simp)
  have haccepted' : acceptedCalls (log ++ [.completed callback] ++ [.replied callback response]) =
      acceptedCalls log := by
    rw [acceptedCalls_frame _ (by simp), haccepted]
  have hinvoked : invokedCalls (log ++ [.completed callback] ++ [.replied callback response]) =
      invokedCalls log := by
    rw [invokedCalls_frame _ (by simp), invokedCalls_frame _ (by simp)]
  have hcompleted : completedCalls (log ++ [.completed callback] ++ [.replied callback response]) =
      completedCalls log ++ [callback] := by
    rw [completedCalls_frame _ (by simp)]
    simp [completedCalls]
  have hreplies : acceptedReplies (log ++ [.completed callback] ++ [.replied callback response]) =
      acceptedReplies log ++ [callback] := by
    rw [acceptedReplies_replied, acceptedReplies_snoc log (by simp) (by simp), haccepted,
      if_pos hmem]
  have hserved := always_snoc (e := .completed callback) h.single h.opening (by simp)
  have halways := always_snoc (e := .replied callback response) hserved.1 hserved.2 (by simp)
  constructor
  · rw [hreplies, haccepted', h.order, List.append_nil]
  · rw [hreplies, hinvoked, List.append_nil]
    exact h.invoked
  · rw [haccepted']
    exact h.sorted
  · intro c hc
    exact lt_received_snoc _ _ (lt_received_snoc log _ (h.accepted_lt c (haccepted' ▸ hc)))
  · intro c hc
    apply lt_received_snoc
    apply lt_received_snoc
    rw [repliedCalls_replied, repliedCalls_frame log (by simp), List.mem_append,
      List.mem_singleton] at hc
    rcases hc with hc | rfl
    · exact h.replied_lt c hc
    · exact h.accepted_lt c hmem
  · rw [hinvoked, hcompleted, List.length_append]
    exact h.balance
  · exact halways.1
  · exact halways.2
  · exact fun hinit => opened_snoc _ (opened_snoc _ (h.opened hinit))
  · exact h.queue_opened

end CallHistory

namespace MCPServer

variable {σ : Type*}

def outstandingCalls (s : MCPServer σ) : List MCPResponseCallback :=
  s.outstanding.map ToolResultCallback.responseCallback

def queuedCalls (s : MCPServer σ) : List MCPResponseCallback :=
  s.toolCallQueue.map PendingToolCall.responseCallback

/-- What holds between steps. -/
structure QueueInvariant (s : MCPServer σ) : Prop where
  history : CallHistory s.log s.outstandingCalls s.queuedCalls s.initialized
  outstanding_le : s.outstanding.length ≤ 1
  progress : s.toolCallInProgress = true ↔ s.outstanding ≠ []
  busy : s.toolCallQueue ≠ [] → s.toolCallInProgress = true

theorem QueueInvariant.idle {s : MCPServer σ} (h : QueueInvariant s)
    (hprogress : s.toolCallInProgress = false) : s.outstanding = [] := by
  by_contra hne
  simp [h.progress.mpr hne] at hprogress

theorem QueueInvariant.unreplied {s : MCPServer σ} (h : QueueInvariant s)
    {cb : ToolResultCallback} (hcb : cb ∈ s.outstanding) :
    cb.responseCallback ∉ repliedCalls s.log := by
  intro hreplied
  have hout : cb.responseCallback ∈ s.outstandingCalls := List.mem_map_of_mem hcb
  have hsorted := h.history.sorted
  rw [h.history.order] at hsorted
  have haccepted : cb.responseCallback ∈ acceptedReplies s.log :=
    List.mem_filter.mpr ⟨hreplied, by simp [h.history.order, hout]⟩
  have hlt := (List.pairwise_append.mp (List.pairwise_append.mp hsorted).1).2.2
  exact lt_irrefl _ (hlt _ haccepted _ hout)

/-- Calls that are accepted behind the outstanding one change no reply. -/
theorem QueueInvariant.acceptedReplies_eq {s t : MCPServer σ} (hs : QueueInvariant s)
    (ht : QueueInvariant t) (queued : List MCPResponseCallback)
    (haccepted : acceptedCalls t.log = acceptedCalls s.log ++ queued)
    (houtstanding : t.outstanding = s.outstanding)
    (hqueue : t.queuedCalls = s.queuedCalls ++ queued) :
    acceptedReplies t.log = acceptedReplies s.log := by
  have horder := ht.history.order
  rw [haccepted, hs.history.order, hqueue, outstandingCalls, outstandingCalls,
    houtstanding] at horder
  simpa using horder.symm

/-- A callback that is run was the only one held. -/
theorem QueueInvariant.toolResult_cases {s t : MCPServer σ} {c : MCPResponseCallback}
    {content : ListValue} {isError : Bool} (h : QueueInvariant s)
    (hstep : step s (.toolResult c content isError) = some t) :
    ∃ cb, s.outstanding = [cb] ∧ cb.responseCallback = c ∧
      t = ({ s with outstanding := [] }.record (.completed c)).onToolCallComplete cb.id c content
        isError := by
  have hle := h.outstanding_le
  cases hout : s.outstanding with
  | nil => simp [step, hout] at hstep
  | cons cb rest =>
      have hrest : rest = [] := by
        apply List.length_eq_zero_iff.mp
        simp only [hout, List.length_cons] at hle
        omega
      subst hrest
      by_cases hc : cb.responseCallback = c
      · subst hc
        refine ⟨cb, rfl, rfl, ?_⟩
        simpa [step, hout] using hstep.symm
      · simp [step, hout, hc] at hstep

/-- `ExecuteNextToolCall` is only entered with no handler outstanding; it ends between steps. -/
theorem executeNextToolCall_queueInvariant {s : MCPServer σ}
    (h : CallHistory s.log [] s.queuedCalls s.initialized) (hidle : s.outstanding = []) :
    QueueInvariant s.executeNextToolCall := by
  apply executeNextToolCall_induction (P := fun s =>
    CallHistory s.log [] s.queuedCalls s.initialized ∧ s.outstanding = [])
  case hanswered =>
    rintro s call rest browser events answer ⟨h, hidle⟩ hq _ hevents
    simp only [queuedCalls, hq, List.map_cons] at h
    refine ⟨?_, hidle⟩
    rcases hevents with ⟨rfl, -⟩ | ⟨rfl, -⟩
    · simpa [answered, queuedCalls] using h.replyHead (some answer)
    · simpa [answered, queuedCalls] using h.invoke.complete (some answer)
  case hempty =>
    rintro s ⟨h, hidle⟩ hq
    refine ⟨?_, by simp [hidle], by simp [hidle], by simp⟩
    simpa [queuedCalls, hq, outstandingCalls, hidle] using h
  case hpending =>
    rintro s call rest browser ⟨h, hidle⟩ hq -
    simp only [queuedCalls, hq, List.map_cons] at h
    refine ⟨?_, by simp [keptPending, hidle], by simp [keptPending], by simp [keptPending]⟩
    simpa [keptPending, outstandingCalls, queuedCalls, hidle, PendingToolCall.resultCallback]
      using h.invoke
  case hs => exact ⟨h, hidle⟩

private theorem onMessage_queueInvariant {s : MCPServer σ} (message : DictValue)
    (h : QueueInvariant s) :
    QueueInvariant ((s.record (.received message)).onMessage message
      (receivedMessages s.log).length) := by
  have hreceived := h.history.received message
  have hlength : (receivedMessages s.log).length <
      (receivedMessages (s.log ++ [.received message])).length := by simp [receivedMessages]
  have haccepted : acceptedCalls (s.log ++ [.received message]) = acceptedCalls s.log := by
    simp [acceptedCalls]
  have hreplied : repliedCalls (s.log ++ [.received message]) = repliedCalls s.log := by
    simp [repliedCalls, sentReplies]
  rcases onMessage_cases message (receivedMessages s.log).length (s.record (.received message))
    with ⟨response, -, heq⟩ | ⟨call, hinit, -, -, hcall, heq⟩
  · rw [heq]
    have hfresh :
        (receivedMessages s.log).length ∉ acceptedCalls (s.log ++ [.received message]) := by
      rw [haccepted]
      exact fun hmem => lt_irrefl _ (h.history.accepted_lt _ hmem)
    exact ⟨(hreceived.openSession (by simp)).repliedAtOnce response hfresh hlength,
      h.outstanding_le, h.progress, h.busy⟩
  · rw [heq]
    simp only [record] at hinit
    rw [hinit] at hreceived
    have hlarge : ∀ c ∈ acceptedCalls (s.log ++ [.received message]),
        c < call.responseCallback := by
      rw [haccepted, hcall]
      exact h.history.accepted_lt
    have hreply : call.responseCallback ∉ repliedCalls (s.log ++ [.received message]) := by
      rw [hreplied, hcall]
      exact fun hmem => lt_irrefl _ (h.history.replied_lt _ hmem)
    have hqueued := hreceived.accepted hlarge hreply (hcall ▸ hlength)
    split
    · rename_i hprogress
      have hidle := h.idle (by simpa [record] using hprogress)
      refine executeNextToolCall_queueInvariant ?_ hidle
      simpa [enqueued, record, queuedCalls, hinit, outstandingCalls, hidle] using hqueued
    · rename_i hprogress
      have hbusy : s.toolCallInProgress = true := by simpa [record] using hprogress
      refine ⟨?_, h.outstanding_le, h.progress, fun _ => hbusy⟩
      simpa [enqueued, record, queuedCalls, hinit, outstandingCalls] using hqueued

/-- One step keeps the invariant. -/
theorem step_queueInvariant {s t : MCPServer σ} {input : Input σ} (h : QueueInvariant s)
    (hstep : step s input = some t) : QueueInvariant t := by
  cases input with
  | message m =>
      simp only [step, Option.some.injEq] at hstep
      exact hstep ▸ onMessage_queueInvariant m h
  | toolResult c content isError =>
      obtain ⟨cb, hone, rfl, rfl⟩ := h.toolResult_cases hstep
      have hhistory := h.history
      simp only [outstandingCalls, hone, List.map_cons, List.map_nil] at hhistory
      rw [onToolCallComplete]
      apply executeNextToolCall_queueInvariant
      · simpa [sendResult, record, queuedCalls] using hhistory.complete
          (some (resultResponse cb.id (toolCallResult content isError)))
      · simp [sendResult, record]
  | setController present =>
      simp only [step, Option.some.injEq] at hstep
      subst hstep
      exact ⟨h.history, h.outstanding_le, h.progress, h.busy⟩
  | browserChange browser =>
      simp only [step, Option.some.injEq] at hstep
      subst hstep
      exact ⟨h.history, h.outstanding_le, h.progress, h.busy⟩

theorem init_queueInvariant (tools : List (MCPToolDef σ)) (hasController : Bool) (browser : σ) :
    QueueInvariant (init tools hasController browser) :=
  ⟨CallHistory.start, by simp [init], by simp [init], by simp [init]⟩

theorem exec_queueInvariant {tools : List (MCPToolDef σ)} {hasController : Bool} {browser : σ}
    {inputs : List (Input σ)} {s : MCPServer σ}
    (h : Exec (Step step) (init tools hasController browser) inputs s) : QueueInvariant s :=
  h.invariant (fun _ _ _ hs hstep => step_queueInvariant hs hstep)
    (init_queueInvariant tools hasController browser)

/-- In every run: at every moment no more than one handler invocation is without its completion;
handlers are invoked, and accepted calls are answered, in the order of acceptance, the calls not
yet answered being the outstanding one and then the queue; between steps the flag is set exactly
when a handler holds its callback, and it is set while the queue is not empty; and no handler is
invoked before an opening message. -/
theorem toolQueue_discipline (tools : List (MCPToolDef σ)) (hasController : Bool) (browser : σ)
    (inputs : List (Input σ)) (s : MCPServer σ)
    (h : Exec (Step step) (init tools hasController browser) inputs s) :
    (Always OneInvocation s.log ∧ s.outstanding.length ≤ 1 ∧
      (invokedCalls s.log).length = (completedCalls s.log).length + s.outstanding.length) ∧
    ((acceptedCalls s.log).Pairwise (· < ·) ∧
      (invokedCalls s.log).Sublist (acceptedCalls s.log) ∧
      acceptedReplies s.log ++ s.outstandingCalls ++ s.queuedCalls = acceptedCalls s.log) ∧
    ((s.toolCallInProgress = true ↔ s.outstanding ≠ []) ∧
      (s.toolCallQueue ≠ [] → s.toolCallInProgress = true)) ∧
    Always InvokedAfterOpening s.log := by
  have hinv := exec_queueInvariant h
  have hhistory := hinv.history
  refine ⟨⟨hhistory.single, hinv.outstanding_le, ?_⟩, ⟨hhistory.sorted, ?_, hhistory.order.symm⟩,
    ⟨hinv.progress, hinv.busy⟩, hhistory.opening⟩
  · simpa [outstandingCalls] using hhistory.balance
  · rw [hhistory.order]
    exact hhistory.invoked.trans (List.sublist_append_left _ _)

/-- Two tools: `ping_tab` answers inside `handler.Run`, `load` keeps its callback. -/
def sampleTools : List (MCPToolDef Unit) :=
  [⟨"ping_tab", "", [], fun _ _ s => (s, some (textContent "pong", false))⟩,
    ⟨"load", "", [], fun _ _ s => (s, none)⟩]

def sampleCall (id : Int32) (tool : String) : DictValue :=
  [("id", .integer id), ("method", .string "tools/call"),
    ("params", .dict [("name", .string tool)])]

/-- Four calls are sent at once after the opening, and the pending one completes. -/
def sampleInputs : List (Input Unit) :=
  [.message [("method", .string "notifications/initialized")], .message (sampleCall 1 "load"),
    .message (sampleCall 2 "ping_tab"), .message (sampleCall 3 "missing"),
    .message (sampleCall 4 "load"), .toolResult 1 (textContent "loaded") false]

theorem toolQueue_discipline_sample :
    ∃ s, Exec (Step step) (init sampleTools true ()) sampleInputs s ∧
      acceptedReplies s.log ++ s.outstandingCalls ++ s.queuedCalls = acceptedCalls s.log ∧
      acceptedCalls s.log = [1, 2, 3, 4] ∧ s.outstandingCalls = [4] := by
  have hrun : Exec (Step step) (init sampleTools true ()) sampleInputs _ :=
    .cons rfl (.cons rfl (.cons rfl (.cons rfl (.cons rfl (.cons rfl (.nil _))))))
  exact ⟨_, hrun, (toolQueue_discipline _ _ _ _ _ hrun).2.1.2.2, rfl, rfl⟩

end MCPServer

end Browserd
