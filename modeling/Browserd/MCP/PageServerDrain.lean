import Browserd.MCP.LostCompletion
import Browserd.MCP.PageServer
import Browserd.MCP.ReplyDiscipline

/-!
# Does every message get its reply?

The server with all its tools goes through the steps of the server that has its browser left open.
From any state that a run can come to, the answers of the browser alone make it reply to every
message, unless it waits for the reload of a tab that is gone, to which it never replies.
-/

namespace Browserd

open Transition (Exec Guarded Step)

namespace PageInput

variable {ρ : Type} [BrowserRuntime ρ] {κ : Type}

/-- What the browser tells an operation. -/
def isAnswer : PageInput ρ κ → Bool
  | .waiterEvent _ _ | .operation _ _ => true
  | _ => false

def messages : PageInput ρ κ → List DictValue
  | .message m => [m]
  | _ => []

theorem messages_of_isAnswer {inputs : List (PageInput ρ κ)}
    (h : ∀ input ∈ inputs, input.isAnswer = true) : inputs.flatMap messages = [] := by
  apply List.flatMap_eq_nil_iff.mpr
  intro input hinput
  have hanswer := h input hinput
  cases input with
  | message m => cases hanswer
  | _ => rfl

end PageInput

namespace PageServer

variable {ρ : Type} [BrowserRuntime ρ] {κ : Type} {chromium : PageChromium κ}
  {s t : PageServer ρ κ} {callback : ToolResultCallback}

theorem withBrowser_serves (browser : PageBrowser ρ κ) :
    Step MCPServer.step s (.browserChange browser) (s.withBrowser browser) := rfl

/-- A step is made of steps of the server that has its browser left open. -/
theorem step_serves {input : PageInput ρ κ} (hstep : step chromium s input = some t) :
    ∃ inputs, Exec (Step MCPServer.step) s inputs t ∧
      inputs.flatMap MCPServer.Input.messages = input.messages := by
  cases input with
  | message message => exact ⟨[.message message], .cons hstep (.nil t), rfl⟩
  | setController present => exact ⟨[.setController present], .cons hstep (.nil t), rfl⟩
  | environment runtime builder setting cookies =>
      obtain rfl := Option.some.inj hstep
      exact ⟨[.browserChange _], .cons (withBrowser_serves _) (.nil _), rfl⟩
  | waiterEvent callback event =>
      obtain ⟨op, -, hdeliver⟩ := Option.bind_eq_some_iff.mp hstep
      rw [deliverWaiter] at hdeliver
      split at hdeliver
      · obtain rfl := Option.some.inj hdeliver
        exact ⟨[.browserChange _], .cons (withBrowser_serves _) (.nil _), rfl⟩
      · obtain ⟨next, hreply, rfl⟩ := Option.map_eq_some_iff.mp hdeliver
        exact ⟨[.browserChange _, .toolResult _ _ _, .browserChange _],
          .cons (withBrowser_serves _) (.cons hreply (.cons (withBrowser_serves _) (.nil _))), rfl⟩
  | operation callback answer =>
      obtain ⟨op, -, hdeliver⟩ := Option.bind_eq_some_iff.mp hstep
      obtain ⟨⟨state, progress⟩, -, hcase⟩ := Option.bind_eq_some_iff.mp hdeliver
      cases progress with
      | completed result =>
          exact ⟨[.browserChange _, .toolResult _ _ _],
            .cons (withBrowser_serves _) (.cons hcase (.nil _)), rfl⟩
      | waits operation =>
          obtain rfl := Option.some.inj hcase
          exact ⟨[.browserChange _], .cons (withBrowser_serves _) (.nil _), rfl⟩

theorem run_serves {inputs : List (PageInput ρ κ)}
    (hrun : Exec (Step (step chromium)) s inputs t) :
    ∃ served, Exec (Step MCPServer.step) s served t ∧
      served.flatMap MCPServer.Input.messages = inputs.flatMap PageInput.messages := by
  induction hrun with
  | nil s => exact ⟨[], .nil s, rfl⟩
  | cons head _ ih =>
      obtain ⟨first, hfirst, hmessages⟩ := step_serves head
      obtain ⟨rest, hrest, hmessages'⟩ := ih
      refine ⟨first ++ rest, hfirst.append hrest, ?_⟩
      rw [List.flatMap_append, hmessages, hmessages', List.flatMap_cons]

/-- The call is that of a reload whose tab is gone. -/
def Orphaned (callback : ToolResultCallback) (s : PageServer ρ κ) : Prop :=
  ∃ op ∈ s.browser.tabs.operations, op.callback = callback ∧
    ∃ w, op.waiter = .reload w ∧ w.observing = false

theorem Orphaned.outstanding (h : Invariant chromium Waiter.Unanswered s)
    (horphan : Orphaned callback s) : s.outstanding = [callback] := by
  obtain ⟨op, hop, rfl, -⟩ := horphan
  exact (h.onlyWaiter hop).2.2

/-- Nothing reaches the waiter of an orphaned call. -/
theorem Orphaned.step (h : Invariant chromium Waiter.Unanswered s)
    (horphan : Orphaned callback s) {input : PageInput ρ κ}
    (hstep : step chromium s input = some t) : Orphaned callback t := by
  have hout := horphan.outstanding h
  obtain ⟨op, hop, hcallback, w, hwaiter, hobserving⟩ := horphan
  obtain ⟨honly, hpage, -⟩ := h.onlyWaiter hop
  cases input with
  | message message =>
      have hbrowser : t.browser = s.browser := h.queue.message_busy (by simp [hout]) hstep
      rw [Orphaned, hbrowser]
      exact ⟨op, hop, hcallback, w, hwaiter, hobserving⟩
  | setController present =>
      obtain rfl := Option.some.inj hstep
      exact ⟨op, hop, hcallback, w, hwaiter, hobserving⟩
  | environment runtime builder setting cookies =>
      obtain rfl := Option.some.inj hstep
      exact ⟨op, hop, hcallback, w, hwaiter, hobserving⟩
  | waiterEvent other event =>
      obtain ⟨found, hfind, hdeliver⟩ := Option.bind_eq_some_iff.mp hstep
      have hfound := List.mem_of_find?_eq_some hfind
      rw [honly] at hfound
      obtain rfl := List.mem_singleton.mp hfound
      obtain ⟨w', hobserving', hdeaf⟩ := ReloadWaiter.deliver_deaf hobserving event
      simp only [deliverWaiter, hwaiter, Waiter.deliver, hdeaf, Option.some.injEq] at hdeliver
      subst hdeliver
      refine ⟨{ found with waiter := .reload w' }, ?_, hcallback, w', rfl, hobserving'⟩
      simp [withTabs, withBrowser, Browser.setWaiter, honly]
  | operation other answer =>
      obtain ⟨found, hfind, -⟩ := Option.bind_eq_some_iff.mp hstep
      have hfound := List.mem_of_find?_eq_some hfind
      rw [hpage] at hfound
      cases hfound

/-- What is left to be done: the calls, and the answers that the operation of the first takes. -/
def work (s : PageServer ρ κ) : Nat × Nat :=
  (MCPServer.unanswered s, (s.browser.pageOperations.map fun op => op.operation.answersLeft).sum)

/-- Some answer of the browser does a part of it. -/
theorem Invariant.drain (h : Invariant chromium Waiter.Completable s) (hbusy : s.outstanding ≠ []) :
    ∃ input t, Guarded (Step (step chromium)) (fun _ input => input.isAnswer = true) s input t ∧
      Invariant chromium Waiter.Completable t ∧
      Prod.Lex (fun m n : Nat => m < n) (fun m n : Nat => m < n) (work t) (work s) := by
  obtain ⟨cb, rest, hcons⟩ := List.exists_cons_of_ne_nil hbusy
  have hcb : cb ∈ s.browser.heldCallbacks := by simp [h.held, hcons]
  simp only [PageBrowser.heldCallbacks, Browser.heldCallbacks, h.property.otherCalls,
    List.append_nil] at hcb
  rcases List.mem_append.mp hcb with hwaiter | hpage
  · obtain ⟨op, hop, rfl⟩ := List.mem_map.mp hwaiter
    obtain ⟨event, status, hdeliver⟩ := (h.property.waiters op hop).completes chromium.toChromium
      ⟨op.tab, "", .aboutBlank, false, false, false⟩
    obtain ⟨t, hcomplete, ht, hless⟩ := h.completeWaiter (fun _ hw => hw) hop event
      (Tools.completionResult op.completion status s.browser.tabs.runtime)
    refine ⟨.waiterEvent op.callback.responseCallback event, t, ⟨?_, rfl⟩, ht, .left _ _ hless⟩
    have hfind : s.browser.tabs.findOperation op.callback.responseCallback = some op := by
      simp [Browser.findOperation, (h.onlyWaiter hop).1]
    rw [Step, step, hfind, Option.bind_some, PageServer.deliverWaiter]
    cases hcases : op.waiter.deliver chromium.toChromium event with
    | mk w result =>
        rw [hcases] at hdeliver
        obtain rfl : result = some status := hdeliver
        exact hcomplete
  · obtain ⟨op, hop, rfl⟩ := List.mem_map.mp hpage
    obtain ⟨-, -, honly, -⟩ := h.only hop
    obtain ⟨answer, hawaits⟩ := (h.property.operations op hop).exists_awaited
    obtain ⟨t, hanswer, ht, hdone⟩ :=
      h.answer (fun _ hw => hw) hop (PageOperation.deliver_isSome hawaits)
    refine ⟨.operation op.callback.responseCallback answer, t, ⟨?_, rfl⟩, ht, ?_⟩
    · have hfind : s.browser.findPageOperation op.callback.responseCallback = some op := by
        simp [PageBrowser.findPageOperation, honly]
      rw [Step, step, hfind, Option.bind_some, hanswer]
    · rcases hdone with ⟨-, hless⟩ | ⟨operation, hset, hleft, hsame⟩
      · exact .left _ _ hless
      · rw [if_pos hawaits] at hleft
        rw [work, work, hsame]
        apply Prod.Lex.right
        simp only [hset, honly, List.map_cons, List.map_nil, List.sum_cons, List.sum_nil]
        omega

/-- The waiters of a server that waits for no tab that is gone. -/
theorem Invariant.completable (h : Invariant chromium Waiter.Unanswered s)
    (hnone : ∀ callback, ¬ Orphaned callback s) : Invariant chromium Waiter.Completable s where
  tools := h.tools
  queue := h.queue
  held := h.held
  property := by
    refine ⟨?_, h.property.operations, h.property.otherCalls⟩
    intro op hop
    have hunanswered := h.property.waiters op hop
    cases hwaiter : op.waiter with
    | navigation w =>
        rw [hwaiter] at hunanswered
        exact hunanswered
    | reload w =>
        rw [hwaiter] at hunanswered
        refine ⟨hunanswered, ?_⟩
        by_contra hobserving
        exact hnone op.callback ⟨op, hop, rfl, w, hwaiter, by simpa using hobserving⟩

end PageServer

/-- From any state that a run can come to: if no call is that of a reload whose tab is gone, there
are answers of the browser, and nothing else is needed, after which every message has its one
reply and no call waits; the call of a reload whose tab is gone has no reply after any run. -/
theorem pageServer_drains_iff {ρ : Type} [BrowserRuntime ρ] {κ : Type} (chromium : PageChromium κ)
    (hasController : Bool) (runtime : ρ) (builder : BrowserRuntime.Builder ρ)
    (setting : PageSetting) (cookies : κ) (mouse : BezierPoint) {inputs : List (PageInput ρ κ)}
    {s : PageServer ρ κ}
    (hrun : Exec (Step (PageServer.step chromium))
      (PageServer.start chromium hasController
        (PageServer.newBrowser runtime builder setting cookies mouse)) inputs s) :
    ((∀ callback, ¬ PageServer.Orphaned callback s) → ∃ answers t,
      Exec (Guarded (Step (PageServer.step chromium)) fun _ input => input.isAnswer = true) s
        answers t ∧
      t.toolCallQueue = [] ∧ t.outstanding = [] ∧
      (repliedCalls t.log).Perm (List.range (inputs.flatMap PageInput.messages).length)) ∧
    ∀ callback, PageServer.Orphaned callback s →
      ∀ later t, Exec (Step (PageServer.step chromium)) s later t →
        t.toolCallInProgress = true ∧ callback.responseCallback ∉ repliedCalls t.log := by
  have h : PageServer.Invariant chromium Waiter.Unanswered s :=
    hrun.invariant (fun _ _ _ hs hstep => PageServer.step_invariant hs hstep)
      (PageServer.start_invariant chromium hasController runtime builder setting cookies mouse)
  constructor
  · intro hnone
    have hwf : WellFounded (Prod.Lex (fun m n : Nat => m < n) (fun m n : Nat => m < n)) :=
      (Prod.lex Nat.lt_wfRel Nat.lt_wfRel).wf
    obtain ⟨answers, t, hdrains, ht, hidle⟩ := Exec.reaches hwf
      (I := PageServer.Invariant chromium Waiter.Completable) PageServer.work
      (fun _ hs hbusy => hs.drain hbusy) (h.completable hnone)
    have hqueue : t.toolCallQueue = [] := by
      by_contra hqueue
      exact ht.queue.progress.mp (ht.queue.busy hqueue) hidle
    refine ⟨answers, t, hdrains, hqueue, hidle, ?_⟩
    obtain ⟨served, hserved, hmessages⟩ :=
      PageServer.run_serves (hrun.append (hdrains.mono fun _ _ _ hstep => hstep.1))
    have hanswers : answers.flatMap PageInput.messages = [] :=
      PageInput.messages_of_isAnswer (hdrains.forall_labels fun _ _ _ hstep => hstep.2)
    have hreceived : receivedMessages t.log = inputs.flatMap PageInput.messages := by
      rw [MCPServer.exec_received hserved, hmessages, List.flatMap_append, hanswers,
        List.append_nil]
      rfl
    have hhistory := MCPServer.exec_replyHistory hserved
    have hconserved := hhistory.conserved
    simp only [MCPServer.pendingReplies, hqueue, hidle, List.map_nil, List.append_nil,
      hreceived] at hconserved
    exact hconserved.symm
  · intro callback horphan later t hlater
    obtain ⟨ht, horphan'⟩ := hlater.invariant
      (I := fun s => PageServer.Invariant chromium Waiter.Unanswered s ∧
        PageServer.Orphaned callback s)
      (fun _ _ _ hs hstep => ⟨PageServer.step_invariant hs.1 hstep, hs.2.step hs.1 hstep⟩)
      ⟨h, horphan⟩
    have hout := horphan'.outstanding ht
    exact ⟨ht.queue.progress.mpr (by simp [hout]), ht.queue.unreplied (by simp [hout])⟩

/-- A second call waits behind the script of the first. -/
def shopQueue : List (PageInput HeadlessRuntime (List CanonicalCookie)) :=
  shopEvaluation ++ [.message [("method", .string "tools/call"), ("id", .integer 2),
    ("params", .dict [("name", .string "browser_snapshot")])]]

def shopQueued : PageServer HeadlessRuntime (List CanonicalCookie) :=
  (shopQueue.foldlM (PageServer.step shopPageChromium) shopPageServer).getD shopPageServer

theorem pageServer_drains_sample :
    shopQueued.toolCallQueue.length = 1 ∧ ∃ answers t,
      Exec (Guarded (Step (PageServer.step shopPageChromium)) fun _ input => input.isAnswer = true)
        shopQueued answers t ∧
      (repliedCalls t.log).Perm (List.range 3) := by
  have hrun : Exec (Step (PageServer.step shopPageChromium)) shopPageServer shopQueue shopQueued :=
    .cons rfl (.cons rfl (.cons rfl (.nil _)))
  have hnone : ∀ callback, ¬ PageServer.Orphaned callback shopQueued := by
    rintro callback ⟨op, hop, -⟩
    cases hop
  obtain ⟨answers, t, hdrains, -, -, hreplied⟩ := (pageServer_drains_iff shopPageChromium true
    shopRuntime (fun _ => none) shopPageSetting [] ⟨0, 0⟩ hrun).1 hnone
  exact ⟨rfl, answers, t, hdrains, hreplied⟩

end Browserd
