import Browserd.Core.WaiterSteps
import Browserd.MCP.QueueDiscipline
import Browserd.MCP.ToolRuns

/-!
# What one step does to the held callbacks

The callbacks that the tools hold are at every moment the one that the server waits for, and the
waiter that holds it has not been completed.
-/

namespace Browserd

/-- The call of the operation has not been answered by its waiter. -/
def Waiter.Unanswered : Waiter → Prop
  | .navigation w => w.Live
  | .reload w => w.callback = true

/-- It has not, and some event makes the waiter answer it. -/
def Waiter.Completable : Waiter → Prop
  | .navigation w => w.Live
  | .reload w => w.callback = true ∧ w.observing = true

theorem Waiter.Completable.unanswered {w : Waiter} (h : w.Completable) : w.Unanswered := by
  cases w with
  | navigation w => exact h
  | reload w => exact h.1

namespace Waiter

variable {w w' : Waiter}

theorem Unanswered.deliver {chromium : Chromium} {event : WaiterEvent} (h : w.Unanswered)
    (hdeliver : w.deliver chromium event = (w', none)) : w'.Unanswered := by
  cases w with
  | navigation w =>
      have houtcome := NavigationWaiter.deliver_live chromium h event
      simp only [Waiter.deliver, Prod.mk.injEq] at hdeliver
      obtain ⟨rfl, hstatus⟩ := hdeliver
      generalize w.deliver chromium event = result at houtcome hstatus
      cases houtcome with
      | failed w' status => cases hstatus
      | settled w' => cases hstatus
      | waits w' _ _ live => exact live
  | reload w =>
      have hcallback : w.callback = true := h
      simp only [Waiter.deliver, Prod.mk.injEq] at hdeliver
      obtain ⟨rfl, hstatus⟩ := hdeliver
      cases event with
      | didStopLoading page =>
          simp only [ReloadWaiter.deliver] at hstatus ⊢
          split
          · rename_i hobserving
            simp [hobserving, ReloadWaiter.didStopLoading, hcallback] at hstatus
          · exact hcallback
      | _ => exact hcallback

end Waiter

namespace Tools

variable {ρ : Type} [BrowserRuntime ρ]

/-- What running the handler of a tool does to the callbacks that the tools hold. -/
inductive HandlerEffect (callback : ToolResultCallback) (b : Browser ρ) :
    Browser ρ × Option ToolResult → Prop
  | answers (b' : Browser ρ) (result : ToolResult) (operations : b'.operations = b.operations)
      (otherCalls : b'.otherCalls = b.otherCalls) : HandlerEffect callback b (b', some result)
  | awaits (b' : Browser ρ) (op : PendingOperation) (callback_eq : op.callback = callback)
      (completable : op.waiter.Completable) (operations : b'.operations = b.operations ++ [op])
      (otherCalls : b'.otherCalls = b.otherCalls) : HandlerEffect callback b (b', none)
  | holds (b' : Browser ρ) (operations : b'.operations = b.operations)
      (otherCalls : b'.otherCalls = b.otherCalls ++ [callback]) :
      HandlerEffect callback b (b', none)

section Effects

variable (chromium : Chromium) (args : DictValue) (callback : ToolResultCallback) (b : Browser ρ)

private theorem await_effect {b b' : Browser ρ} (page : WebContents) {waiter : Waiter}
    (completion : ToolCompletion) (h : waiter.Completable)
    (hoperations : b'.operations = b.operations) (hcalls : b'.otherCalls = b.otherCalls) :
    HandlerEffect callback b (await callback page waiter completion b', none) :=
  .awaits _ ⟨callback, page.address, waiter, completion⟩ rfl h (by simp [await, hoperations])
    (by simp [await, hcalls])

private theorem handleNavigate_effect :
    HandlerEffect callback b (handleNavigate chromium args callback b) := by
  simp only [handleNavigate]
  cases args.findString "url" with
  | none => exact .answers _ _ rfl rfl
  | some url =>
      simp only [BrowserController.navigate]
      split
      · exact .answers _ _ rfl rfl
      · rename_i page waiter kept heq
        split at heq
        · cases heq
        split at heq
        · cases heq
        · cases heq
          exact await_effect callback page _ (NavigationWaiter.start_live _) rfl rfl

private theorem handleReload_effect :
    HandlerEffect callback b (handleReload args callback b) := by
  simp only [handleReload, BrowserController.reload]
  split
  · exact .answers _ _ rfl rfl
  · rename_i page waiter kept heq
    split at heq
    · cases heq
    · cases heq
      exact await_effect callback page _ ⟨rfl, rfl⟩ rfl rfl

private theorem handleNewTab_effect :
    HandlerEffect callback b (handleNewTab chromium args callback b) := by
  simp only [handleNewTab, BrowserController.createTab]
  split
  · exact .answers _ _ rfl rfl
  · rename_i page waiter kept heq
    split at heq
    · cases heq
    split at heq
    · cases heq
    split at heq
    · cases heq
    split at heq
    · cases heq
    · cases heq
      exact await_effect callback page _ (NavigationWaiter.start_live _) rfl rfl

private theorem handlePageTool_effect (tool : PageTool) :
    HandlerEffect callback b (handlePageTool tool args callback b) := by
  simp only [handlePageTool]
  split
  · exact .answers _ _ rfl rfl
  · exact .holds _ rfl rfl

/-- The tools that are not registered over the page. -/
theorem mem_registerTools {tool : MCPToolDef (Browser ρ)} (h : tool ∈ registerTools chromium) :
    tool ∈ navigationTools chromium ∨ tool ∈ tabTools chromium ∨
      ∃ pageTool : PageTool,
        pageTool.name ≠ "browser_close" ∧ registerPageTool pageTool = tool := by
  have hnames : ∀ pageTool ∈ snapshotTools ++ interactionTools ++ evaluateTools ++ waitTools ++
      cookieTools, pageTool.name ≠ "browser_close" := by
    decide
  simp only [registerTools, List.mem_append] at h
  rcases h with ((h | h) | h) | h
  · exact .inl h
  · obtain ⟨pageTool, hmem, rfl⟩ := List.mem_map.mp h
    exact .inr (.inr ⟨pageTool, hnames pageTool (List.mem_append_left _ hmem), rfl⟩)
  · exact .inr (.inl h)
  · obtain ⟨pageTool, hmem, rfl⟩ := List.mem_map.mp h
    exact .inr (.inr ⟨pageTool, hnames pageTool (List.mem_append_right _ hmem), rfl⟩)

/-- Every tool answers its call, leaves a waiter for it, or holds its callback. -/
theorem handler_effect {tool : MCPToolDef (Browser ρ)} (h : tool ∈ registerTools chromium) :
    HandlerEffect callback b (tool.handler args callback b) := by
  rcases mem_registerTools chromium h with h | h | ⟨pageTool, -, rfl⟩
  · simp only [navigationTools, List.mem_cons, List.not_mem_nil, or_false] at h
    rcases h with rfl | rfl | rfl | rfl
    · exact handleNavigate_effect chromium args callback b
    · exact .answers _ _ rfl rfl
    · exact .answers _ _ rfl rfl
    · exact handleReload_effect args callback b
  · simp only [tabTools, List.mem_cons, List.not_mem_nil, or_false] at h
    rcases h with rfl | rfl | rfl | rfl
    · exact .answers _ _ rfl rfl
    · exact handleNewTab_effect chromium args callback b
    · exact .answers _ _ rfl rfl
    · exact .answers _ _ rfl rfl
  · exact handlePageTool_effect args callback b pageTool

end Effects

end Tools

namespace Browser

variable {ρ : Type} [BrowserRuntime ρ] {b : Browser ρ} {op : PendingOperation}
  {cb : ToolResultCallback}

/-- A browser that holds one callback holds it for the one operation it has. -/
theorem held_operation (hheld : b.heldCallbacks = [cb]) (hop : op ∈ b.operations) :
    b.operations = [op] ∧ b.otherCalls = [] ∧ op.callback = cb := by
  unfold heldCallbacks at hheld
  cases hops : b.operations with
  | nil => simp [hops] at hop
  | cons op' rest =>
      rw [hops] at hheld hop
      simp only [List.map_cons, List.cons_append, List.cons.injEq, List.append_eq_nil_iff,
        List.map_eq_nil_iff] at hheld
      obtain ⟨rfl, rfl, hother⟩ := hheld
      obtain rfl := List.mem_singleton.mp hop
      exact ⟨rfl, hother, rfl⟩

/-- Or for the one call of a page tool. -/
theorem held_pageTool {cb' : ToolResultCallback} (hheld : b.heldCallbacks = [cb])
    (hmem : cb' ∈ b.otherCalls) : b.operations = [] ∧ b.otherCalls = [cb] ∧ cb' = cb := by
  cases hops : b.operations with
  | nil =>
      have hother : b.otherCalls = [cb] := by simpa [heldCallbacks, hops] using hheld
      rw [hother] at hmem
      exact ⟨rfl, hother, List.mem_singleton.mp hmem⟩
  | cons op rest =>
      have hop : op ∈ b.operations := by simp [hops]
      obtain ⟨-, hother, -⟩ := held_operation hheld hop
      simp [hother] at hmem

theorem held_completing (event : WaiterEvent) (hheld : b.heldCallbacks = [cb])
    (hop : op ∈ b.operations) : (b.completing op event).heldCallbacks = [] := by
  obtain ⟨hops, hother, -⟩ := held_operation hheld hop
  simp [heldCallbacks, completing, hops, hother]

theorem held_pageToolDone {cb' : ToolResultCallback} (hheld : b.heldCallbacks = [cb])
    (hmem : cb' ∈ b.otherCalls) : (b.pageToolDone cb'.responseCallback).heldCallbacks = [] := by
  obtain ⟨hops, hother, rfl⟩ := held_pageTool hheld hmem
  simp [heldCallbacks, pageToolDone, hops, hother]

@[simp] theorem held_setWaiter (callback : MCPResponseCallback) (waiter : Waiter) :
    (b.setWaiter callback waiter).heldCallbacks = b.heldCallbacks := by
  simp only [heldCallbacks, setWaiter, List.map_map]
  congr 1
  apply List.map_congr_left
  intro op hop
  simp only [Function.comp_apply]
  split <;> rfl

end Browser

namespace ToolServer

variable {ρ : Type} [BrowserRuntime ρ] {chromium : Chromium} {P : Waiter → Prop}
  {s t : ToolServer ρ}

/-- What holds between steps: the callbacks that the server waits for are those that the tools
hold, and the waiters that hold one satisfy `P`. -/
structure Invariant (chromium : Chromium) (P : Waiter → Prop) (s : ToolServer ρ) : Prop where
  tools : s.tools = Tools.registerTools chromium
  queue : MCPServer.QueueInvariant s
  held : s.browser.heldCallbacks = s.outstanding
  waiters : ∀ op ∈ s.browser.operations, P op.waiter

theorem queueInvariant_withBrowser (browser : Browser ρ) (h : MCPServer.QueueInvariant s) :
    MCPServer.QueueInvariant (s.withBrowser browser) :=
  @MCPServer.step_queueInvariant _ s _ (.browserChange browser) h rfl

/-- The server is between two calls: the tools hold no callback. -/
private structure Idle (chromium : Chromium) (s : ToolServer ρ) : Prop where
  tools : s.tools = Tools.registerTools chromium
  outstanding : s.outstanding = []
  held : s.browser.heldCallbacks = []

private theorem Idle.waiters (h : Idle chromium s) : s.browser.operations = [] := by
  have hheld := h.held
  simp only [Browser.heldCallbacks, List.append_eq_nil_iff, List.map_eq_nil_iff] at hheld
  exact hheld.1

private theorem HandlerRuns.effect {call : PendingToolCall} {browser : Browser ρ}
    {result : Option ToolResult} (htools : s.tools = Tools.registerTools chromium)
    (h : s.HandlerRuns call browser result) :
    Tools.HandlerEffect call.resultCallback s.browser (browser, result) := by
  obtain ⟨-, tool, hfind, hrun⟩ := h
  rw [← hrun]
  apply Tools.handler_effect chromium
  rw [← htools]
  exact List.mem_of_find?_eq_some hfind

private theorem executeNextToolCall_held (hP : ∀ w : Waiter, w.Completable → P w)
    (h : Idle chromium s) :
    s.executeNextToolCall.tools = Tools.registerTools chromium ∧
      s.executeNextToolCall.browser.heldCallbacks = s.executeNextToolCall.outstanding ∧
      ∀ op ∈ s.executeNextToolCall.browser.operations, P op.waiter := by
  apply MCPServer.executeNextToolCall_induction (P := Idle chromium)
    (Q := fun s => s.tools = Tools.registerTools chromium ∧
      s.browser.heldCallbacks = s.outstanding ∧ ∀ op ∈ s.browser.operations, P op.waiter)
  case hanswered =>
    intro s call rest browser events answer h _ _ hevents
    have hheld : browser.heldCallbacks = s.browser.heldCallbacks := by
      rcases hevents with ⟨-, rfl, -⟩ | ⟨-, result, hruns⟩
      · rfl
      · cases HandlerRuns.effect h.tools hruns with
        | answers _ _ hops hother => simp [Browser.heldCallbacks, hops, hother]
    exact ⟨h.tools, h.outstanding, hheld.trans h.held⟩
  case hempty =>
    intro s h _
    exact ⟨h.tools, h.held.trans h.outstanding.symm, by simp [h.waiters]⟩
  case hpending =>
    intro s call rest browser h _ hruns
    have hother : s.browser.otherCalls = [] := by
      have hheld := h.held
      simp only [Browser.heldCallbacks, List.append_eq_nil_iff] at hheld
      exact hheld.2
    refine ⟨h.tools, ?_, ?_⟩
    · cases HandlerRuns.effect h.tools hruns with
      | awaits _ op hcallback _ hops hcalls =>
          simp [Browser.heldCallbacks, MCPServer.keptPending, hops, hcalls, h.waiters, hother,
            h.outstanding, hcallback]
      | holds _ hops hcalls =>
          simp [Browser.heldCallbacks, MCPServer.keptPending, hops, hcalls, h.waiters, hother,
            h.outstanding]
    · cases HandlerRuns.effect h.tools hruns with
      | awaits _ op _ hwaiter hops _ => simp [MCPServer.keptPending, hops, h.waiters, hP _ hwaiter]
      | holds _ hops _ => simp [MCPServer.keptPending, hops, h.waiters]
  case hs => exact h

private theorem executeNextToolCall_replied {callback : MCPResponseCallback}
    (h : callback ∈ repliedCalls s.log) : callback ∈ repliedCalls s.executeNextToolCall.log := by
  have hmono (log events : List MCPEvent) (h : callback ∈ repliedCalls log) :
      callback ∈ repliedCalls (log ++ events) := by
    simp only [repliedCalls, sentReplies, List.filterMap_append, List.map_append] at h ⊢
    exact List.mem_append_left _ h
  apply MCPServer.executeNextToolCall_induction (P := fun s => callback ∈ repliedCalls s.log)
    (Q := fun s => callback ∈ repliedCalls s.log)
  case hanswered =>
    intro s call rest browser events answer h _ _ _
    simpa [MCPServer.answered] using hmono _ _ h
  case hempty => exact fun s h _ => h
  case hpending => exact fun s call rest browser h _ _ => hmono _ _ h
  case hs => exact h

/-- The callback of the outstanding call is run with a browser that holds no other. -/
private theorem toolResult_invariant (hP : ∀ w : Waiter, w.Completable → P w)
    (h : Invariant chromium P s) {cb : ToolResultCallback} (houtstanding : s.outstanding = [cb])
    {browser : Browser ρ} (hheld : browser.heldCallbacks = []) (content : ListValue)
    (isError : Bool) :
    ∃ t : ToolServer ρ, MCPServer.step (s.withBrowser browser)
        (.toolResult cb.responseCallback content isError) = some t ∧
      Invariant chromium P t ∧ cb.responseCallback ∈ repliedCalls t.log := by
  have hqueue := queueInvariant_withBrowser browser h.queue
  have hstep : MCPServer.step (s.withBrowser browser)
      (.toolResult cb.responseCallback content isError) =
        some (({ s.withBrowser browser with outstanding := [] }.record
          (.completed cb.responseCallback)).onToolCallComplete cb.id cb.responseCallback content
            isError) := by
    simp [MCPServer.step, withBrowser, houtstanding]
  obtain ⟨htools, hheld', hwaiters⟩ := executeNextToolCall_held hP
    (s := (({ s.withBrowser browser with outstanding := [] }.record
      (.completed cb.responseCallback)).sendResult cb.id
        (MCPServer.toolCallResult content isError) cb.responseCallback))
    ⟨h.tools, rfl, hheld⟩
  refine ⟨_, hstep, ⟨htools, MCPServer.step_queueInvariant hqueue hstep, hheld', hwaiters⟩, ?_⟩
  apply executeNextToolCall_replied
  simp [MCPServer.sendResult, MCPServer.record, repliedCalls, sentReplies]

/-- At most one call is outstanding, so a callback that a tool holds is its callback. -/
theorem Invariant.outstanding_eq (h : Invariant chromium P s) {cb : ToolResultCallback}
    (hcb : cb ∈ s.browser.heldCallbacks) : s.outstanding = [cb] := by
  have hle := h.queue.outstanding_le
  rw [h.held] at hcb
  cases hout : s.outstanding with
  | nil => simp [hout] at hcb
  | cons cb' rest =>
      rw [hout] at hcb hle
      have hrest : rest = [] := List.length_eq_zero_iff.mp (by simpa using hle)
      subst hrest
      rw [List.mem_singleton.mp hcb]

theorem Invariant.outstanding_operation (h : Invariant chromium P s) {op : PendingOperation}
    (hop : op ∈ s.browser.operations) : s.outstanding = [op.callback] :=
  h.outstanding_eq (List.mem_append_left _ (List.mem_map_of_mem hop))

theorem Invariant.withBrowser (h : Invariant chromium P s) {browser : Browser ρ}
    (hheld : browser.heldCallbacks = s.browser.heldCallbacks)
    (hwaiters : ∀ op ∈ browser.operations, P op.waiter) :
    Invariant chromium P (s.withBrowser browser) where
  tools := h.tools
  queue := queueInvariant_withBrowser browser h.queue
  held := hheld.trans h.held
  waiters := hwaiters

theorem Invariant.complete (hP : ∀ w : Waiter, w.Completable → P w) (h : Invariant chromium P s)
    {op : PendingOperation} (hop : op ∈ s.browser.operations) (event : WaiterEvent)
    (status : BrowserStatus) :
    ∃ t, s.complete op event status = some t ∧ Invariant chromium P t ∧
      op.callback.responseCallback ∈ repliedCalls t.log := by
  have houtstanding := h.outstanding_operation hop
  have hheld := Browser.held_completing event (h.held.trans houtstanding) hop
  obtain ⟨t, hstep, ht, hreplied⟩ := toolResult_invariant hP h houtstanding hheld
    (Tools.completionResult op.completion status s.browser.runtime).1
    (Tools.completionResult op.completion status s.browser.runtime).2
  refine ⟨t.returned, ?_, ht.withBrowser rfl ht.waiters, hreplied⟩
  simp [ToolServer.complete, hstep]

theorem Invariant.pageToolResult (hP : ∀ w : Waiter, w.Completable → P w)
    (h : Invariant chromium P s) {cb : ToolResultCallback} (hcb : cb ∈ s.browser.otherCalls)
    (content : ListValue) (isError : Bool) :
    ∃ t, step chromium s (.pageToolResult cb.responseCallback content isError) = some t ∧
      Invariant chromium P t ∧ cb.responseCallback ∈ repliedCalls t.log := by
  have houtstanding := h.outstanding_eq (List.mem_append_right _ hcb)
  have hheld := Browser.held_pageToolDone (h.held.trans houtstanding) hcb
  obtain ⟨t, hstep, ht, hreplied⟩ := toolResult_invariant hP h houtstanding hheld content isError
  have hany : (s.browser.otherCalls.any fun cb' =>
      cb'.responseCallback == cb.responseCallback) = true :=
    List.any_eq_true.mpr ⟨cb, hcb, by simp⟩
  exact ⟨t, by simp only [step, hany, if_true, hstep], ht, hreplied⟩

private theorem message_invariant (hP : ∀ w : Waiter, w.Completable → P w)
    (h : Invariant chromium P s) (message : DictValue)
    (hstep : MCPServer.step s (.message message) = some t) : Invariant chromium P t := by
  have hqueue := MCPServer.step_queueInvariant h.queue hstep
  simp only [MCPServer.step, Option.some.injEq] at hstep
  subst hstep
  rcases MCPServer.onMessage_cases message (receivedMessages s.log).length
    (s.record (.received message)) with ⟨response, -, heq⟩ | ⟨call, -, -, -, -, heq⟩
  · rw [heq] at hqueue ⊢
    exact ⟨h.tools, hqueue, h.held, h.waiters⟩
  · rw [heq] at hqueue ⊢
    split at hqueue
    · rename_i hprogress
      rw [if_pos hprogress]
      have hidle : s.outstanding = [] := h.queue.idle hprogress
      obtain ⟨htools, hheld, hwaiters⟩ := executeNextToolCall_held hP
        (s := (s.record (.received message)).enqueued call)
        ⟨h.tools, hidle, h.held.trans hidle⟩
      exact ⟨htools, hqueue, hheld, hwaiters⟩
    · rename_i hprogress
      rw [if_neg hprogress]
      exact ⟨h.tools, hqueue, h.held, h.waiters⟩

/-- One step keeps the invariant when the events that complete no waiter keep `P`. -/
theorem step_invariant (hP : ∀ w : Waiter, w.Completable → P w) (h : Invariant chromium P s)
    {input : ToolInput ρ} (hstep : step chromium s input = some t)
    (hdeliver : ∀ callback event op w, input = .waiterEvent callback event →
      s.browser.findOperation callback = some op → op.waiter.deliver chromium event = (w, none) →
        P op.waiter → P w) :
    Invariant chromium P t := by
  cases input with
  | message message => exact message_invariant hP h message hstep
  | setController present =>
      obtain rfl := (Option.some.inj hstep).symm
      have hqueue := @MCPServer.step_queueInvariant _ s _ (.setController present) h.queue rfl
      exact ⟨h.tools, hqueue, h.held, h.waiters⟩
  | environment runtime builder answersAtOnce =>
      obtain rfl := (Option.some.inj hstep).symm
      exact h.withBrowser rfl h.waiters
  | waiterEvent callback event =>
      obtain ⟨op, hfind, hop⟩ := Option.bind_eq_some_iff.mp hstep
      have hmem := List.mem_of_find?_eq_some hfind
      rw [deliver] at hop
      split at hop
      · rename_i w heq
        obtain rfl := (Option.some.inj hop).symm
        apply h.withBrowser (Browser.held_setWaiter _ _)
        intro op' hop'
        obtain ⟨op'', hop'', rfl⟩ := List.mem_map.mp hop'
        split
        · exact hdeliver callback event op w rfl hfind heq (h.waiters op hmem)
        · exact h.waiters op'' hop''
      · rename_i w status heq
        obtain ⟨t', hcomplete, ht, -⟩ := h.complete hP hmem event status
        obtain rfl := Option.some.inj (hcomplete.symm.trans hop)
        exact ht
  | pageToolResult callback content isError =>
      have hany : (s.browser.otherCalls.any fun cb => cb.responseCallback == callback) = true := by
        by_contra hnone
        simp [step, hnone] at hstep
      obtain ⟨cb, hcb, heq⟩ := List.any_eq_true.mp hany
      obtain rfl : cb.responseCallback = callback := by simpa using heq
      obtain ⟨t', hstep', ht, -⟩ := h.pageToolResult hP hcb content isError
      obtain rfl := Option.some.inj (hstep'.symm.trans hstep)
      exact ht

theorem step_unanswered (h : Invariant chromium Waiter.Unanswered s) {input : ToolInput ρ}
    (hstep : step chromium s input = some t) : Invariant chromium Waiter.Unanswered t :=
  step_invariant (fun _ hw => hw.unanswered) h hstep
    (fun _ _ _ _ _ _ hdeliver hop => hop.deliver hdeliver)

theorem start_invariant (P : Waiter → Prop) (chromium : Chromium) (hasController : Bool)
    (runtime : ρ) (builder : BrowserRuntime.Builder ρ)
    (answersAtOnce : String → DictValue → Option ToolResult) :
    Invariant chromium P (start chromium hasController runtime builder answersAtOnce) where
  tools := rfl
  queue := MCPServer.init_queueInvariant _ _ _
  held := rfl
  waiters := by simp [start, MCPServer.init, newBrowser]

end ToolServer

end Browserd
