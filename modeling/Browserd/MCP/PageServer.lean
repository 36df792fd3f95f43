import Browserd.MCP.PageTools

/-!
# Runs of the server with all its tools

The MCP server with every tool as it is, driven by messages, by the tabs and by what Chromium
answers to the operations of its tools. No call can be lost in an operation: the operations hold
the callbacks that the server waits for, and each needs no more than a known number of answers.
-/

namespace Browserd

open Transition (Exec Step)

inductive PageInput (ρ κ : Type) [BrowserRuntime ρ] where
  | message (message : DictValue)
  | setController (present : Bool)
  | environment (runtime : ρ) (builder : BrowserRuntime.Builder ρ) (setting : PageSetting)
      (cookies : κ)
  | waiterEvent (callback : MCPResponseCallback) (event : WaiterEvent)
  | operation (callback : MCPResponseCallback) (answer : PageAnswer)

namespace PageBrowser

variable {ρ : Type} [BrowserRuntime ρ] {κ : Type}

def heldCallbacks (b : PageBrowser ρ κ) : List ToolResultCallback :=
  b.tabs.heldCallbacks ++ b.pageOperations.map PendingPageOperation.callback

def findPageOperation (b : PageBrowser ρ κ) (callback : MCPResponseCallback) :
    Option PendingPageOperation :=
  b.pageOperations.find? fun op => op.callback.responseCallback == callback

def setPageOperation (callback : MCPResponseCallback) (operation : PageOperation)
    (b : PageBrowser ρ κ) : PageBrowser ρ κ :=
  { b with
    pageOperations := b.pageOperations.map fun op =>
      if op.callback.responseCallback == callback then { op with operation := operation } else op }

def pageOperationDone (callback : MCPResponseCallback) (b : PageBrowser ρ κ) : PageBrowser ρ κ :=
  { b with
    pageOperations := b.pageOperations.eraseP fun op => op.callback.responseCallback == callback }

/-- No operation has called back, and the waiters satisfy `W`. -/
structure Waiting (W : Waiter → Prop) (b : PageBrowser ρ κ) : Prop where
  waiters : ∀ op ∈ b.tabs.operations, W op.waiter
  operations : ∀ op ∈ b.pageOperations, op.operation.Pending
  otherCalls : b.tabs.otherCalls = []

end PageBrowser

abbrev PageServer (ρ κ : Type) [BrowserRuntime ρ] := MCPServer (PageBrowser ρ κ)

namespace PageServer

variable {ρ : Type} [BrowserRuntime ρ] {κ : Type}

def newBrowser (runtime : ρ) (builder : BrowserRuntime.Builder ρ) (setting : PageSetting)
    (cookies : κ) (mouse : BezierPoint) : PageBrowser ρ κ where
  setting := setting
  cookies := cookies
  mouse := mouse
  tabs := ToolServer.newBrowser runtime builder fun _ _ => none
  pageOperations := []

def start (chromium : PageChromium κ) (hasController : Bool) (browser : PageBrowser ρ κ) :
    PageServer ρ κ :=
  MCPServer.init (PageTools.registerTools chromium) hasController browser

def withBrowser (browser : PageBrowser ρ κ) (s : PageServer ρ κ) : PageServer ρ κ :=
  { s with browser := browser }

def withTabs (tabs : Browser ρ) (s : PageServer ρ κ) : PageServer ρ κ :=
  s.withBrowser { s.browser with tabs := tabs }

/-- The notification that was on the stack has returned. -/
def returned (s : PageServer ρ κ) : PageServer ρ κ :=
  s.withTabs { s.browser.tabs with notifying := none }

/-- The result of the call reaches the server while the callback is held no longer. -/
def reply (cb : ToolResultCallback) (result : ToolResult) (s : PageServer ρ κ) :
    Option (PageServer ρ κ) :=
  MCPServer.step s (.toolResult cb.responseCallback result.1 result.2)

def deliverWaiter (chromium : PageChromium κ) (op : PendingOperation) (event : WaiterEvent)
    (s : PageServer ρ κ) : Option (PageServer ρ κ) :=
  match op.waiter.deliver chromium.toChromium event with
  | (waiter, none) =>
      some (s.withTabs (s.browser.tabs.setWaiter op.callback.responseCallback waiter))
  | (_, some status) =>
      ((s.withTabs (s.browser.tabs.completing op event)).reply op.callback
        (Tools.completionResult op.completion status s.browser.tabs.runtime)).map returned

def deliverAnswer (chromium : PageChromium κ) (op : PendingPageOperation) (answer : PageAnswer)
    (s : PageServer ρ κ) : Option (PageServer ρ κ) :=
  (op.operation.deliver chromium s.browser.toPageState answer).bind fun
    | (state, .completed result) =>
        let browser := { s.browser with toPageState := state }
        (s.withBrowser (browser.pageOperationDone op.callback.responseCallback)).reply op.callback
          (op.completion.toolResult chromium result)
    | (state, .waits operation) =>
        let browser := { s.browser with toPageState := state }
        some (s.withBrowser (browser.setPageOperation op.callback.responseCallback operation))

def step (chromium : PageChromium κ) (s : PageServer ρ κ) :
    PageInput ρ κ → Option (PageServer ρ κ)
  | .message message => MCPServer.step s (.message message)
  | .setController present => MCPServer.step s (.setController present)
  | .environment runtime builder setting cookies =>
      some (s.withBrowser { s.browser with
        tabs := { s.browser.tabs with runtime := runtime, builder := builder }
        setting := setting
        cookies := cookies })
  | .waiterEvent callback event =>
      (s.browser.tabs.findOperation callback).bind fun op => s.deliverWaiter chromium op event
  | .operation callback answer =>
      (s.browser.findPageOperation callback).bind fun op => s.deliverAnswer chromium op answer

/-- What holds between steps. -/
abbrev Invariant (chromium : PageChromium κ) (W : Waiter → Prop) : PageServer ρ κ → Prop :=
  MCPServer.Hosts PageBrowser.heldCallbacks (PageBrowser.Waiting W)
    (PageTools.registerTools chromium)

end PageServer

section Handlers

variable {ρ : Type} [BrowserRuntime ρ] {κ : Type} {W : Waiter → Prop} {b : PageBrowser ρ κ}
  {callback : ToolResultCallback}

/-- What a handler makes of a browser in which nothing is held. -/
def PageBrowser.HandledFrom (W : Waiter → Prop) (callback : ToolResultCallback)
    (handled : PageBrowser ρ κ × Option ToolResult) : Prop :=
  handled.1.heldCallbacks = (if handled.2.isNone then [callback] else []) ∧ handled.1.Waiting W

namespace PageBrowser

theorem HandledFrom.answers (hheld : b.heldCallbacks = []) (hwaiting : b.Waiting W)
    (result : ToolResult) : HandledFrom W callback (b, some result) :=
  ⟨hheld, hwaiting⟩

theorem HandledFrom.holds (hheld : b.heldCallbacks = []) (hwaiting : b.Waiting W)
    {operation : PageOperation} (hpending : operation.Pending) (completion : PageCompletion) :
    HandledFrom W callback (PageTools.hold callback operation completion b, none) := by
  have hnone : b.tabs.heldCallbacks = [] ∧ b.pageOperations = [] := by
    simpa [heldCallbacks] using hheld
  refine ⟨?_, ?_, ?_, ?_⟩
  · simp [heldCallbacks, PageTools.hold, hnone]
  · exact hwaiting.waiters
  · simp [PageTools.hold, hnone, hpending]
  · exact hwaiting.otherCalls

end PageBrowser

namespace PageTools

open PageBrowser (HandledFrom)

variable (chromium : PageChromium κ)

theorem startCall_handled (hheld : b.heldCallbacks = []) (hwaiting : b.Waiting W) (call : PageCall)
    (completion : PageCompletion) :
    HandledFrom W callback (startCall chromium call completion callback b) := by
  have hproper := BrowserController.startCall_proper chromium b.tabs.runtime none b.toPageState call
  simp only [startCall]
  generalize BrowserController.startCall chromium b.tabs.runtime none b.toPageState call = started
    at hproper ⊢
  obtain ⟨state, progress⟩ := started
  have hheld' : ({ b with toPageState := state } : PageBrowser ρ κ).heldCallbacks = [] := hheld
  have hwaiting' : ({ b with toPageState := state } : PageBrowser ρ κ).Waiting W :=
    ⟨hwaiting.waiters, hwaiting.operations, hwaiting.otherCalls⟩
  cases hproper with
  | completed consistent => exact .answers hheld' hwaiting' _
  | waits pending => exact .holds hheld' hwaiting' pending completion

theorem handleCookieTool_handled (hheld : b.heldCallbacks = []) (hwaiting : b.Waiting W)
    (tool : CookieTool) (args : DictValue) :
    HandledFrom W callback (handleCookieTool chromium tool args callback b) := by
  simp only [handleCookieTool]
  split
  · exact .answers hheld hwaiting _
  · rename_i call hcall
    have hpending : call.operation.Pending := by cases call <;> trivial
    exact .holds hheld hwaiting hpending call.completion

/-- The tools of the tabs keep no callback but by a waiter. -/
theorem tabTool_otherCalls {tool : MCPToolDef (Browser ρ)}
    (htool : tool ∈ Tools.navigationTools chromium.toChromium ++
      Tools.tabTools chromium.toChromium)
    (args : DictValue) (callback : ToolResultCallback) (tabs : Browser ρ) :
    (tool.handler args callback tabs).1.otherCalls = tabs.otherCalls := by
  rcases List.mem_append.mp htool with h | h
  · simp only [Tools.navigationTools, List.mem_cons, List.not_mem_nil, or_false] at h
    rcases h with rfl | rfl | rfl | rfl
    · simp only [Tools.handleNavigate]
      split
      · rfl
      · split <;> rfl
    · rfl
    · rfl
    · simp only [Tools.handleReload]
      split <;> rfl
  · simp only [Tools.tabTools, List.mem_cons, List.not_mem_nil, or_false] at h
    rcases h with rfl | rfl | rfl | rfl
    · rfl
    · simp only [Tools.handleNewTab]
      split <;> rfl
    · rfl
    · rfl

/-- A tool of the tabs, seen from the larger state. -/
theorem onTabs_handled (hW : ∀ w : Waiter, w.Completable → W w) (hheld : b.heldCallbacks = [])
    (hwaiting : b.Waiting W) {tool : MCPToolDef (Browser ρ)}
    (htool : tool ∈ Tools.navigationTools chromium.toChromium ++
      Tools.tabTools chromium.toChromium) (args : DictValue) :
    HandledFrom W callback (onTabs (κ := κ) tool.handler args callback b) := by
  have hregistered : tool ∈ Tools.registerTools chromium.toChromium := by
    rcases List.mem_append.mp htool with h | h
    · exact List.mem_append_left _ (List.mem_append_left _ (List.mem_append_left _ h))
    · exact List.mem_append_left _ (List.mem_append_right _ h)
  have heffect := Tools.handler_effect chromium.toChromium args callback b.tabs hregistered
  have hother := tabTool_otherCalls chromium htool args callback b.tabs
  have hnone : b.tabs.heldCallbacks = [] ∧ b.pageOperations = [] := by
    simpa [PageBrowser.heldCallbacks] using hheld
  have htabs : b.tabs.operations = [] ∧ b.tabs.otherCalls = [] := by
    simpa [Browser.heldCallbacks] using hnone.1
  show HandledFrom W callback ({ b with tabs := (tool.handler args callback b.tabs).1 },
    (tool.handler args callback b.tabs).2)
  generalize tool.handler args callback b.tabs = handled at heffect hother
  cases heffect with
  | answers tabs result operations otherCalls =>
      refine ⟨?_, ?_, hwaiting.operations, otherCalls.trans htabs.2⟩
      · simp [PageBrowser.heldCallbacks, Browser.heldCallbacks, operations, otherCalls, htabs,
          hnone]
      · simp [operations, htabs]
  | awaits tabs op callback_eq completable operations otherCalls =>
      refine ⟨?_, ?_, hwaiting.operations, otherCalls.trans htabs.2⟩
      · simp [PageBrowser.heldCallbacks, Browser.heldCallbacks, operations, otherCalls, htabs,
          hnone, callback_eq]
      · simp [operations, htabs, hW _ completable]
  | holds tabs operations otherCalls => simp [otherCalls] at hother

theorem handler_mem_of_registerWith {tools : List Tools.PageTool}
    {handlers : List (ToolHandler (PageBrowser ρ κ))} {tool : MCPToolDef (PageBrowser ρ κ)}
    (h : tool ∈ registerWith tools handlers) : tool.handler ∈ handlers := by
  induction tools generalizing handlers with
  | nil => simp [registerWith] at h
  | cons pageTool tools ih =>
      cases handlers with
      | nil => simp [registerWith] at h
      | cons handler handlers =>
          rcases List.mem_cons.mp h with rfl | hrest
          · exact List.mem_cons_self
          · exact List.mem_cons_of_mem _ (ih hrest)

theorem pageHandlers_handled (hheld : b.heldCallbacks = []) (hwaiting : b.Waiting W)
    {handler : ToolHandler (PageBrowser ρ κ)} (h : handler ∈ pageHandlers chromium)
    (args : DictValue) : HandledFrom W callback (handler args callback b) := by
  have answers (result : ToolResult) : HandledFrom W callback (b, some result) :=
    .answers hheld hwaiting result
  have calls (call : PageCall) (completion : PageCompletion) :
      HandledFrom W callback (startCall chromium call completion callback b) :=
    startCall_handled chromium hheld hwaiting call completion
  simp only [pageHandlers, List.mem_cons, List.not_mem_nil, or_false] at h
  rcases h with rfl | rfl | rfl | rfl | rfl | rfl | rfl | rfl | rfl | rfl | rfl | rfl
  · exact calls _ _
  · exact calls _ _
  · rw [handleClick]
    split
    · exact answers _
    · exact calls _ _
  · rw [handleHover]
    split
    · exact answers _
    · exact calls _ _
  · rw [handleType]
    split
    · exact calls _ _
    · exact answers _
  · rw [handlePressKey]
    split
    · exact answers _
    · exact calls _ _
  · rw [handleSelectOption]
    split
    · exact calls _ _
    · exact answers _
  · rw [handleDragAndDrop]
    split
    · exact calls _ _
    · exact answers _
  · exact calls (.interact (.scroll (handleScroll args).1 (handleScroll args).2)) _
  · rw [handleEvaluate]
    split
    · exact answers _
    · exact calls _ _
  · exact calls _ _
  · rw [handleWait]
    split
    · exact answers _
    · exact calls _ _

theorem cookieHandlers_handled (hheld : b.heldCallbacks = []) (hwaiting : b.Waiting W)
    {handler : ToolHandler (PageBrowser ρ κ)} (h : handler ∈ cookieHandlers chromium)
    (args : DictValue) : HandledFrom W callback (handler args callback b) := by
  obtain ⟨tool, -, rfl⟩ := List.mem_map.mp h
  exact handleCookieTool_handled chromium hheld hwaiting tool args

/-- Every tool answers its call or holds its callback. -/
theorem registerTools_handlesOneCall (hW : ∀ w : Waiter, w.Completable → W w) :
    ∀ tool ∈ registerTools (ρ := ρ) chromium,
      MCPServer.HandlesOneCall PageBrowser.heldCallbacks (PageBrowser.Waiting W) tool := by
  intro tool htool args callback b hheld hwaiting
  show HandledFrom W callback (tool.handler args callback b)
  simp only [registerTools, List.mem_append] at htool
  rcases htool with ((h | h) | h) | h
  · obtain ⟨tabTool, hmem, rfl⟩ := List.mem_map.mp h
    exact onTabs_handled chromium hW hheld hwaiting (List.mem_append_left _ hmem) args
  · exact pageHandlers_handled chromium hheld hwaiting (handler_mem_of_registerWith h) args
  · obtain ⟨tabTool, hmem, rfl⟩ := List.mem_map.mp h
    exact onTabs_handled chromium hW hheld hwaiting (List.mem_append_right _ hmem) args
  · exact cookieHandlers_handled chromium hheld hwaiting (handler_mem_of_registerWith h) args

end PageTools

end Handlers

namespace PageServer

variable {ρ : Type} [BrowserRuntime ρ] {κ : Type} {chromium : PageChromium κ}
  {W : Waiter → Prop} {s t : PageServer ρ κ} {op : PendingPageOperation}

/-- A page operation is the only one that there is. -/
theorem Invariant.only (h : Invariant chromium W s) (hop : op ∈ s.browser.pageOperations) :
    s.browser.tabs.operations = [] ∧ s.browser.tabs.otherCalls = [] ∧
      s.browser.pageOperations = [op] ∧ s.outstanding = [op.callback] := by
  have hmem : op.callback ∈ s.browser.heldCallbacks :=
    List.mem_append_right _ (List.mem_map_of_mem hop)
  have hout := h.outstanding_eq hmem
  have hlength := congrArg List.length (h.held.trans hout)
  simp only [PageBrowser.heldCallbacks, Browser.heldCallbacks, List.length_append, List.length_map,
    List.length_cons, List.length_nil] at hlength
  have hpos : 0 < s.browser.pageOperations.length := List.length_pos_of_mem hop
  obtain ⟨only, honly⟩ : ∃ only, s.browser.pageOperations = [only] :=
    List.length_eq_one_iff.mp (by omega)
  rw [honly] at hop
  obtain rfl := List.mem_singleton.mp hop
  refine ⟨List.length_eq_zero_iff.mp (by omega), List.length_eq_zero_iff.mp (by omega), honly, hout⟩

/-- And so is an operation that waits for its tab to load. -/
theorem Invariant.onlyWaiter {op : PendingOperation} (h : Invariant chromium W s)
    (hop : op ∈ s.browser.tabs.operations) :
    s.browser.tabs.operations = [op] ∧ s.browser.pageOperations = [] ∧
      s.outstanding = [op.callback] := by
  have hmem : op.callback ∈ s.browser.heldCallbacks :=
    List.mem_append_left _ (List.mem_append_left _ (List.mem_map_of_mem hop))
  have hout := h.outstanding_eq hmem
  have hlength := congrArg List.length (h.held.trans hout)
  simp only [PageBrowser.heldCallbacks, Browser.heldCallbacks, List.length_append, List.length_map,
    List.length_cons, List.length_nil] at hlength
  have hpos : 0 < s.browser.tabs.operations.length := List.length_pos_of_mem hop
  obtain ⟨only, honly⟩ : ∃ only, s.browser.tabs.operations = [only] :=
    List.length_eq_one_iff.mp (by omega)
  rw [honly] at hop
  obtain rfl := List.mem_singleton.mp hop
  exact ⟨honly, List.length_eq_zero_iff.mp (by omega), hout⟩

theorem Invariant.reply {browser : PageBrowser ρ κ} {cb : ToolResultCallback}
    (hW : ∀ w : Waiter, w.Completable → W w) (h : Invariant chromium W s)
    (hcb : cb ∈ s.browser.heldCallbacks) (hheld : browser.heldCallbacks = [])
    (hwaiting : browser.Waiting W) (result : ToolResult) :
    ∃ t : PageServer ρ κ, (s.withBrowser browser).reply cb result = some t ∧
      Invariant chromium W t ∧ cb.responseCallback ∈ repliedCalls t.log ∧
        MCPServer.unanswered t < MCPServer.unanswered s :=
  h.toolResult (PageTools.registerTools_handlesOneCall chromium hW) hcb hheld hwaiting result.1
    result.2

/-- What an answer that a page operation takes does. -/
theorem Invariant.answer (hW : ∀ w : Waiter, w.Completable → W w) (h : Invariant chromium W s)
    (hop : op ∈ s.browser.pageOperations) {answer : PageAnswer}
    (hdelivers : (op.operation.deliver chromium s.browser.toPageState answer).isSome) :
    ∃ t, s.deliverAnswer chromium op answer = some t ∧ Invariant chromium W t ∧
      (op.callback.responseCallback ∈ repliedCalls t.log ∧
          MCPServer.unanswered t < MCPServer.unanswered s ∨
        ∃ operation, t.browser.pageOperations = [{ op with operation := operation }] ∧
          operation.answersLeft + (if op.operation.awaits answer then 1 else 0) ≤
            op.operation.answersLeft ∧
          MCPServer.unanswered t = MCPServer.unanswered s) := by
  obtain ⟨hops, hother, honly, hout⟩ := h.only hop
  obtain ⟨⟨state, progress⟩, hdelivered⟩ := Option.isSome_iff_exists.mp hdelivers
  rw [PageServer.deliverAnswer, hdelivered, Option.bind_some]
  let browser : PageBrowser ρ κ := { s.browser with toPageState := state }
  cases progress with
  | completed result =>
      have hheld : (browser.pageOperationDone op.callback.responseCallback).heldCallbacks = [] := by
        simp [browser, PageBrowser.heldCallbacks, PageBrowser.pageOperationDone,
          Browser.heldCallbacks, hops, hother, honly]
      have hwaiting : (browser.pageOperationDone op.callback.responseCallback).Waiting W :=
        ⟨h.property.waiters, by simp [browser, PageBrowser.pageOperationDone, honly], hother⟩
      have hmem : op.callback ∈ s.browser.heldCallbacks :=
        List.mem_append_right _ (List.mem_map_of_mem hop)
      obtain ⟨t, hreply, ht, hreplied⟩ := h.reply hW hmem hheld hwaiting
        (op.completion.toolResult chromium result)
      exact ⟨t, hreply, ht, .inl hreplied⟩
  | waits operation =>
      obtain ⟨hpending, hleft⟩ :=
        PageOperation.deliver_waits (h.property.operations op hop) hdelivered
      have hset : (browser.setPageOperation op.callback.responseCallback operation).pageOperations =
          [{ op with operation := operation }] := by
        simp [browser, PageBrowser.setPageOperation, honly]
      refine ⟨_, rfl, h.browserChange ?_ ⟨h.property.waiters, ?_, hother⟩,
        .inr ⟨operation, hset, hleft, rfl⟩⟩
      · rw [PageBrowser.heldCallbacks, PageBrowser.heldCallbacks, hset, honly]
        rfl
      · rw [hset]
        simpa using hpending

theorem Invariant.deliverAnswer (hW : ∀ w : Waiter, w.Completable → W w)
    (h : Invariant chromium W s) (hop : op ∈ s.browser.pageOperations) {answer : PageAnswer}
    (hstep : s.deliverAnswer chromium op answer = some t) :
    Invariant chromium W t ∧
      (op.callback.responseCallback ∈ repliedCalls t.log ∨
        ∃ operation, { op with operation := operation } ∈ t.browser.pageOperations ∧
          operation.answersLeft + (if op.operation.awaits answer then 1 else 0) ≤
            op.operation.answersLeft) := by
  obtain ⟨delivered, hdelivered, -⟩ := Option.bind_eq_some_iff.mp hstep
  obtain ⟨t', hstep', ht, hanswered⟩ :=
    h.answer hW hop (Option.isSome_iff_exists.mpr ⟨delivered, hdelivered⟩)
  obtain rfl := Option.some.inj (hstep'.symm.trans hstep)
  rcases hanswered with ⟨hreplied, -⟩ | ⟨operation, hset, hleft, -⟩
  · exact ⟨ht, .inl hreplied⟩
  · refine ⟨ht, .inr ⟨operation, ?_, hleft⟩⟩
    rw [hset]
    exact List.mem_singleton_self _

/-- A waiter that has been answered hands the status to its tool. -/
theorem Invariant.completeWaiter {op : PendingOperation}
    (hW : ∀ w : Waiter, w.Completable → W w) (h : Invariant chromium W s)
    (hop : op ∈ s.browser.tabs.operations) (event : WaiterEvent) (result : ToolResult) :
    ∃ t, ((s.withTabs (s.browser.tabs.completing op event)).reply op.callback result).map returned =
        some t ∧
      Invariant chromium W t ∧ MCPServer.unanswered t < MCPServer.unanswered s := by
  obtain ⟨honly, hpage, hout⟩ := h.onlyWaiter hop
  have hother := h.property.otherCalls
  have hmem : op.callback ∈ s.browser.heldCallbacks :=
    List.mem_append_left _ (List.mem_append_left _ (List.mem_map_of_mem hop))
  have hnone : ({ s.browser with tabs := s.browser.tabs.completing op event } :
      PageBrowser ρ κ).heldCallbacks = [] := by
    simp [PageBrowser.heldCallbacks, Browser.heldCallbacks, Browser.completing, honly, hother,
      hpage]
  have hwaiting : ({ s.browser with tabs := s.browser.tabs.completing op event } :
      PageBrowser ρ κ).Waiting W :=
    ⟨by simp [Browser.completing, honly], by simp [hpage], hother⟩
  obtain ⟨u, hreply, hu, -, hless⟩ := h.reply hW hmem hnone hwaiting result
  refine ⟨returned u, ?_, hu.browserChange rfl ?_, hless⟩
  · exact Option.map_eq_some_iff.mpr ⟨u, hreply, rfl⟩
  · exact ⟨hu.property.waiters, hu.property.operations, hu.property.otherCalls⟩

theorem Invariant.deliverWaiter {op : PendingOperation} (hW : ∀ w : Waiter, w.Completable → W w)
    (h : Invariant chromium W s) (hop : op ∈ s.browser.tabs.operations) {event : WaiterEvent}
    (hkeeps : ∀ w, op.waiter.deliver chromium.toChromium event = (w, none) → W w)
    (hstep : s.deliverWaiter chromium op event = some t) : Invariant chromium W t := by
  rw [PageServer.deliverWaiter] at hstep
  split at hstep
  · rename_i waiter hdeliver
    obtain rfl := (Option.some.inj hstep).symm
    apply h.browserChange
    · simp [PageBrowser.heldCallbacks]
    · refine ⟨?_, h.property.operations, h.property.otherCalls⟩
      intro op' hop'
      obtain ⟨op'', hop'', rfl⟩ := List.mem_map.mp hop'
      split
      · exact hkeeps waiter hdeliver
      · exact h.property.waiters op'' hop''
  · rename_i waiter status hdeliver
    obtain ⟨t', hstep', ht, -⟩ := h.completeWaiter hW hop event
      (Tools.completionResult op.completion status s.browser.tabs.runtime)
    obtain rfl := Option.some.inj (hstep'.symm.trans hstep)
    exact ht

theorem step_invariant (h : Invariant chromium Waiter.Unanswered s) {input : PageInput ρ κ}
    (hstep : step chromium s input = some t) : Invariant chromium Waiter.Unanswered t := by
  have hW (w : Waiter) (hw : w.Completable) : w.Unanswered := hw.unanswered
  cases input with
  | message message =>
      exact h.message (PageTools.registerTools_handlesOneCall chromium hW) message hstep
  | setController present => exact h.setController present hstep
  | environment runtime builder setting cookies =>
      obtain rfl := (Option.some.inj hstep).symm
      exact h.browserChange rfl
        ⟨h.property.waiters, h.property.operations, h.property.otherCalls⟩
  | waiterEvent callback event =>
      obtain ⟨op, hfind, hdeliver⟩ := Option.bind_eq_some_iff.mp hstep
      have hop := List.mem_of_find?_eq_some hfind
      exact h.deliverWaiter hW hop (fun w hw => (h.property.waiters op hop).deliver hw) hdeliver
  | operation callback answer =>
      obtain ⟨op, hfind, hdeliver⟩ := Option.bind_eq_some_iff.mp hstep
      exact (h.deliverAnswer hW (List.mem_of_find?_eq_some hfind) hdeliver).1

theorem step_keepsReplies {callback : MCPResponseCallback} {input : PageInput ρ κ}
    (h : callback ∈ repliedCalls s.log) (hstep : step chromium s input = some t) :
    callback ∈ repliedCalls t.log := by
  cases input with
  | message message =>
      have hserver : MCPServer.step s (.message message) = some t := hstep
      exact MCPServer.step_keepsReplies h hserver
  | setController present =>
      have hserver : MCPServer.step s (.setController present) = some t := hstep
      exact MCPServer.step_keepsReplies h hserver
  | environment runtime builder setting cookies =>
      obtain rfl := (Option.some.inj hstep).symm
      exact h
  | waiterEvent c event =>
      obtain ⟨op, -, hdeliver⟩ := Option.bind_eq_some_iff.mp hstep
      rw [PageServer.deliverWaiter] at hdeliver
      split at hdeliver
      · obtain rfl := (Option.some.inj hdeliver).symm
        exact h
      · obtain ⟨u, hreply, rfl⟩ := Option.map_eq_some_iff.mp hdeliver
        show callback ∈ repliedCalls u.log
        refine MCPServer.step_keepsReplies ?_ hreply
        exact h
  | operation c answer =>
      obtain ⟨op, -, hdeliver⟩ := Option.bind_eq_some_iff.mp hstep
      obtain ⟨⟨browser, delivery⟩, -, hcase⟩ := Option.bind_eq_some_iff.mp hdeliver
      cases delivery with
      | completed result =>
          refine MCPServer.step_keepsReplies ?_ hcase
          exact h
      | waits operation =>
          obtain rfl := (Option.some.inj hcase).symm
          exact h

/-- The input is an answer that the operation of the call waits for. -/
def awaited (callback : MCPResponseCallback) (s : PageServer ρ κ) : PageInput ρ κ → Bool
  | .operation c answer =>
      c == callback &&
        (s.browser.findPageOperation c).any fun op => op.operation.awaits answer
  | _ => false

/-- How many of the inputs are answers that the operation of the call waits for. -/
def answers (chromium : PageChromium κ) (callback : MCPResponseCallback) (s : PageServer ρ κ) :
    List (PageInput ρ κ) → Nat
  | [] => 0
  | input :: later =>
      (if s.awaited callback input then 1 else 0) +
        match s.step chromium input with
        | some t => t.answers chromium callback later
        | none => 0

/-- While an operation waits, every step replies to its call or leaves it waiting, for fewer
answers if it was one of them. -/
theorem step_waits (h : Invariant chromium Waiter.Unanswered s)
    (hop : op ∈ s.browser.pageOperations) {input : PageInput ρ κ}
    (hstep : step chromium s input = some t) :
    op.callback.responseCallback ∈ repliedCalls t.log ∨
      ∃ operation, { op with operation := operation } ∈ t.browser.pageOperations ∧
        operation.answersLeft + (if s.awaited op.callback.responseCallback input then 1 else 0) ≤
          op.operation.answersLeft := by
  obtain ⟨hops, hother, honly, hout⟩ := h.only hop
  cases input with
  | message message =>
      have hbrowser : t.browser = s.browser :=
        h.queue.message_busy (by simp [hout]) hstep
      exact .inr ⟨op.operation, hbrowser ▸ hop, Nat.le_refl _⟩
  | setController present =>
      obtain rfl := (Option.some.inj hstep).symm
      exact .inr ⟨op.operation, hop, Nat.le_refl _⟩
  | environment runtime builder setting cookies =>
      obtain rfl := (Option.some.inj hstep).symm
      exact .inr ⟨op.operation, hop, Nat.le_refl _⟩
  | waiterEvent callback event =>
      obtain ⟨waiting, hfind, -⟩ := Option.bind_eq_some_iff.mp hstep
      have hmem := List.mem_of_find?_eq_some hfind
      simp [hops] at hmem
  | operation callback answer =>
      obtain ⟨found, hfind, hdeliver⟩ := Option.bind_eq_some_iff.mp hstep
      have hmem := List.mem_of_find?_eq_some hfind
      rw [honly] at hmem
      obtain rfl := List.mem_singleton.mp hmem
      have hcallback : found.callback.responseCallback = callback := by
        simpa using List.find?_some hfind
      have hawaited : s.awaited found.callback.responseCallback (.operation callback answer) =
          found.operation.awaits answer := by
        simp only [awaited, hfind, hcallback, beq_self_eq_true, Bool.true_and, Option.any_some]
      rw [hawaited]
      exact (h.deliverAnswer (fun _ hw => hw.unanswered) hop hdeliver).2

/-- A run replies to the call, or leaves its operation waiting for fewer answers by those that it
had. -/
theorem run_waits {inputs : List (PageInput ρ κ)} (h : Invariant chromium Waiter.Unanswered s)
    (hop : op ∈ s.browser.pageOperations) (hrun : Exec (Step (step chromium)) s inputs t) :
    op.callback.responseCallback ∈ repliedCalls t.log ∨
      ∃ operation, { op with operation := operation } ∈ t.browser.pageOperations ∧
        operation.answersLeft + s.answers chromium op.callback.responseCallback inputs ≤
          op.operation.answersLeft := by
  have hkeeps {s t : PageServer ρ κ} {inputs : List (PageInput ρ κ)}
      {callback : MCPResponseCallback} (hrun : Exec (Step (step chromium)) s inputs t)
      (hreplied : callback ∈ repliedCalls s.log) : callback ∈ repliedCalls t.log :=
    hrun.invariant (I := fun s => callback ∈ repliedCalls s.log)
      (fun _ _ _ hs hstep => step_keepsReplies hs hstep) hreplied
  induction hrun generalizing op with
  | nil s => exact .inr ⟨op.operation, hop, Nat.le_refl _⟩
  | @cons s next t input inputs head tail ih =>
      rcases step_waits h hop head with hreplied | ⟨operation, hnext, hleft⟩
      · exact .inl (hkeeps tail hreplied)
      · rcases ih (step_invariant h head) hnext with hreplied | ⟨operation', hlast, hleft'⟩
        · exact .inl hreplied
        · refine .inr ⟨operation', hlast, ?_⟩
          have hstep : step chromium s input = some next := head
          rw [answers, hstep]
          dsimp only at hleft' ⊢
          omega

theorem start_invariant (chromium : PageChromium κ) (hasController : Bool) (runtime : ρ)
    (builder : BrowserRuntime.Builder ρ) (setting : PageSetting) (cookies : κ)
    (mouse : BezierPoint) :
    Invariant chromium W
      (start chromium hasController (newBrowser runtime builder setting cookies mouse)) := by
  apply MCPServer.init_hosts hasController rfl
  exact ⟨by simp [newBrowser, ToolServer.newBrowser], by simp [newBrowser], rfl⟩

/-- The server can take what an operation waits for. -/
theorem Invariant.accepts (h : Invariant chromium Waiter.Unanswered s)
    (hop : op ∈ s.browser.pageOperations) {answer : PageAnswer}
    (hawaits : op.operation.awaits answer = true) :
    (step chromium s (.operation op.callback.responseCallback answer)).isSome = true := by
  obtain ⟨-, -, honly, -⟩ := h.only hop
  have hfind : s.browser.findPageOperation op.callback.responseCallback = some op := by
    simp [PageBrowser.findPageOperation, honly]
  obtain ⟨t, hstep, -⟩ :=
    h.answer (fun _ hw => hw.unanswered) hop (PageOperation.deliver_isSome hawaits)
  simp [step, hfind, hstep]

end PageServer

/-- In every run of the server with all its tools, the callbacks that the tools hold are exactly
those that it waits for, no more than one; a call is in progress, or queued, only while one is
held; and the operation that holds it has not called back. -/
theorem pageServer_holdsOutstanding {ρ : Type} [BrowserRuntime ρ] {κ : Type}
    (chromium : PageChromium κ) (hasController : Bool) (runtime : ρ)
    (builder : BrowserRuntime.Builder ρ) (setting : PageSetting) (cookies : κ)
    (mouse : BezierPoint) {inputs : List (PageInput ρ κ)} {s : PageServer ρ κ}
    (hrun : Exec (Step (PageServer.step chromium))
      (PageServer.start chromium hasController
        (PageServer.newBrowser runtime builder setting cookies mouse)) inputs s) :
    s.browser.heldCallbacks = s.outstanding ∧ s.browser.heldCallbacks.length ≤ 1 ∧
      (s.toolCallInProgress = true ↔ s.browser.heldCallbacks ≠ []) ∧
      (s.toolCallQueue ≠ [] → s.browser.heldCallbacks ≠ []) ∧
      s.browser.Waiting Waiter.Unanswered := by
  have h : PageServer.Invariant chromium Waiter.Unanswered s :=
    hrun.invariant (fun _ _ _ hs hstep => PageServer.step_invariant hs hstep)
      (PageServer.start_invariant chromium hasController runtime builder setting cookies mouse)
  refine ⟨h.held, ?_, ?_, ?_, h.property⟩
  · rw [h.held]
    exact h.queue.outstanding_le
  · rw [h.held]
    exact h.queue.progress
  · intro hqueue
    rw [h.held]
    exact h.queue.progress.mp (h.queue.busy hqueue)

/-- A call whose operation waits in a tab can always be answered, and has been replied to once its
operation has had as many of the answers that it waits for as it takes at the most, whatever
happens between them. -/
theorem pageServer_repliesInTime {ρ : Type} [BrowserRuntime ρ] {κ : Type}
    (chromium : PageChromium κ) (hasController : Bool) (runtime : ρ)
    (builder : BrowserRuntime.Builder ρ) (setting : PageSetting) (cookies : κ)
    (mouse : BezierPoint) {inputs : List (PageInput ρ κ)} {s : PageServer ρ κ}
    (hrun : Exec (Step (PageServer.step chromium))
      (PageServer.start chromium hasController
        (PageServer.newBrowser runtime builder setting cookies mouse)) inputs s)
    {op : PendingPageOperation} (hop : op ∈ s.browser.pageOperations) :
    (∃ answer t, op.operation.awaits answer = true ∧
        s.step chromium (.operation op.callback.responseCallback answer) = some t) ∧
      ∀ later t, Exec (Step (PageServer.step chromium)) s later t →
        op.operation.answersLeft ≤ s.answers chromium op.callback.responseCallback later →
        op.callback.responseCallback ∈ repliedCalls t.log := by
  have h : PageServer.Invariant chromium Waiter.Unanswered s :=
    hrun.invariant (fun _ _ _ hs hstep => PageServer.step_invariant hs hstep)
      (PageServer.start_invariant chromium hasController runtime builder setting cookies mouse)
  constructor
  · obtain ⟨answer, hawaits⟩ := (h.property.operations op hop).exists_awaited
    obtain ⟨t, hstep⟩ := Option.isSome_iff_exists.mp (h.accepts hop hawaits)
    exact ⟨answer, t, hawaits, hstep⟩
  · intro later t hlater hcount
    have ht : PageServer.Invariant chromium Waiter.Unanswered t :=
      hlater.invariant (fun _ _ _ hs hstep => PageServer.step_invariant hs hstep) h
    rcases PageServer.run_waits h hop hlater with hreplied | ⟨operation, hmem, hleft⟩
    · exact hreplied
    · have hpos := (ht.property.operations _ hmem).answersLeft_pos
      dsimp only at hpos
      omega

/-- A server with one tab, in which a script is evaluated. -/
def shopPageChromium : PageChromium (List CanonicalCookie) where
  toChromium := shopChromium
  cookieManager := shopCookies
  base64Encode _ := ""

def shopPageSetting : PageSetting where
  views _ := ⟨true, true, true, true⟩
  random := ⟨fun _ => 0, ⟨0, by decide⟩⟩
  hasBrowserContext := true
  now := 0

def shopPageServer : PageServer HeadlessRuntime (List CanonicalCookie) :=
  PageServer.start shopPageChromium true
    (PageServer.newBrowser shopRuntime (fun _ => none) shopPageSetting [] ⟨0, 0⟩)

def shopEvaluation : List (PageInput HeadlessRuntime (List CanonicalCookie)) :=
  [.message [("method", .string "notifications/initialized")],
    .message [("method", .string "tools/call"), ("id", .integer 1),
      ("params", .dict [("name", .string "browser_console_messages")])]]

theorem pageServer_holdsOutstanding_sample :
    ∃ s : PageServer HeadlessRuntime (List CanonicalCookie),
      Exec (Step (PageServer.step shopPageChromium)) shopPageServer shopEvaluation s ∧
        s.toolCallInProgress = true ∧ s.browser.heldCallbacks ≠ [] := by
  have hrun : Exec (Step (PageServer.step shopPageChromium)) shopPageServer shopEvaluation _ :=
    .cons rfl (.cons rfl (.nil _))
  obtain ⟨-, -, hprogress, -⟩ := pageServer_holdsOutstanding shopPageChromium true shopRuntime
    (fun _ => none) shopPageSetting [] ⟨0, 0⟩ hrun
  exact ⟨_, hrun, rfl, hprogress.mp rfl⟩

def shopWaiting : PageServer HeadlessRuntime (List CanonicalCookie) :=
  (shopEvaluation.foldlM (PageServer.step shopPageChromium) shopPageServer).getD shopPageServer

def shopAnswer : PageInput HeadlessRuntime (List CanonicalCookie) :=
  .operation 1 (.evaluated (.result true (.string "[]")))

def shopAnswered : PageServer HeadlessRuntime (List CanonicalCookie) :=
  (shopWaiting.step shopPageChromium shopAnswer).getD shopWaiting

/-- The answer of the script is all that the call waits for. -/
theorem pageServer_repliesInTime_sample :
    Exec (Step (PageServer.step shopPageChromium)) shopPageServer shopEvaluation shopWaiting ∧
      Exec (Step (PageServer.step shopPageChromium)) shopWaiting [shopAnswer] shopAnswered ∧
        1 ∈ repliedCalls shopAnswered.log := by
  have hrun : Exec (Step (PageServer.step shopPageChromium)) shopPageServer shopEvaluation
      shopWaiting := .cons rfl (.cons rfl (.nil _))
  have hlater : Exec (Step (PageServer.step shopPageChromium)) shopWaiting [shopAnswer]
      shopAnswered := .cons rfl (.nil _)
  have hop : (⟨⟨.integer 1, 1⟩, .evaluation ⟨true, true, []⟩ .consoleMessages, .success ""⟩ :
      PendingPageOperation) ∈ shopWaiting.browser.pageOperations := List.mem_singleton_self _
  have hreplies := pageServer_repliesInTime shopPageChromium true shopRuntime (fun _ => none)
    shopPageSetting [] ⟨0, 0⟩ hrun hop
  have hcount : 1 ≤ shopWaiting.answers shopPageChromium 1 [shopAnswer] := by decide
  exact ⟨hrun, hlater, hreplies.2 _ _ hlater hcount⟩

end Browserd
