import Browserd.MCP.LostCompletion

/-!
# Tabs closed inside their own notification

The event that completes a call runs the queued calls in the same stack. A close among them that
removes the notified tab destroys it while its observers are being notified.
-/

namespace Browserd

open Transition

namespace Tools

variable {ρ : Type} [BrowserRuntime ρ]

/-- `browser_close` with these arguments removes the tab whose notification is on the stack. -/
def closesNotified (args : DictValue) (b : Browser ρ) : Bool :=
  destroysNotifying b.notifying b.runtime
    (BrowserController.closeTab (args.findString "targetId") b.runtime).1

/-- Only `browser_close` destroys a tab, and no tool changes what is being notified. -/
theorem handler_destroys (chromium : Chromium) (args : DictValue) (callback : ToolResultCallback)
    (b : Browser ρ) {tool : MCPToolDef (Browser ρ)} (h : tool ∈ registerTools chromium) :
    (tool.handler args callback b).1.notifying = b.notifying ∧
      (tool.handler args callback b).1.destroyedWhileNotifying =
        (b.destroyedWhileNotifying ||
          (tool.name == "browser_close" && closesNotified args b)) := by
  rcases mem_registerTools chromium h with h | h | ⟨pageTool, hname, rfl⟩
  · simp only [navigationTools, List.mem_cons, List.not_mem_nil, or_false] at h
    rcases h with rfl | rfl | rfl | rfl
    · simp only [handleNavigate]
      repeat' split
      all_goals simp [await]
    · simp [handleNavigateBack]
    · simp [handleNavigateForward]
    · simp only [handleReload]
      split
      all_goals simp [await]
  · simp only [tabTools, List.mem_cons, List.not_mem_nil, or_false] at h
    rcases h with rfl | rfl | rfl | rfl
    · simp [handleTabs]
    · simp only [handleNewTab]
      split
      all_goals simp [await]
    · simp [handleClose, closesNotified]
    · simp [handleResize]
  · simp only [registerPageTool, handlePageTool]
    split
    all_goals simp [hname]

/-- Of the queued calls, those up to the first that is not answered at once run in one stack. One
of them is a `browser_close` that removes the tab whose notification is on that stack. -/
def nestedClose (tools : List (MCPToolDef (Browser ρ))) : List PendingToolCall → Browser ρ → Bool
  | [], _ => false
  | call :: rest, b =>
      match tools.find? fun tool => tool.name == call.name with
      | none => nestedClose tools rest b
      | some tool =>
          (call.name == "browser_close" && closesNotified call.args b) ||
            match tool.handler call.args call.resultCallback b with
            | (b', some _) => nestedClose tools rest b'
            | (_, none) => false

/-- With no notification on the stack nothing is nested. -/
theorem nestedClose_quiet (chromium : Chromium) (queue : List PendingToolCall) {b : Browser ρ}
    (hquiet : b.notifying = none) : nestedClose (registerTools chromium) queue b = false := by
  induction queue generalizing b with
  | nil => rfl
  | cons call rest ih =>
      rw [nestedClose]
      cases hfind : (registerTools chromium : List (MCPToolDef (Browser ρ))).find?
          fun tool => tool.name == call.name with
      | none => exact ih hquiet
      | some tool =>
          have hmem := List.mem_of_find?_eq_some hfind
          have hnotifying :=
            (handler_destroys chromium call.args call.resultCallback b hmem).1.trans hquiet
          have hcloses : closesNotified call.args b = false := by
            simp [closesNotified, destroysNotifying, hquiet]
          simp only [hcloses, Bool.and_false, Bool.false_or]
          split
          · rename_i b' result heq
            rw [heq] at hnotifying
            exact ih hnotifying
          · rfl

end Tools

namespace ToolServer

variable {ρ : Type} [BrowserRuntime ρ] {chromium : Chromium} {s t : ToolServer ρ}

/-- The input completes a call, and a queued call behind it closes the notified tab. -/
def nestsClose (chromium : Chromium) (s : ToolServer ρ) : ToolInput ρ → Bool
  | .waiterEvent callback event =>
      match s.browser.findOperation callback with
      | none => false
      | some op =>
          (op.waiter.deliver chromium event).2.isSome && s.hasController &&
            Tools.nestedClose s.tools s.toolCallQueue (s.browser.completing op event)
  | _ => false

private theorem handlerRuns_destroys {call : PendingToolCall} {browser : Browser ρ}
    {result : Option ToolResult} (htools : s.tools = Tools.registerTools chromium)
    (h : s.HandlerRuns call browser result) :
    browser.notifying = s.browser.notifying ∧
      browser.destroyedWhileNotifying = (s.browser.destroyedWhileNotifying ||
        (call.name == "browser_close" && Tools.closesNotified call.args s.browser)) := by
  obtain ⟨-, tool, hfind, hrun⟩ := h
  have hname : tool.name = call.name := by simpa using List.find?_some hfind
  have hmem : tool ∈ Tools.registerTools chromium := htools ▸ List.mem_of_find?_eq_some hfind
  have hdestroys := Tools.handler_destroys chromium call.args call.resultCallback s.browser hmem
  rwa [hrun, hname] at hdestroys

/-- Running the queue destroys the notified tab exactly when a close is nested in it. -/
private theorem executeNextToolCall_destroys (htools : s.tools = Tools.registerTools chromium) :
    s.executeNextToolCall.browser.destroyedWhileNotifying =
      (s.browser.destroyedWhileNotifying || (s.hasController &&
        Tools.nestedClose s.tools s.toolCallQueue s.browser)) := by
  generalize hresult : (s.browser.destroyedWhileNotifying || (s.hasController &&
    Tools.nestedClose s.tools s.toolCallQueue s.browser)) = result
  -- What the queue still does is what remains of the result.
  apply MCPServer.executeNextToolCall_induction
    (P := fun s : ToolServer ρ => s.tools = Tools.registerTools chromium ∧
      (s.browser.destroyedWhileNotifying || (s.hasController &&
        Tools.nestedClose s.tools s.toolCallQueue s.browser)) = result)
    (Q := fun s : ToolServer ρ => s.browser.destroyedWhileNotifying = result)
  case hanswered =>
    intro s call rest browser events answer h hq _ hevents
    obtain ⟨htools, hresult⟩ := h
    refine ⟨htools, ?_⟩
    rw [← hresult, hq]
    rcases hevents with ⟨-, rfl, hunknown⟩ | ⟨-, toolResult, hruns⟩
    · cases hcontroller : s.hasController with
      | false => simp [MCPServer.answered, hcontroller]
      | true =>
          have hnone := hunknown hcontroller
          rw [MCPServer.findTool] at hnone
          simp [MCPServer.answered, hcontroller, Tools.nestedClose, hnone]
    · obtain ⟨-, hdestroys⟩ := handlerRuns_destroys htools hruns
      obtain ⟨hcontroller, tool, hfind, hrun⟩ := hruns
      rw [MCPServer.findTool] at hfind
      simp [MCPServer.answered, hcontroller, Tools.nestedClose, hfind, hrun, hdestroys,
        Bool.or_assoc]
  case hempty =>
    intro s h hq
    obtain ⟨-, hresult⟩ := h
    simpa [hq, Tools.nestedClose] using hresult
  case hpending =>
    intro s call rest browser h hq hruns
    obtain ⟨htools, hresult⟩ := h
    obtain ⟨-, hdestroys⟩ := handlerRuns_destroys htools hruns
    obtain ⟨hcontroller, tool, hfind, hrun⟩ := hruns
    rw [MCPServer.findTool] at hfind
    rw [← hresult, hq]
    simp [MCPServer.keptPending, hcontroller, Tools.nestedClose, hfind, hrun, hdestroys]
  case hs => exact ⟨htools, hresult⟩

private theorem executeNextToolCall_notifying (htools : s.tools = Tools.registerTools chromium) :
    s.executeNextToolCall.browser.notifying = s.browser.notifying := by
  generalize hnotifying : s.browser.notifying = notifying
  apply MCPServer.executeNextToolCall_induction
    (P := fun s : ToolServer ρ => s.tools = Tools.registerTools chromium ∧
      s.browser.notifying = notifying)
    (Q := fun s : ToolServer ρ => s.browser.notifying = notifying)
  case hanswered =>
    intro s call rest browser events answer h _ _ hevents
    refine ⟨h.1, ?_⟩
    rcases hevents with ⟨-, rfl, -⟩ | ⟨-, result, hruns⟩
    · exact h.2
    · exact (handlerRuns_destroys h.1 hruns).1.trans h.2
  case hempty => exact fun s h _ => h.2
  case hpending =>
    intro s call rest browser h _ hruns
    exact (handlerRuns_destroys h.1 hruns).1.trans h.2
  case hs => exact ⟨htools, hnotifying⟩

/-- Between two steps no notification is on the stack. -/
structure Quiet (chromium : Chromium) (s : ToolServer ρ) : Prop where
  invariant : Invariant chromium Waiter.Unanswered s
  notifying : s.browser.notifying = none

/-- Without a notification the queue destroys no notified tab. -/
private theorem executeNextToolCall_quiet (htools : s.tools = Tools.registerTools chromium)
    (hquiet : s.browser.notifying = none) :
    s.executeNextToolCall.browser.notifying = none ∧
      s.executeNextToolCall.browser.destroyedWhileNotifying =
        s.browser.destroyedWhileNotifying := by
  refine ⟨(executeNextToolCall_notifying htools).trans hquiet, ?_⟩
  rw [executeNextToolCall_destroys htools, htools, Tools.nestedClose_quiet chromium _ hquiet]
  simp

private theorem message_destroys (h : s.Quiet chromium) (message : DictValue)
    (hstep : MCPServer.step s (.message message) = some t) :
    t.browser.notifying = none ∧
      t.browser.destroyedWhileNotifying = s.browser.destroyedWhileNotifying := by
  simp only [MCPServer.step, Option.some.injEq] at hstep
  subst hstep
  rcases MCPServer.onMessage_cases message (receivedMessages s.log).length
    (s.record (.received message)) with ⟨response, -, heq⟩ | ⟨call, -, -, -, -, heq⟩
  · rw [heq]
    exact ⟨h.notifying, rfl⟩
  · rw [heq]
    split
    · exact executeNextToolCall_quiet h.invariant.tools h.notifying
    · exact ⟨h.notifying, rfl⟩

private theorem complete_destroys (h : s.Quiet chromium) {op : PendingOperation}
    (hop : op ∈ s.browser.operations) (event : WaiterEvent) (status : BrowserStatus)
    (hstep : s.complete op event status = some t) :
    t.browser.notifying = none ∧
      t.browser.destroyedWhileNotifying = (s.browser.destroyedWhileNotifying ||
        (s.hasController &&
          Tools.nestedClose s.tools s.toolCallQueue (s.browser.completing op event))) := by
  have houtstanding := h.invariant.outstanding_operation hop
  simp only [complete, MCPServer.step, withBrowser, houtstanding, List.find?_cons, beq_self_eq_true,
    Option.map_some, Option.some.injEq] at hstep
  subst hstep
  refine ⟨rfl, ?_⟩
  simp only [returned, withBrowser, MCPServer.onToolCallComplete]
  exact executeNextToolCall_destroys h.invariant.tools

private theorem pageToolResult_destroys (h : s.Quiet chromium) {callback : MCPResponseCallback}
    {content : ListValue} {isError : Bool}
    (hstep : step chromium s (.pageToolResult callback content isError) = some t) :
    t.browser.notifying = none ∧
      t.browser.destroyedWhileNotifying = s.browser.destroyedWhileNotifying := by
  simp only [step] at hstep
  split at hstep
  · have hqueue := queueInvariant_withBrowser (s.browser.pageToolDone callback) h.invariant.queue
    obtain ⟨cb, -, -, rfl⟩ := hqueue.toolResult_cases hstep
    exact executeNextToolCall_quiet h.invariant.tools h.notifying
  · cases hstep

/-- One step destroys the notified tab exactly when it nests a close of it. -/
theorem step_destroys (h : s.Quiet chromium) {input : ToolInput ρ}
    (hstep : step chromium s input = some t) :
    t.Quiet chromium ∧ t.browser.destroyedWhileNotifying =
      (s.browser.destroyedWhileNotifying || nestsClose chromium s input) := by
  have hinv := step_unanswered h.invariant hstep
  have hbrowser : t.browser.notifying = none ∧ t.browser.destroyedWhileNotifying =
      (s.browser.destroyedWhileNotifying || nestsClose chromium s input) := by
    cases input with
    | message message => simpa [nestsClose] using message_destroys h message hstep
    | setController present =>
        obtain rfl := (Option.some.inj hstep).symm
        exact ⟨h.notifying, by simp [nestsClose]⟩
    | environment runtime builder answersAtOnce =>
        obtain rfl := (Option.some.inj hstep).symm
        exact ⟨h.notifying, by simp [nestsClose, withBrowser]⟩
    | waiterEvent callback event =>
        obtain ⟨op, hfind, hop⟩ := Option.bind_eq_some_iff.mp hstep
        have hmem := List.mem_of_find?_eq_some hfind
        rw [deliver] at hop
        split at hop
        · rename_i w heq
          obtain rfl := (Option.some.inj hop).symm
          exact ⟨h.notifying, by simp [nestsClose, hfind, heq, withBrowser, Browser.setWaiter]⟩
        · rename_i w status heq
          simpa [nestsClose, hfind, heq] using complete_destroys h hmem event status hop
    | pageToolResult callback content isError =>
        simpa [nestsClose] using pageToolResult_destroys h hstep
  exact ⟨⟨hinv, hbrowser.1⟩, hbrowser.2⟩

/-- In every run a tab is destroyed inside its own notification exactly when some event completes
a call while a close of the notified tab waits behind it in the same stack. -/
theorem nestedDestruction_iff (chromium : Chromium) (hasController : Bool) (runtime : ρ)
    (builder : BrowserRuntime.Builder ρ)
    (answersAtOnce : String → DictValue → Option ToolResult) (inputs : List (ToolInput ρ))
    (s : ToolServer ρ)
    (h : Exec (Step (step chromium))
      (start chromium hasController runtime builder answersAtOnce) inputs s) :
    s.browser.destroyedWhileNotifying = false ↔
      Exec (Guarded (Step (step chromium)) fun s input => nestsClose chromium s input = false)
        (start chromium hasController runtime builder answersAtOnce) inputs s := by
  have hquiet : (start chromium hasController runtime builder answersAtOnce).Quiet chromium :=
    ⟨start_invariant _ chromium hasController runtime builder answersAtOnce, rfl⟩
  have hflag := Exec.flag_iff (I := Quiet chromium)
    (fun s : ToolServer ρ => s.browser.destroyedWhileNotifying) (nestsClose chromium)
    (fun _ _ _ hs hstep => step_destroys hs hstep) h hquiet
  simpa [start, MCPServer.init, newBrowser] using hflag

/-- A navigation of the only tab, and a close sent without waiting for its reply. -/
def shopNavigateAndClose : List (ToolInput HeadlessRuntime) :=
  [.message [("method", .string "notifications/initialized")],
    .message [("id", .integer 1), ("method", .string "tools/call"),
      ("params", .dict [("name", .string "browser_navigate"),
        ("arguments", .dict [("url", .string "https://shop.test/new")])])],
    .message (MCPServer.sampleCall 2 "browser_close")]

/-- The page has been loaded, and its observers are told. -/
def shopLoaded : ToolInput HeadlessRuntime :=
  .waiterEvent 1 (.didStopLoading { shopPage with lastCommittedURL := movedURL })

/-- The end of loading completes the navigation, and the close behind it destroys the tab. -/
theorem nested_destruction :
    ¬ ∀ (chromium : Chromium) (runtime : HeadlessRuntime)
        (inputs : List (ToolInput HeadlessRuntime)) (s : ToolServer HeadlessRuntime),
        Exec (Step (step chromium))
          (start chromium true runtime (fun _ => none) (fun _ _ => none)) inputs s →
        s.browser.destroyedWhileNotifying = false := by
  intro h
  have hrun : Exec (Step (step shopChromium)) shopServer (shopNavigateAndClose ++ [shopLoaded]) _ :=
    .cons rfl (.cons rfl (.cons rfl (.cons rfl (.nil _))))
  have hflag := h shopChromium shopRuntime _ _ hrun
  cases hflag

/-- The timer completes the navigation outside any notification. -/
theorem nestedDestruction_sample :
    ∃ s, Exec (Step (step shopChromium)) shopServer
        (shopNavigateAndClose ++ [.waiterEvent 1 .timeout]) s ∧
      Exec (Guarded (Step (step shopChromium)) fun s input =>
        nestsClose shopChromium s input = false) shopServer
        (shopNavigateAndClose ++ [.waiterEvent 1 .timeout]) s := by
  have hrun : Exec (Step (step shopChromium)) shopServer
      (shopNavigateAndClose ++ [.waiterEvent 1 .timeout]) _ :=
    .cons rfl (.cons rfl (.cons rfl (.cons rfl (.nil _))))
  exact ⟨_, hrun, (nestedDestruction_iff _ _ _ _ _ _ _ hrun).mp rfl⟩

end ToolServer

end Browserd
