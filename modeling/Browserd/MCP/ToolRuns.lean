import Browserd.MCP.Tools

/-!
# Runs of the server with its tools

The MCP server, the pending operations of its tools and the browser under them, driven by
messages and by what happens to the tabs. A waiter that completes runs the whole chain from its
status to the next queued call in one stack.
-/

namespace Browserd

/-- The event is delivered to the observers of a tab that lives on. -/
def WaiterEvent.isNotification : WaiterEvent → Bool
  | .didFinishNavigation .. => true
  | .didStopLoading .. => true
  | .didFailLoad .. => true
  | _ => false

inductive ToolInput (ρ : Type) [BrowserRuntime ρ] where
  | message (message : DictValue)
  | setController (present : Bool)
  | environment (runtime : ρ) (builder : BrowserRuntime.Builder ρ)
      (answersAtOnce : String → DictValue → Option ToolResult)
  | waiterEvent (callback : MCPResponseCallback) (event : WaiterEvent)
  | pageToolResult (callback : MCPResponseCallback) (content : ListValue) (isError : Bool)

namespace Browser

variable {ρ : Type} [BrowserRuntime ρ]

/-- The result callbacks that the tools hold. -/
def heldCallbacks (b : Browser ρ) : List ToolResultCallback :=
  b.operations.map PendingOperation.callback ++ b.otherCalls

def findOperation (b : Browser ρ) (callback : MCPResponseCallback) : Option PendingOperation :=
  b.operations.find? fun op => op.callback.responseCallback == callback

def setWaiter (callback : MCPResponseCallback) (waiter : Waiter) (b : Browser ρ) : Browser ρ :=
  { b with
    operations := b.operations.map fun op =>
      if op.callback.responseCallback == callback then { op with waiter := waiter } else op }

/-- The operation is over, and its result is on the way while `event` is delivered. -/
def completing (op : PendingOperation) (event : WaiterEvent) (b : Browser ρ) : Browser ρ :=
  { b with
    operations := b.operations.eraseP fun op' =>
      op'.callback.responseCallback == op.callback.responseCallback
    notifying := if event.isNotification then some op.tab else none }

def pageToolDone (callback : MCPResponseCallback) (b : Browser ρ) : Browser ρ :=
  { b with otherCalls := b.otherCalls.eraseP fun cb => cb.responseCallback == callback }

end Browser

abbrev ToolServer (ρ : Type) [BrowserRuntime ρ] := MCPServer (Browser ρ)

namespace ToolServer

variable {ρ : Type} [BrowserRuntime ρ]

/-- A browser without pending operations. -/
def newBrowser (runtime : ρ) (builder : BrowserRuntime.Builder ρ)
    (answersAtOnce : String → DictValue → Option ToolResult) : Browser ρ where
  runtime := runtime
  builder := builder
  operations := []
  answersAtOnce := answersAtOnce
  otherCalls := []
  notifying := none
  destroyedWhileNotifying := false

def start (chromium : Chromium) (hasController : Bool) (runtime : ρ)
    (builder : BrowserRuntime.Builder ρ)
    (answersAtOnce : String → DictValue → Option ToolResult) : ToolServer ρ :=
  MCPServer.init (Tools.registerTools chromium) hasController
    (newBrowser runtime builder answersAtOnce)

def withBrowser (browser : Browser ρ) (s : ToolServer ρ) : ToolServer ρ :=
  { s with browser := browser }

/-- The notification that was on the stack has returned. -/
def returned (s : ToolServer ρ) : ToolServer ρ :=
  s.withBrowser { s.browser with notifying := none }

/-- The waiter of `op` passes `status` to its callback while `event` is delivered. -/
def complete (op : PendingOperation) (event : WaiterEvent) (status : BrowserStatus)
    (s : ToolServer ρ) : Option (ToolServer ρ) :=
  let (content, isError) := Tools.completionResult op.completion status s.browser.runtime
  (MCPServer.step (s.withBrowser (s.browser.completing op event))
    (.toolResult op.callback.responseCallback content isError)).map returned

def deliver (chromium : Chromium) (op : PendingOperation) (event : WaiterEvent)
    (s : ToolServer ρ) : Option (ToolServer ρ) :=
  match op.waiter.deliver chromium event with
  | (waiter, none) =>
      some (s.withBrowser (s.browser.setWaiter op.callback.responseCallback waiter))
  | (_, some status) => s.complete op event status

def step (chromium : Chromium) (s : ToolServer ρ) : ToolInput ρ → Option (ToolServer ρ)
  | .message message => MCPServer.step s (.message message)
  | .setController present => MCPServer.step s (.setController present)
  | .environment runtime builder answersAtOnce =>
      some (s.withBrowser { s.browser with
        runtime := runtime, builder := builder, answersAtOnce := answersAtOnce })
  | .waiterEvent callback event =>
      (s.browser.findOperation callback).bind fun op => s.deliver chromium op event
  | .pageToolResult callback content isError =>
      if s.browser.otherCalls.any fun cb => cb.responseCallback == callback then
        MCPServer.step (s.withBrowser (s.browser.pageToolDone callback))
          (.toolResult callback content isError)
      else none

end ToolServer

end Browserd
