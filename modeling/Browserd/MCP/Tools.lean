import Browserd.Core.BrowserController
import Browserd.MCP.Server

/-!
# The navigation and tab tools

The tools that open, navigate and close tabs, over any runtime. The other tools act inside a tab
and leave the tabs alone; what they answer, and whether at once, is left open.
-/

namespace Browserd

/-- What a tool makes of the status of its operation. -/
inductive ToolCompletion where
  | status (successMessage : String)
  | createdTab (targetId : String)

/-- A call whose operation waits on the tab at address `tab`. -/
structure PendingOperation where
  callback : ToolResultCallback
  tab : Nat
  waiter : Waiter
  completion : ToolCompletion

/-- The state that the tools act on. `notifying` is the tab whose observer notification is on the
call stack; `destroyedWhileNotifying` says whether a tab has been destroyed in that situation. -/
structure Browser (ρ : Type) [BrowserRuntime ρ] where
  runtime : ρ
  builder : BrowserRuntime.Builder ρ
  operations : List PendingOperation
  answersAtOnce : String → DictValue → Option ToolResult
  otherCalls : List ToolResultCallback
  notifying : Option Nat
  destroyedWhileNotifying : Bool

namespace Tools

variable {ρ : Type} [BrowserRuntime ρ]

/-- `SchemaString`, `SchemaInt` and `SchemaBool` differ in the type they name. -/
def schemaOfType (type desc : String) : Value :=
  let prop := DictValue.set [] "type" (.string type)
  .dict (if desc.isEmpty then prop else prop.set "description" (.string desc))

def schemaString (desc : String) : Value := schemaOfType "string" desc

def schemaInt (desc : String) : Value := schemaOfType "integer" desc

def schemaBool (desc : String) : Value := schemaOfType "boolean" desc

def schemaObject (properties : DictValue) (required : List String) : DictValue :=
  let schema := (DictValue.set [] "type" (.string "object")).set "properties" (.dict properties)
  if required.isEmpty then schema else schema.set "required" (.list (required.map .string))

def completeStatus (successMessage : String) (status : BrowserStatus) : ToolResult :=
  if !status.isOk then (textContent status.message, true) else (textContent successMessage, false)

def completeCreateTab (result : BrowserResult BrowserTabInfo) : ToolResult :=
  match result.value with
  | some tab =>
      if !result.status.isOk then (textContent result.status.message, true)
      else (textContent ("Created new tab: " ++ tab.targetId), false)
  | none => (textContent result.status.message, true)

def tabLine (index : Nat) (tab : BrowserTabInfo) : String :=
  "[" ++ toString index ++ "] " ++ tab.title ++ " (" ++ tab.url ++ ")" ++
    " [id=" ++ tab.targetId ++ "]" ++ "\n"

def completeTabs (result : BrowserResult (List BrowserTabInfo)) : ToolResult :=
  match result.value with
  | some tabs =>
      if !result.status.isOk then (textContent result.status.message, true)
      else
        let output := String.join (tabs.mapIdx tabLine)
        (textContent (if output.isEmpty then "No tabs open" else output), false)
  | none => (textContent result.status.message, true)

/-- What the waiter's callback gives to the tool. -/
def completionResult (completion : ToolCompletion) (status : BrowserStatus) (rt : ρ) :
    ToolResult :=
  match completion with
  | .status successMessage => completeStatus successMessage status
  | .createdTab targetId => completeCreateTab (BrowserController.createdTab targetId status rt)

def await (callback : ToolResultCallback) (page : WebContents) (waiter : Waiter)
    (completion : ToolCompletion) (b : Browser ρ) : Browser ρ :=
  { b with operations := b.operations ++ [⟨callback, page.address, waiter, completion⟩] }

def handleNavigate (chromium : Chromium) : ToolHandler (Browser ρ) := fun args callback b =>
  match args.findString "url" with
  | none => (b, some (textContent "Missing required parameter: url", true))
  | some url =>
      match BrowserController.navigate none (chromium.parseURL url) b.runtime with
      | .reported status => (b, some (completeStatus "Navigated to page" status))
      | .waiting page waiter _ =>
          (await callback page waiter (.status "Navigated to page") b, none)

def handleNavigateBack : ToolHandler (Browser ρ) := fun _ _ b =>
  (b, some (completeStatus "Navigated back" (BrowserController.navigateBack none b.runtime)))

def handleNavigateForward : ToolHandler (Browser ρ) := fun _ _ b =>
  (b, some (completeStatus "Navigated forward" (BrowserController.navigateForward none b.runtime)))

def handleReload : ToolHandler (Browser ρ) := fun _ callback b =>
  match BrowserController.reload none b.runtime with
  | .reported status => (b, some (completeStatus "Page reloaded" status))
  | .waiting page waiter _ => (await callback page waiter (.status "Page reloaded") b, none)

def handleTabs : ToolHandler (Browser ρ) := fun _ _ b =>
  (b, some (completeTabs (BrowserController.listTabs b.runtime)))

def handleNewTab (chromium : Chromium) : ToolHandler (Browser ρ) := fun args callback b =>
  let targetUrl := (args.findString "url").getD "about:blank"
  let (runtime, started) :=
    BrowserController.createTab b.builder (chromium.parseURL targetUrl) b.runtime
  let b := { b with runtime := runtime }
  match started with
  | .reported result => (b, some (completeCreateTab result))
  | .waiting page waiter targetId => (await callback page waiter (.createdTab targetId) b, none)

/-- The tab being notified is among the tabs of `before` that `after` no longer has. -/
def destroysNotifying (notifying : Option Nat) (before after : ρ) : Bool :=
  match notifying with
  | none => false
  | some tab =>
      (BrowserRuntime.allWebContents before).any (fun page => page.address == tab) &&
        !(BrowserRuntime.allWebContents after).any (fun page => page.address == tab)

/-- No call is pending while a handler runs, so no waiter of a call is on the tab it closes. -/
def handleClose : ToolHandler (Browser ρ) := fun args _ b =>
  let target := args.findString "targetId"
  let (runtime, status) := BrowserController.closeTab target b.runtime
  let message := if target.isSome then "Tab closed" else "Current tab closed"
  ({ b with
      runtime := runtime
      destroyedWhileNotifying :=
        b.destroyedWhileNotifying || destroysNotifying b.notifying b.runtime runtime },
    some (completeStatus message status))

def handleResize : ToolHandler (Browser ρ) := fun args _ b =>
  let width := (args.findInt "width").getD 1280
  let height := (args.findInt "height").getD 720
  (b, some (completeStatus
    ("Resized to " ++ toString width.toInt ++ "x" ++ toString height.toInt) .ok))

/-- A tool that acts inside a tab. -/
structure PageTool where
  name : String
  description : String
  inputSchema : DictValue

def handlePageTool (tool : PageTool) : ToolHandler (Browser ρ) := fun args callback b =>
  match b.answersAtOnce tool.name args with
  | some result => (b, some result)
  | none => ({ b with otherCalls := b.otherCalls ++ [callback] }, none)

def registerPageTool (tool : PageTool) : MCPToolDef (Browser ρ) :=
  ⟨tool.name, tool.description, tool.inputSchema, handlePageTool tool⟩

def navigationTools (chromium : Chromium) : List (MCPToolDef (Browser ρ)) :=
  [⟨"browser_navigate", "Navigate to a URL",
      schemaObject (DictValue.set [] "url" (schemaString "URL to navigate to")) ["url"],
      handleNavigate chromium⟩,
    ⟨"browser_navigate_back", "Go back in browser history", schemaObject [] [],
      handleNavigateBack⟩,
    ⟨"browser_navigate_forward", "Go forward in browser history", schemaObject [] [],
      handleNavigateForward⟩,
    ⟨"browser_reload", "Reload the current page", schemaObject [] [], handleReload⟩]

def tabTools (chromium : Chromium) : List (MCPToolDef (Browser ρ)) :=
  [⟨"browser_tab_list", "List all open browser tabs", schemaObject [] [], handleTabs⟩,
    ⟨"browser_tab_new", "Open a new browser tab",
      schemaObject (DictValue.set [] "url" (schemaString "URL to open in the new tab")) [],
      handleNewTab chromium⟩,
    ⟨"browser_close", "Close a browser tab",
      schemaObject (DictValue.set [] "targetId" (schemaString
        "Target ID of the tab to close (closes current if omitted)")) [],
      handleClose⟩,
    ⟨"browser_resize", "Resize the browser viewport",
      schemaObject ((DictValue.set [] "width" (schemaInt "Viewport width in pixels")).set "height"
        (schemaInt "Viewport height in pixels")) [],
      handleResize⟩]

def refProperty : DictValue :=
  DictValue.set [] "ref" (schemaString "Element ref from accessibility snapshot")

def snapshotTools : List PageTool :=
  [⟨"browser_snapshot", "Capture an accessibility snapshot of the current page",
      schemaObject [] []⟩,
    ⟨"browser_take_screenshot", "Take a screenshot of the current page", schemaObject [] []⟩]

def interactionTools : List PageTool :=
  [⟨"browser_click", "Click an element on the page using its accessibility ref",
      schemaObject refProperty ["ref"]⟩,
    ⟨"browser_hover", "Hover over an element on the page", schemaObject refProperty ["ref"]⟩,
    ⟨"browser_type", "Type text into a focused element",
      schemaObject ((refProperty.set "text" (schemaString "Text to type")).set "clear"
        (schemaBool "Clear existing text before typing")) ["ref", "text"]⟩,
    ⟨"browser_press_key", "Press a keyboard key or key combination",
      schemaObject (DictValue.set [] "key"
        (schemaString "Key to press (e.g. Enter, Tab, ArrowDown)")) ["key"]⟩,
    ⟨"browser_select_option", "Select option(s) in a select element",
      schemaObject (refProperty.set "values"
        (.dict (((DictValue.set [] "type" (.string "array")).set "description"
          (.string "Option values to select")).set "items"
            (.dict (DictValue.set [] "type" (.string "string")))))) ["ref", "values"]⟩,
    ⟨"browser_drag", "Drag and drop from one element to another",
      schemaObject ((DictValue.set [] "startRef" (schemaString "Source element ref")).set "endRef"
        (schemaString "Target element ref")) ["startRef", "endRef"]⟩,
    ⟨"browser_scroll", "Scroll the page",
      schemaObject ((DictValue.set [] "deltaX"
        (schemaInt "Horizontal scroll amount in pixels")).set "deltaY"
          (schemaInt "Vertical scroll amount in pixels")) []⟩]

def evaluateTools : List PageTool :=
  [⟨"browser_evaluate", "Execute JavaScript in the browser console",
      schemaObject (DictValue.set [] "expression"
        (schemaString "JavaScript expression to evaluate")) ["expression"]⟩,
    ⟨"browser_console_messages", "Get console messages from the page", schemaObject [] []⟩]

def waitTools : List PageTool :=
  [⟨"browser_wait_for", "Wait for a selector to appear or text to be present on the page",
      schemaObject (((DictValue.set [] "selector"
        (schemaString "CSS selector to wait for")).set "text"
          (schemaString "Text to wait for on the page")).set "timeout"
            (schemaInt "Timeout in milliseconds (default 30000)")) []⟩]

def cookieTools : List PageTool :=
  [⟨"browser_cookie_list", "List cookies, optionally filtered by URL",
      schemaObject (DictValue.set [] "url" (schemaString "URL to filter cookies by")) []⟩,
    ⟨"browser_cookie_get", "Get a specific cookie by name",
      schemaObject (DictValue.set [] "name" (schemaString "Cookie name")) ["name"]⟩,
    ⟨"browser_cookie_set", "Set a cookie",
      schemaObject (((((((DictValue.set [] "name" (schemaString "Cookie name")).set "value"
        (schemaString "Cookie value")).set "domain" (schemaString "Cookie domain")).set "path"
          (schemaString "Cookie path")).set "url" (schemaString "URL to associate cookie with")).set
            "secure" (schemaBool "Secure flag")).set "httpOnly" (schemaBool "HttpOnly flag"))
        ["name", "value"]⟩,
    ⟨"browser_cookie_delete", "Delete a cookie by name",
      schemaObject (((DictValue.set [] "name" (schemaString "Cookie name to delete")).set "url"
        (schemaString "URL the cookie belongs to")).set "domain" (schemaString "Cookie domain"))
        ["name"]⟩,
    ⟨"browser_cookie_clear", "Clear all cookies", schemaObject [] []⟩]

/-- `App::RegisterTools`. -/
def registerTools (chromium : Chromium) : List (MCPToolDef (Browser ρ)) :=
  navigationTools chromium ++
    (snapshotTools ++ interactionTools ++ evaluateTools ++ waitTools).map registerPageTool ++
    tabTools chromium ++ cookieTools.map registerPageTool

end Tools

end Browserd
