import Browserd.Core.ControllerCalls
import Browserd.Core.IntegerArguments
import Browserd.MCP.CookieTools
import Browserd.MCP.ToolHost
import Browserd.MCP.ToolSteps

/-!
# The tools that act inside a tab

All tools of the server as they are: the navigation and tab tools over a larger state, and the
tools that act inside a tab, each of which answers at once or leaves an operation that holds its
callback.
-/

namespace Browserd

/-- What a tool makes of the status of its call; a cookie that is not there is deleted all the
same. -/
inductive PageCompletion where
  | success (message : String)
  | deleted (cookieName : String)

structure PendingPageOperation where
  callback : ToolResultCallback
  operation : PageOperation
  completion : PageCompletion

/-- The browser that all tools act on; the navigation and tab tools act on `tabs`. -/
structure PageBrowser (ρ κ : Type) [BrowserRuntime ρ] extends PageState κ where
  tabs : Browser ρ
  pageOperations : List PendingPageOperation

namespace PageTools

variable {ρ : Type} [BrowserRuntime ρ] {κ : Type}

def imageContent (base64Data mimeType : String) : ListValue :=
  [.dict (((DictValue.set [] "type" (.string "image")).set "data" (.string base64Data)).set
    "mimeType" (.string mimeType))]

/-- `CompleteSnapshot`, `CompleteConsoleMessages`, `CompleteEvaluate` and `CompleteScreenshot`
differ in the content. -/
def completeResult {α : Type} (content : α → ListValue) (result : BrowserResult α) : ToolResult :=
  match result.value with
  | some value =>
      if !result.status.isOk then (textContent result.status.message, true)
      else (content value, false)
  | none => (textContent result.status.message, true)

def completeText : BrowserResult String → ToolResult := completeResult textContent

def completeEvaluate : BrowserResult EvaluateResult → ToolResult :=
  completeResult fun
    | .undefined => textContent "undefined"
    | .json json => textContent json

def completeScreenshot (base64Encode : List UInt8 → String) :
    BrowserResult (List UInt8) → ToolResult :=
  completeResult fun bytes => imageContent (base64Encode bytes) "image/png"

def waitDesc (options : WaitOptions) : String :=
  match options.awaited with
  | some (.selector selector) => "selector: " ++ selector
  | some (.text text) => "text: " ++ text
  | none => ""

end PageTools

def PageCompletion.completeStatus : PageCompletion → BrowserStatus → ToolResult
  | .success message => Tools.completeStatus message
  | .deleted cookieName => Tools.completeDelete cookieName

/-- What the tool makes of what its callback is given. -/
def PageCompletion.toolResult {κ : Type} (chromium : PageChromium κ) (completion : PageCompletion) :
    ControllerResult → ToolResult
  | .status status => completion.completeStatus status
  | .evaluate result => PageTools.completeEvaluate result
  | .text result => PageTools.completeText result
  | .screenshot result => PageTools.completeScreenshot chromium.base64Encode result
  | .tab result => Tools.completeCreateTab result
  | .tabs result => Tools.completeTabs result
  | .cookie result => Tools.formatCookieGet result
  | .cookies result => Tools.formatCookieList result

namespace CookieCall

def operation : CookieCall → PageOperation
  | .list request => .cookies request
  | .get request => .cookies request
  | .set request _ => .cookies request
  | .delete request _ => .cookies request
  | .clear request => .cookies request

def completion : CookieCall → PageCompletion
  | .list _ => .success ""
  | .get _ => .success ""
  | .set _ cookieName => .success ("Cookie '" ++ cookieName ++ "' set")
  | .delete _ cookieName => .deleted cookieName
  | .clear _ => .success "All cookies cleared"

end CookieCall

namespace PageTools

variable {ρ : Type} [BrowserRuntime ρ] {κ : Type}

def hold (callback : ToolResultCallback) (operation : PageOperation) (completion : PageCompletion)
    (b : PageBrowser ρ κ) : PageBrowser ρ κ :=
  { b with pageOperations := b.pageOperations ++ [⟨callback, operation, completion⟩] }

/-- The tools that act on the tabs leave the rest alone. -/
def onTabs (handler : ToolHandler (Browser ρ)) : ToolHandler (PageBrowser ρ κ) :=
  fun args callback b =>
    let (tabs, result) := handler args callback b.tabs
    ({ b with tabs := tabs }, result)

/-- The tools call the controller for the active tab. -/
def startCall (chromium : PageChromium κ) (call : PageCall) (completion : PageCompletion)
    (callback : ToolResultCallback) (b : PageBrowser ρ κ) :
    PageBrowser ρ κ × Option ToolResult :=
  let (state, progress) :=
    BrowserController.startCall chromium b.tabs.runtime none b.toPageState call
  let b := { b with toPageState := state }
  match progress with
  | .completed result => (b, some (completion.toolResult chromium result))
  | .waits operation => (hold callback operation completion b, none)

def missing (parameters : String) : ToolResult :=
  (textContent ("Missing required " ++ parameters), true)

def handleSnapshot (chromium : PageChromium κ) : ToolHandler (PageBrowser ρ κ) := fun _ =>
  startCall chromium .snapshot (.success "")

def handleScreenshot (chromium : PageChromium κ) : ToolHandler (PageBrowser ρ κ) := fun _ =>
  startCall chromium (.interact .screenshot) (.success "")

def handleClick (chromium : PageChromium κ) : ToolHandler (PageBrowser ρ κ) :=
  fun args callback b =>
    match args.findString "ref" with
    | none => (b, some (missing "parameter: ref"))
    | some ref =>
        startCall chromium (.interact (.click ref)) (.success "Clicked element") callback b

def handleHover (chromium : PageChromium κ) : ToolHandler (PageBrowser ρ κ) :=
  fun args callback b =>
    match args.findString "ref" with
    | none => (b, some (missing "parameter: ref"))
    | some ref =>
        startCall chromium (.interact (.hover ref)) (.success "Hovered over element") callback b

def handleType (chromium : PageChromium κ) : ToolHandler (PageBrowser ρ κ) :=
  fun args callback b =>
    match args.findString "ref", args.findString "text" with
    | some ref, some text =>
        startCall chromium (.interact (.type ref text ((args.findBool "clear").getD false)))
          (.success "Typed text") callback b
    | _, _ => (b, some (missing "parameters: ref, text"))

def handlePressKey (chromium : PageChromium κ) : ToolHandler (PageBrowser ρ κ) :=
  fun args callback b =>
    match args.findString "key" with
    | none => (b, some (missing "parameter: key"))
    | some key =>
        startCall chromium (.interact (.pressKey key)) (.success ("Pressed key: " ++ key)) callback
          b

def getIfString : Value → Option String
  | .string s => some s
  | _ => none

def handleSelectOption (chromium : PageChromium κ) : ToolHandler (PageBrowser ρ κ) :=
  fun args callback b =>
    match args.findString "ref", args.findList "values" with
    | some ref, some values => 
        startCall chromium (.selectOption ref (values.filterMap getIfString))
          (.success "Options selected") callback b
    | _, _ => (b, some (missing "parameters: ref, values"))

def handleDragAndDrop (chromium : PageChromium κ) : ToolHandler (PageBrowser ρ κ) :=
  fun args callback b =>
    match args.findString "startRef", args.findString "endRef" with
    | some startRef, some endRef =>
        startCall chromium (.interact (.drag startRef endRef)) (.success "Drag and drop completed")
          callback b
    | _, _ => (b, some (missing "parameters: startRef, endRef"))

def handleScrollTool (chromium : PageChromium κ) : ToolHandler (PageBrowser ρ κ) :=
  fun args callback b =>
    let (deltaX, deltaY) := handleScroll args
    startCall chromium (.interact (.scroll deltaX deltaY)) (.success "Scrolled page") callback b

def handleEvaluate (chromium : PageChromium κ) : ToolHandler (PageBrowser ρ κ) :=
  fun args callback b =>
    match args.findString "expression" with
    | none => (b, some (missing "parameter: expression"))
    | some expression => startCall chromium (.evaluate expression) (.success "") callback b

def handleConsoleMessages (chromium : PageChromium κ) : ToolHandler (PageBrowser ρ κ) := fun _ =>
  startCall chromium .consoleMessages (.success "")

def handleWait (chromium : PageChromium κ) : ToolHandler (PageBrowser ρ κ) :=
  fun args callback b =>
    match handleWaitFor args with
    | .error message => (b, some (textContent message, true))
    | .ok options =>
        startCall chromium (.waitFor options) (.success ("Wait satisfied for " ++ waitDesc options))
          callback b

/-- The handler of a cookie tool, over the tabs of the browser. -/
def handleCookieTool (chromium : PageChromium κ) (tool : CookieTool) :
    ToolHandler (PageBrowser ρ κ) :=
  fun args callback b =>
    let setting : CookieSetting ρ := ⟨b.tabs.runtime, b.setting.hasBrowserContext, b.setting.now⟩
    match tool.handle chromium.toChromium chromium.cookieManager setting args with
    | .error result => (b, some result)
    | .ok call => (hold callback call.operation call.completion b, none)

def registerTabTool (tool : MCPToolDef (Browser ρ)) : MCPToolDef (PageBrowser ρ κ) :=
  ⟨tool.name, tool.description, tool.inputSchema, onTabs tool.handler⟩

def registerWith (tools : List Tools.PageTool) (handlers : List (ToolHandler (PageBrowser ρ κ))) :
    List (MCPToolDef (PageBrowser ρ κ)) :=
  List.zipWith (fun tool handler => ⟨tool.name, tool.description, tool.inputSchema, handler⟩)
    tools handlers

/-- The handlers of the tools between the navigation tools and the tab tools. -/
def pageHandlers (chromium : PageChromium κ) : List (ToolHandler (PageBrowser ρ κ)) :=
  [handleSnapshot chromium, handleScreenshot chromium,
    handleClick chromium, handleHover chromium, handleType chromium, handlePressKey chromium,
    handleSelectOption chromium, handleDragAndDrop chromium, handleScrollTool chromium,
    handleEvaluate chromium, handleConsoleMessages chromium, handleWait chromium]

def cookieHandlers (chromium : PageChromium κ) : List (ToolHandler (PageBrowser ρ κ)) :=
  [CookieTool.list, .get, .set, .delete, .clear].map (handleCookieTool chromium)

/-- `App::RegisterTools`. -/
def registerTools (chromium : PageChromium κ) : List (MCPToolDef (PageBrowser ρ κ)) :=
  (Tools.navigationTools chromium.toChromium).map registerTabTool ++
    registerWith
      (Tools.snapshotTools ++ Tools.interactionTools ++ Tools.evaluateTools ++ Tools.waitTools)
      (pageHandlers chromium) ++
    (Tools.tabTools chromium.toChromium).map registerTabTool ++
    registerWith Tools.cookieTools (cookieHandlers chromium)

end PageTools

end Browserd
