import Browserd.Base.Values
import Browserd.Lib.Exec

/-!
# The MCP server

`MCPServer` with the browser it drives left open: tool handlers act on a state of any type,
and each either runs its result callback inside `handler.Run` or keeps it for a later step.
The history records what the transports and the handlers can see.
-/

namespace Browserd

/-- The one-shot reply of a message. Callback `n` was passed in with the `n`-th message. -/
abbrev MCPResponseCallback := Nat

/-- `OnToolCallComplete` bound to the id and the response callback of its call. -/
structure ToolResultCallback where
  id : Value
  responseCallback : MCPResponseCallback

/-- What a handler passes to its callback: the content and `is_error`. -/
abbrev ToolResult := ListValue × Bool

/-- `some` is a callback run inside `handler.Run`; `none` is one kept for later. -/
abbrev ToolHandler (σ : Type*) := DictValue → ToolResultCallback → σ → σ × Option ToolResult

structure MCPToolDef (σ : Type*) where
  name : String
  description : String
  inputSchema : DictValue
  handler : ToolHandler σ

def textContent (text : String) : ListValue :=
  [.dict ((DictValue.set [] "type" (.string "text")).set "text" (.string text))]

structure PendingToolCall where
  name : String
  args : DictValue
  id : Value
  responseCallback : MCPResponseCallback

def PendingToolCall.resultCallback (call : PendingToolCall) : ToolResultCallback :=
  ⟨call.id, call.responseCallback⟩

inductive MCPEvent where
  | received (message : DictValue)
  | accepted (callback : MCPResponseCallback)
  | invoked (callback : MCPResponseCallback)
  | completed (callback : MCPResponseCallback)
  | replied (callback : MCPResponseCallback) (response : Option DictValue)

/-- The server's fields, the state its handlers act on, the result callbacks that handlers
still hold, and the history. -/
structure MCPServer (σ : Type*) where
  tools : List (MCPToolDef σ)
  hasController : Bool
  initialized : Bool
  toolCallInProgress : Bool
  toolCallQueue : List PendingToolCall
  browser : σ
  outstanding : List ToolResultCallback
  log : List MCPEvent

def receivedMessages (log : List MCPEvent) : List DictValue :=
  log.filterMap fun | .received m => some m | _ => none

def acceptedCalls (log : List MCPEvent) : List MCPResponseCallback :=
  log.filterMap fun | .accepted c => some c | _ => none

def invokedCalls (log : List MCPEvent) : List MCPResponseCallback :=
  log.filterMap fun | .invoked c => some c | _ => none

def completedCalls (log : List MCPEvent) : List MCPResponseCallback :=
  log.filterMap fun | .completed c => some c | _ => none

def sentReplies (log : List MCPEvent) : List (MCPResponseCallback × Option DictValue) :=
  log.filterMap fun | .replied c r => some (c, r) | _ => none

def repliedCalls (log : List MCPEvent) : List MCPResponseCallback :=
  (sentReplies log).map Prod.fst

namespace MCPServer

variable {σ : Type*}

def init (tools : List (MCPToolDef σ)) (hasController : Bool) (browser : σ) : MCPServer σ where
  tools := tools
  hasController := hasController
  initialized := false
  toolCallInProgress := false
  toolCallQueue := []
  browser := browser
  outstanding := []
  log := []

def record (event : MCPEvent) (s : MCPServer σ) : MCPServer σ :=
  { s with log := s.log ++ [event] }

def sendNoResponse (callback : MCPResponseCallback) (s : MCPServer σ) : MCPServer σ :=
  s.record (.replied callback none)

def resultResponse (id : Value) (result : DictValue) : DictValue :=
  ((DictValue.set [] "jsonrpc" (.string "2.0")).set "id" id).set "result" (.dict result)

def sendResult (id : Value) (result : DictValue) (callback : MCPResponseCallback)
    (s : MCPServer σ) : MCPServer σ :=
  s.record (.replied callback (some (resultResponse id result)))

def errorResponse (id : Value) (code : Int32) (message : String) : DictValue :=
  ((DictValue.set [] "jsonrpc" (.string "2.0")).set "id" id).set "error"
    (.dict ((DictValue.set [] "code" (.integer code)).set "message" (.string message)))

def sendError (id : Value) (code : Int32) (message : String) (callback : MCPResponseCallback)
    (s : MCPServer σ) : MCPServer σ :=
  s.record (.replied callback (some (errorResponse id code message)))

/-- The result dictionary `OnToolCallComplete` builds. -/
def toolCallResult (content : ListValue) (isError : Bool) : DictValue :=
  let result := DictValue.set [] "content" (.list content)
  if isError then result.set "isError" (.boolean true) else result

def findTool (s : MCPServer σ) (name : String) : Option (MCPToolDef σ) :=
  s.tools.find? fun tool => tool.name == name

/-- `ExecuteNextToolCall` on a queue given as an argument. The calls back into it from
`OnToolCallComplete`, when a handler completes inside `handler.Run`, and from the unknown-tool
branch run in the same stack, on the queue without its first element. -/
def executeQueue : List PendingToolCall → MCPServer σ → MCPServer σ
  | [], s => { s with toolCallInProgress := false, toolCallQueue := [] }
  | call :: rest, s =>
      let s := { s with toolCallInProgress := true, toolCallQueue := rest }
      if s.hasController = false then
        executeQueue rest
          (s.sendResult call.id (toolCallResult (textContent "No browser controller") true)
            call.responseCallback)
      else
        match s.findTool call.name with
        | some tool =>
            let s := s.record (.invoked call.responseCallback)
            match tool.handler call.args call.resultCallback s.browser with
            | (browser, some (content, isError)) =>
                let s := { s with browser := browser }
                executeQueue rest
                  ((s.record (.completed call.responseCallback)).sendResult call.id
                    (toolCallResult content isError) call.responseCallback)
            | (browser, none) =>
                { s with browser := browser, outstanding := s.outstanding ++ [call.resultCallback] }
        | none =>
            executeQueue rest
              (s.sendError call.id (-32602) ("Unknown tool: " ++ call.name) call.responseCallback)

def executeNextToolCall (s : MCPServer σ) : MCPServer σ :=
  executeQueue s.toolCallQueue s

def onToolCallComplete (id : Value) (callback : MCPResponseCallback) (content : ListValue)
    (isError : Bool) (s : MCPServer σ) : MCPServer σ :=
  (s.sendResult id (toolCallResult content isError) callback).executeNextToolCall

def initializeResult : DictValue :=
  let serverInfo := (DictValue.set [] "name" (.string "browserd")).set "version" (.string "1.0.0")
  let toolsCap := DictValue.set [] "listChanged" (.boolean false)
  let capabilities := DictValue.set [] "tools" (.dict toolsCap)
  ((DictValue.set [] "serverInfo" (.dict serverInfo)).set "protocolVersion"
    (.string "2024-11-05")).set "capabilities" (.dict capabilities)

def handleInitialize (id : Value) (callback : MCPResponseCallback) (s : MCPServer σ) :
    MCPServer σ :=
  { s with initialized := true }.sendResult id initializeResult callback

def toolInfo (tool : MCPToolDef σ) : Value :=
  .dict (((DictValue.set [] "name" (.string tool.name)).set "description"
    (.string tool.description)).set "inputSchema" (.dict tool.inputSchema))

def handleToolsList (id : Value) (callback : MCPResponseCallback) (s : MCPServer σ) :
    MCPServer σ :=
  s.sendResult id (DictValue.set [] "tools" (.list (s.tools.map toolInfo))) callback

def handleToolsCall (params : DictValue) (id : Value) (callback : MCPResponseCallback)
    (s : MCPServer σ) : MCPServer σ :=
  match params.findString "name" with
  | none => s.sendError id (-32602) "Missing tool name" callback
  | some toolName =>
      let args := (params.findDict "arguments").getD []
      let call : PendingToolCall := ⟨toolName, args, id, callback⟩
      let s := { s with toolCallQueue := s.toolCallQueue ++ [call] }.record (.accepted callback)
      if s.toolCallInProgress = false then s.executeNextToolCall else s

def onMessage (message : DictValue) (callback : MCPResponseCallback) (s : MCPServer σ) :
    MCPServer σ :=
  match message.findString "method" with
  | none =>
      match message.find "id" with
      | some id => s.sendError id (-32600) "Invalid Request" callback
      | none => s.sendNoResponse callback
  | some method =>
      let params := (message.findDict "params").getD []
      if method = "initialize" then
        match message.find "id" with
        | some id => s.handleInitialize id callback
        | none => s.sendNoResponse callback
      else if method = "notifications/initialized" then
        { s with initialized := true }.sendNoResponse callback
      else if method = "ping" then
        match message.find "id" with
        | some id => s.sendResult id [] callback
        | none => s.sendNoResponse callback
      else if s.initialized = false then
        match message.find "id" with
        | some id => s.sendError id (-32002) "Server not initialized" callback
        | none => s.sendNoResponse callback
      else if method = "tools/list" then
        match message.find "id" with
        | some id => s.handleToolsList id callback
        | none => s.sendNoResponse callback
      else if method = "tools/call" then
        match message.find "id" with
        | some id => s.handleToolsCall params id callback
        | none => s.sendNoResponse callback
      else
        match message.find "id" with
        | some id => s.sendError id (-32601) ("Method not found: " ++ method) callback
        | none => s.sendNoResponse callback

/-- A transport delivers a message, a handler runs the callback it kept for call `callback`, the
host sets the controller, or the browser changes by itself. -/
inductive Input (σ : Type*) where
  | message (message : DictValue)
  | toolResult (callback : MCPResponseCallback) (content : ListValue) (isError : Bool)
  | setController (present : Bool)
  | browserChange (browser : σ)

/-- A kept callback is one-shot: running it takes it out of `outstanding`. -/
def step (s : MCPServer σ) : Input σ → Option (MCPServer σ)
  | .message m =>
      let callback := (receivedMessages s.log).length
      some ((s.record (.received m)).onMessage m callback)
  | .toolResult c content isError =>
      match s.outstanding.find? fun cb => cb.responseCallback == c with
      | some cb =>
          some (({ s with
            outstanding := s.outstanding.eraseP fun cb => cb.responseCallback == c }.record
              (.completed c)).onToolCallComplete cb.id cb.responseCallback content isError)
      | none => none
  | .setController present => some { s with hasController := present }
  | .browserChange browser => some { s with browser := browser }

end MCPServer

end Browserd
