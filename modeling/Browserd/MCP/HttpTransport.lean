import Browserd.Base.Strings
import Browserd.Base.WebContents
import Browserd.MCP.Transport

/-!
# The HTTP transport

`MCPHttpTransport` between `net::HttpServer` and the MCP message callback. Requests are checked on
the HTTP thread, messages and replies are posted between it and the main thread.
-/

namespace Browserd

/-- The headers have lower-case names, each once. -/
structure HttpServerRequestInfo where
  method : String
  path : String
  headers : List (String × String)
  data : List UInt8

namespace HttpServerRequestInfo

/-- The empty string where the header is missing. -/
def getHeaderValue (info : HttpServerRequestInfo) (name : String) : String :=
  (info.headers.lookup name).getD ""

end HttpServerRequestInfo

structure HttpServerResponseInfo where
  statusCode : Nat
  headers : List (String × String)
  body : List UInt8
  contentType : String
  deriving DecidableEq

/-- The answer to a request: `request` counts what has come in, `connection` is where it came. -/
structure HttpTicket where
  request : Nat
  connection : Int
  deriving DecidableEq

/-- What the transport is started with. The URL parser and the JSON reader and writer are not its
own. -/
structure MCPHttpTransport where
  parseURL : String → GURL
  json : JSONCodec
  token : String

def isLoopbackOriginHost (host : String) : Bool :=
  host == "127.0.0.1" || host == "::1" || equalsCaseInsensitiveASCII host "localhost"

/-- The media type of an item of an `Accept` header, without its parameters. -/
def mediaTypeOf (item : String) : String :=
  if ';' ∈ item.toList then
    trimString (fun c => c == ' ' || c == '\t') (String.ofList (item.toList.takeWhile (· != ';')))
  else item

def headerContainsMimeType (header expectedType : String) : Bool :=
  (splitString header ',').any fun item =>
    equalsCaseInsensitiveASCII (mediaTypeOf item) expectedType ||
      equalsCaseInsensitiveASCII (mediaTypeOf item) "*/*" ||
      equalsCaseInsensitiveASCII (mediaTypeOf item) "application/*"

/-- A response of the transport. All of them say `Cache-Control: no-store`. -/
def httpResponse (statusCode : Nat) (headers : List (String × String)) (body : List UInt8)
    (contentType : String) : HttpServerResponseInfo where
  statusCode := statusCode
  headers := headers ++ [("Cache-Control", "no-store")]
  body := body
  contentType := contentType

/-- The response of `SendTextResponse` for a plain text. -/
def textResponse (statusCode : Nat) (headers : List (String × String)) (text : String) :
    HttpServerResponseInfo :=
  httpResponse statusCode headers text.toUTF8.toList "text/plain; charset=utf-8"

def notFound : HttpServerResponseInfo := textResponse 404 [] "Not Found"

def forbidden : HttpServerResponseInfo := textResponse 403 [] "Forbidden"

def unauthorized : HttpServerResponseInfo :=
  textResponse 401 [("WWW-Authenticate", "Bearer")] "Unauthorized"

/-- The answer to another method than `POST`. -/
def methodNotAllowed : HttpServerResponseInfo :=
  textResponse 405 [("Allow", "POST")] "Method Not Allowed"

def webSocketNotAllowed : HttpServerResponseInfo := textResponse 405 [] "Method Not Allowed"

def notAcceptable : HttpServerResponseInfo := textResponse 406 [] "Not Acceptable"

def invalidJSON : HttpServerResponseInfo := textResponse 400 [] "Invalid JSON"

namespace MCPHttpTransport

variable (transport : MCPHttpTransport)

def isAuthorized (info : HttpServerRequestInfo) : Bool :=
  let authorization := info.getHeaderValue "authorization"
  if !startsWithInsensitive authorization "Bearer " then false
  else authorization.toList.drop "Bearer ".length == transport.token.toList

def isAllowedOrigin (info : HttpServerRequestInfo) : Bool :=
  let origin := info.getHeaderValue "origin"
  if origin.isEmpty then true
  else
    let originURL := transport.parseURL origin
    originURL.isValid && isLoopbackOriginHost originURL.host

def acceptsJson (info : HttpServerRequestInfo) : Bool :=
  headerContainsMimeType (info.getHeaderValue "accept") "application/json"

/-- The response that `SendMCPResponse` makes. -/
def mcpResponse (responseValue : Option DictValue) : HttpServerResponseInfo :=
  match responseValue with
  | none => textResponse 202 [] ""
  | some value =>
      match transport.json.write value with
      | none => textResponse 500 [] "Failed to serialize MCP response"
      | some json => httpResponse 200 [] json "application/json"

end MCPHttpTransport

/-- The transport at work: the tickets given out, the posted messages, the response callbacks that
the MCP server has, the posted replies, the responses sent, and the answers for which the
connection was no longer open. -/
structure HttpRun where
  running : Bool
  openConnections : List Int
  arrived : List HttpTicket
  mainTasks : List (HttpTicket × DictValue)
  callbacks : List HttpTicket
  httpTasks : List (HttpTicket × Option DictValue)
  sent : List (HttpTicket × HttpServerResponseInfo)
  dropped : List HttpTicket

/-- The calls of `net::HttpServer`, the tasks of the two threads, a response callback that the MCP
server runs, and `StopOnHttpThread`. -/
inductive HttpEvent where
  | connect (connection : Int)
  | request (connection : Int) (info : HttpServerRequestInfo)
  | webSocketRequest (connection : Int) (info : HttpServerRequestInfo)
  | webSocketMessage (connection : Int) (data : List UInt8)
  | close (connection : Int)
  | runMainTask
  | runCallback (ticket : HttpTicket) (response : Option DictValue)
  | runHttpTask
  | stop

namespace HttpRun

/-- After `StartOnHttpThread`. -/
def start : HttpRun where
  running := true
  openConnections := []
  arrived := []
  mainTasks := []
  callbacks := []
  httpTasks := []
  sent := []
  dropped := []

/-- The ticket of the next thing that comes in. -/
def ticket (s : HttpRun) (connection : Int) : HttpTicket := ⟨s.arrived.length, connection⟩

/-- Every response is sent only to an open connection. -/
def send (ticket : HttpTicket) (response : HttpServerResponseInfo) (s : HttpRun) : HttpRun :=
  if ticket.connection ∈ s.openConnections then { s with sent := s.sent ++ [(ticket, response)] }
  else { s with dropped := s.dropped ++ [ticket] }

def arrive (ticket : HttpTicket) (s : HttpRun) : HttpRun :=
  { s with arrived := s.arrived ++ [ticket] }

def onHttpRequest (transport : MCPHttpTransport) (ticket : HttpTicket)
    (info : HttpServerRequestInfo) (s : HttpRun) : HttpRun :=
  if info.path != "/mcp" then s.send ticket notFound
  else if !transport.isAllowedOrigin info then s.send ticket forbidden
  else if !transport.isAuthorized info then s.send ticket unauthorized
  else if info.method != "POST" then s.send ticket methodNotAllowed
  else if !MCPHttpTransport.acceptsJson info then s.send ticket notAcceptable
  else
    match transport.json.readDict info.data with
    | none => s.send ticket invalidJSON
    | some message => { s with mainTasks := s.mainTasks ++ [(ticket, message)] }

def step (transport : MCPHttpTransport) (s : HttpRun) : HttpEvent → Option HttpRun
  | .connect connection =>
      if s.running then
        some { s with openConnections := connection :: s.openConnections.erase connection }
      else none
  | .request connection info =>
      if s.running then
        some ((s.arrive (s.ticket connection)).onHttpRequest transport (s.ticket connection) info)
      else none
  | .webSocketRequest connection _ =>
      if s.running then
        some ((s.arrive (s.ticket connection)).send (s.ticket connection) webSocketNotAllowed)
      else none
  | .webSocketMessage connection _ =>
      if s.running then
        some ((s.arrive (s.ticket connection)).send (s.ticket connection) webSocketNotAllowed)
      else none
  | .close connection =>
      if s.running then
        some { s with openConnections := s.openConnections.filter (· != connection) }
      else none
  | .runMainTask =>
      match s.mainTasks with
      | [] => none
      | (ticket, _) :: rest =>
          some { s with mainTasks := rest, callbacks := s.callbacks ++ [ticket] }
  | .runCallback ticket response =>
      if ticket ∈ s.callbacks then
        some { s with
          callbacks := s.callbacks.erase ticket
          httpTasks := s.httpTasks ++ [(ticket, response)] }
      else none
  | .runHttpTask =>
      match s.httpTasks with
      | [] => none
      | (ticket, response) :: rest =>
          some ({ s with httpTasks := rest }.send ticket (transport.mcpResponse response))
  | .stop => some { s with running := false, openConnections := [] }

end HttpRun

end Browserd
