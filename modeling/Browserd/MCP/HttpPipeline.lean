import Browserd.MCP.HttpContract
import Browserd.MCP.QueueDiscipline

/-!
# The HTTP transport in front of the MCP server

The messages that the transport hands over are those of the server, whose replies go back to the
transport. The server may have other transports too.
-/

namespace Browserd

open Transition

namespace MCPServer

variable {σ : Type*}

/-- The calls that wait for their answers, in the order in which they get them. -/
def pendingCalls (s : MCPServer σ) : List MCPResponseCallback := s.outstandingCalls ++ s.queuedCalls

/-- `OnMessage` answers the message itself instead of queuing a call. -/
def answersAtOnce (s : MCPServer σ) (message : DictValue) : Bool :=
  !(s.initialized && message.findString "method" == some "tools/call" &&
    (message.find "id").isSome &&
    (((message.findDict "params").getD []).findString "name").isSome)

end MCPServer

/-- The tickets of a connection. -/
def HttpTicket.on (connection : Int) (tickets : List HttpTicket) : List HttpTicket :=
  tickets.filter fun ticket => ticket.connection == connection

/-- The transport, the server, whose message each response callback of the server is from, and all
connections that there have been. A message of another transport has no ticket. -/
structure HttpPipeline (σ : Type*) where
  http : HttpRun
  server : MCPServer σ
  owners : List (Option HttpTicket)
  connected : List Int

/-- `http` is what happens on the HTTP thread, `runMainTask` the next message that the main thread
takes from it, `server` whatever else reaches the server. -/
inductive PipelineEvent (σ : Type*) where
  | http (event : HttpEvent)
  | runMainTask
  | server (input : MCPServer.Input σ)

namespace HttpPipeline

variable {σ : Type*}

def start (tools : List (MCPToolDef σ)) (hasController : Bool) (browser : σ) : HttpPipeline σ where
  http := .start
  server := .init tools hasController browser
  owners := []
  connected := []

/-- `net::HttpServer` numbers its connections, and passes on only what comes in on an open one. The
message tasks and the callbacks belong to the main thread. -/
def promised (s : HttpPipeline σ) : HttpEvent → Bool
  | .connect connection => connection ∉ s.connected
  | .request connection _ | .webSocketRequest connection _ | .webSocketMessage connection _ =>
      connection ∈ s.http.openConnections
  | .close _ | .runHttpTask | .stop => true
  | .runMainTask | .runCallback .. => false

def connectedAfter (s : HttpPipeline σ) : HttpEvent → List Int
  | .connect connection => connection :: s.connected
  | _ => s.connected

/-- The ticket of the message that came with `callback`. -/
def owner (owners : List (Option HttpTicket)) (callback : MCPResponseCallback) :
    Option HttpTicket :=
  owners[callback]?.join

/-- The server runs a response callback, which posts the reply if it is one of this transport. -/
def runReply (transport : MCPHttpTransport) (owners : List (Option HttpTicket)) (http : HttpRun)
    (reply : MCPResponseCallback × Option DictValue) : HttpRun :=
  match owner owners reply.1 with
  | none => http
  | some ticket => (http.step transport (.runCallback ticket reply.2)).getD http

/-- A step of the server, with the response callbacks that it runs. -/
def serverStep (transport : MCPHttpTransport) (input : MCPServer.Input σ)
    (added : List (Option HttpTicket)) (s : HttpPipeline σ) : Option (HttpPipeline σ) :=
  (s.server.step input).map fun server =>
    let owners := s.owners ++ added
    let replies := (sentReplies server.log).drop (sentReplies s.server.log).length
    { s with
      http := replies.foldl (runReply transport owners) s.http
      server := server
      owners := owners }

def step (transport : MCPHttpTransport) (s : HttpPipeline σ) :
    PipelineEvent σ → Option (HttpPipeline σ)
  | .http event =>
      if s.promised event then
        (s.http.step transport event).map fun http =>
          { s with http := http, connected := s.connectedAfter event }
      else none
  | .runMainTask =>
      match s.http.mainTasks with
      | [] => none
      | (ticket, message) :: _ =>
          (s.http.step transport .runMainTask).bind fun http =>
            serverStep transport (.message message) [some ticket] { s with http := http }
  | .server input =>
      s.serverStep transport input (match input with
        | .message _ => [none]
        | _ => [])

/-- The responses on a connection answer the first requests that came in on it, one by one. -/
def Ordered (s : HttpPipeline σ) : Prop :=
  ∀ connection, HttpTicket.on connection (s.http.sent.map Prod.fst) <+:
    HttpTicket.on connection s.http.arrived

/-- No request of the connection is still to be answered. -/
def idle (s : HttpPipeline σ) (connection : Int) : Bool :=
  (HttpTicket.on connection (s.http.mainTasks.map Prod.fst)).isEmpty &&
    (HttpTicket.on connection s.http.callbacks).isEmpty &&
    (HttpTicket.on connection (s.http.httpTasks.map Prod.fst)).isEmpty

/-- Nothing is refused while an earlier request of its connection is to be answered, and `OnMessage`
answers nothing at once while an earlier tool call of its connection is in the queue. -/
def inTurn (transport : MCPHttpTransport) (s : HttpPipeline σ) : PipelineEvent σ → Bool
  | .http (.request connection info) => (transport.refusal info).isNone || s.idle connection
  | .http (.webSocketRequest connection _) | .http (.webSocketMessage connection _) =>
      s.idle connection
  | .runMainTask =>
      match s.http.mainTasks with
      | [] => true
      | (ticket, message) :: _ =>
          !s.server.answersAtOnce message ||
            (HttpTicket.on ticket.connection s.http.callbacks).isEmpty
  | _ => true

end HttpPipeline

end Browserd
