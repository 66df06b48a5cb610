import PageScript.Dashboard.Event
import PageScript.Dashboard.Document
import PageScript.Dashboard.Gateway
import PageScript.Dashboard.MediaType

/-! The dashboard: what its handlers do with the requests that a gateway brings them, and the ports
at which it may stand. A request can steer the run by an action, and can subscribe to the events;
all others change nothing. -/
namespace PageScript.Dashboard

/-! ### Ports -/

def lastPort : Nat := 65535

/-- Ten ports, the last port there is not being among them. -/
def candidates (first : Nat) : List Nat :=
  List.range' first (min (first + 10) lastPort - first)

def choosePort (canBind : Nat → Bool) (first : Nat) : Option Nat :=
  (candidates first).find? canBind

def noPortMessage (first : Nat) : String :=
  s!"could not bind the dashboard to any port from {first}"

/-! ### Handlers -/

structure Server where
  control : Control := {}
  channel : Channel := {}

namespace Server

variable {α : Type} (gateway : Gateway α)

def steer (server : Server) (action : ControlAction) : Server :=
  { server with control := server.control.apply action }

def answerAction (server : Server) (action : ControlAction) : Server × Response :=
  let server := server.steer action
  (server, {
    status := .ok
    contentType := some jsonType
    body := server.control.progress.toJson.compact })

def answerControl (server : Server) (request : α) : Server × Response :=
  match gateway.payload request with
  | .error refusal => (server, { refusal with subscription := none })
  | .ok action => server.answerAction action

def answerEvents (server : Server) : Server × Response :=
  let (n, channel) := server.channel.subscribe
  ({ server with channel }, {
    status := .ok
    contentType := some "text/event-stream"
    subscription := some n })

def handle (server : Server) (request : α) : Handler → Server × Response
  | .document => (server, {
      status := .ok
      contentType := some "text/html; charset=utf-8"
      body := Document.html })
  | .events => server.answerEvents
  | .control => server.answerControl gateway request
  | .icon => (server, { status := .noContent })

/-- A stream that is not sent is given up. -/
def release (server : Server) (made sent : Response) : Server :=
  match made.subscription, sent.subscription with
  | some n, none => { server with channel := server.channel.unsubscribe n }
  | _, _ => server

def serve (server : Server) (request : α) : Server × Response :=
  match gateway.dispatch routes request with
  | .error refusal => (server, refusal)
  | .ok handler =>
    let (server, made) := server.handle gateway request handler
    let sent := gateway.deliver request made
    (server.release made sent, sent)

end Server

/-! ### A gateway to try the dashboard with -/

/-- A request whose parts are texts; a query may stand behind the path. -/
structure Request where
  method : Method
  path : String
  contentType : Option String := none
  body : String := ""
  deriving DecidableEq, Repr

namespace Request

def place (request : Request) : String :=
  String.ofList (request.path.toList.takeWhile fun c => c ≠ '?' && c ≠ '#')

def dispatch (routes : List Route) (request : Request) : Except Response Handler :=
  match routes.find? (·.path = request.place) with
  | none => .error { status := .notFound }
  | some route =>
    if route.takes request.method then .ok route.handler
    else .error { status := .methodNotAllowed }

def isJson (request : Request) : Bool :=
  let mediaType := request.contentType.bind fun text => MediaType.read? text.toList
  (mediaType.map MediaType.isJson).getD false

def payload (request : Request) : Except Response ControlAction :=
  if !request.isJson then .error { status := .unsupportedMediaType }
  else if bodyLimit < request.body.utf8ByteSize then .error { status := .contentTooLarge }
  else match readPayload request.body with
    | .ok action => .ok action
    | .error .mistyped => .error { status := .unprocessable }
    | .error _ => .error { status := .badRequest }

def deliver (request : Request) (response : Response) : Response :=
  if request.method = .head then { response with body := "", subscription := none } else response

end Request

def Gateway.ofTexts : Gateway Request where
  method := Request.method
  path := Request.place
  contentType request := request.contentType.map String.toUTF8
  body request := some request.body.toUTF8
  dispatch := Request.dispatch
  payload := Request.payload
  deliver := Request.deliver

def Server.answer (server : Server) (request : Request) : Server × Response :=
  server.serve .ofTexts request

end PageScript.Dashboard
