import PageScript.Json.Shape
import PageScript.Run.Control

/-! What stands between requests and the handlers of the dashboard. The dashboard brings a table of
routes and the shape of a payload. The gateway finds the handler of a request among the routes and
reads the payload for it, or answers without a handler; and it sends what a handler answers.
Requests are known only by what the gateway tells of them, so they may be of any type.

The payload of a control request is an object with an action, other members being passed over, or an
array of one action. An action is a word, or an object with the word as its only key and null. -/
namespace PageScript.Dashboard

/-! ### Payloads -/

section
open Json

def actionOf? (word : String) : Option ControlAction :=
  if word = "pause" then some .pause
  else if word = "resume" then some .resume
  else if word = "stop" then some .stop
  else none

def readWordAction (cs : List Char) : Except Fault (Taken ControlAction) := do
  let (word, rest) ← wantString cs
  match actionOf? word with
  | some action => .ok (action, rest)
  | none => .error .mistyped

def readKeyAction (cs : List Char) : Except Fault (Taken ControlAction) := do
  let (action, rest) ← readWordAction cs
  let rest ← wantNull (← readColon rest)
  match skipSpace rest with
  | [] => .error .truncated
  | c :: rest => if c = '}' then .ok (action, rest) else .error .malformed

def readAction (cs : List Char) : Except Fault (Taken ControlAction) :=
  match skipSpace cs with
  | [] => .error .truncated
  | c :: rest =>
    if c = '"' then readWordAction (c :: rest)
    else if c = '{' then readKeyAction rest
    else .error .malformed

def actionKey : String := "action"

def readPayload (body : String) : Except Fault ControlAction := readField actionKey readAction body

end

/-! ### Routes -/

inductive Method where
  | get
  | head
  | post
  | other (name : String)
  deriving DecidableEq, Repr

def Method.ofName (name : String) : Method :=
  if name = "GET" then .get
  else if name = "HEAD" then .head
  else if name = "POST" then .post
  else .other name

structure Status where
  code : Nat
  deriving DecidableEq, Repr

namespace Status

def ok : Status := ⟨200⟩

def noContent : Status := ⟨204⟩

def badRequest : Status := ⟨400⟩

def notFound : Status := ⟨404⟩

def methodNotAllowed : Status := ⟨405⟩

def contentTooLarge : Status := ⟨413⟩

def unsupportedMediaType : Status := ⟨415⟩

def unprocessable : Status := ⟨422⟩

end Status

structure Response where
  status : Status
  contentType : Option String := none
  body : String := ""
  subscription : Option Nat := none
  deriving DecidableEq, Repr

inductive Handler where
  | document
  | events
  | control
  | icon
  deriving DecidableEq, Repr

structure Route where
  path : String
  method : Method
  handler : Handler
  deriving DecidableEq, Repr

def routes : List Route :=
  [⟨"/", .get, .document⟩, ⟨"/events", .get, .events⟩, ⟨"/control", .post, .control⟩,
    ⟨"/favicon.ico", .get, .icon⟩]

/-- Head requests go where get requests go. -/
def Route.takes (route : Route) (method : Method) : Bool :=
  method = route.method || (method = .head && route.method = .get)

/-! ### The gateway -/

structure Gateway (α : Type) where
  method : α → Method
  /-- Without the query. -/
  path : α → String
  contentType : α → Option ByteArray
  /-- None when the body breaks off. -/
  body : α → Option ByteArray
  dispatch : List Route → α → Except Response Handler
  payload : α → Except Response ControlAction
  deliver : α → Response → Response

def jsonType : String := "application/json"

/-- In bytes, where no other limit is set. -/
def bodyLimit : Nat := 2 * 1024 * 1024

end PageScript.Dashboard
