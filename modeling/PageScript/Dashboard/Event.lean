import PageScript.Json.Shape
import PageScript.Json.Writer
import PageScript.Run.Context

/-! What the dashboard publishes about a run, and the event stream that carries it: the name of the
event, its data with a mark before every line, and an empty line. Between a run and those who follow
it stands a channel. A follower gets the events sent after it came; of those it has not got, only
the newest are kept. -/
namespace PageScript.Dashboard

inductive RunEvent where
  | progress (index total : Nat) (description : String)
  | log (level : LogLevel) (line : String)
  | finished (success : Bool) (summary : String)
  deriving DecidableEq, Repr

namespace RunEvent

def name : RunEvent → String
  | .progress .. => "progress"
  | .log .. => "log"
  | .finished .. => "finished"

def data : RunEvent → Json
  | .progress index total description =>
    .object [("index", .ofNat index), ("total", .ofNat total), ("description", .string description)]
  | .log level line => .object [("level", .string level.name), ("line", .string line)]
  | .finished success summary =>
    .object [("success", .bool success), ("summary", .string summary)]

def ofNotice : Notice → RunEvent
  | .entry _ entry => .log entry.level entry.line
  | .progress index total description _ => .progress index total description

end RunEvent

structure StreamEvent where
  name : List Char
  data : List Char
  deriving DecidableEq, Repr

namespace StreamEvent

def dataLines : List Char → List (List Char)
  | [] => [[]]
  | c :: rest =>
    if c = '\n' then [] :: dataLines rest
    else match dataLines rest with
      | [] => [[c]]
      | line :: others => (c :: line) :: others

def field (key value : List Char) : List Char := key ++ ':' :: ' ' :: value ++ ['\n']

def eventKey : List Char := "event".toList

def dataKey : List Char := "data".toList

def block (e : StreamEvent) : List Char :=
  field eventKey e.name ++ (dataLines e.data).flatMap (field dataKey)

def encode (e : StreamEvent) : List Char := e.block ++ ['\n']

def encodeAll (events : List StreamEvent) : List Char := events.flatMap encode

/-! ### Reading a stream -/

/-- Lines of a stream; a carriage return ends a line as a line feed does, and both together end one.
-/
def streamLines (current : List Char) : List Char → List (List Char)
  | [] => if current.isEmpty then [] else [current.reverse]
  | '\r' :: '\n' :: rest => current.reverse :: streamLines [] rest
  | c :: rest =>
    if c = '\n' || c = '\r' then current.reverse :: streamLines [] rest
    else streamLines (c :: current) rest

/-- The field of a line and its value, without the one space that may stand before it. -/
def lineField (line : List Char) : List Char × List Char :=
  let key := line.takeWhile (· ≠ ':')
  match line.dropWhile (· ≠ ':') with
  | ':' :: ' ' :: value => (key, value)
  | ':' :: value => (key, value)
  | _ => (key, [])

structure Pending where
  name : List Char := []
  data : Option (List Char) := none

def Pending.accept (p : Pending) (line : List Char) : Pending :=
  let (key, value) := lineField line
  if key = eventKey then { p with name := value }
  else if key = dataKey then
    { p with data := some (match p.data with
        | some data => data ++ '\n' :: value
        | none => value) }
  else p

def collect (p : Pending) : List (List Char) → List StreamEvent
  | [] => []
  | [] :: rest => match p.data with
    | some data => ⟨p.name, data⟩ :: collect {} rest
    | none => collect {} rest
  | line :: rest => collect (p.accept line) rest

def decode (stream : List Char) : List StreamEvent := collect {} (streamLines [] stream)

end StreamEvent

def RunEvent.toStream (e : RunEvent) : StreamEvent :=
  ⟨e.name.toList, e.data.compact.toList⟩

/-- The events that a run publishes: what happened from the point where the sink was set, and the
end of the run. -/
def published (notices : List Notice) (clean : Bool) (summary : String) : List RunEvent :=
  notices.map .ofNotice ++ [.finished clean summary]

/-! ### The channel -/

def capacity : Nat := 256

structure Channel where
  sent : Array RunEvent := #[]
  /-- For each subscription the number of events that it has got or will not get; none when it was
  given up. -/
  positions : List (Option Nat) := []
  deriving Repr, Inhabited

namespace Channel

def send (channel : Channel) (event : RunEvent) : Channel :=
  { channel with sent := channel.sent.push event }

def subscribe (channel : Channel) : Nat × Channel :=
  (channel.positions.length,
    { channel with positions := channel.positions ++ [some channel.sent.size] })

def unsubscribe (channel : Channel) (n : Nat) : Channel :=
  { channel with positions := channel.positions.set n none }

def oldest (channel : Channel) (position : Nat) : Nat :=
  max position (channel.sent.size - capacity)

def next (channel : Channel) (n : Nat) : Option (RunEvent × Channel) := do
  let position ← (channel.positions[n]?).join
  let at' := channel.oldest position
  let event ← channel.sent[at']?
  some (event, { channel with positions := channel.positions.set n (some (at' + 1)) })

def take (channel : Channel) (n : Nat) : Nat → List RunEvent × Channel
  | 0 => ([], channel)
  | count + 1 => match channel.next n with
    | none => ([], channel)
    | some (event, channel) =>
      let (events, channel) := take channel n count
      (event :: events, channel)

end Channel

end PageScript.Dashboard
