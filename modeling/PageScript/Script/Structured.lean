import PageScript.Json.Shape
import PageScript.Script.Basic

/-! Structured syntax: a JSON object with a list of commands. An entry that is no record is rejected
under its place in the list, and the others stay. -/
namespace PageScript

inductive EntryFault where
  | notObject (entry : Json)
  | kindMissing
  | kindNotText (kind : Json)
  deriving BEq, Repr

def EntryFault.message : EntryFault → String
  | .notObject entry => s!"expected an object, got: {entry.compact}"
  | .kindMissing => "missing 'command' key"
  | .kindNotText kind => s!"'command' must be a non-empty string, got: {kind.compact}"

def loadErrorText (index : Nat) (reason : String) : String :=
  s!"Error loading command {index}: {reason}"

structure Rejection where
  index : Nat
  fault : EntryFault
  deriving BEq, Repr

def Rejection.message (r : Rejection) : String := loadErrorText r.index r.fault.message

structure ParsedScript where
  script : Script
  rejected : List Rejection
  deriving BEq, Repr

def ParsedScript.ofScript (script : Script) : ParsedScript := ⟨script, []⟩

inductive ShapeFault where
  | notObject
  | commandsMissing
  | commandsNotList
  deriving DecidableEq, Repr

def ShapeFault.message : ShapeFault → String
  | .notObject => "script must be a JSON object"
  | .commandsMissing => "JSON must contain 'commands' key"
  | .commandsNotList => "'commands' must be a list"

namespace StructuredScript

def readEntry : Json → Except EntryFault Record
  | .object members =>
    match Json.Members.get? members Record.kindKey with
    | none | some .null => .error .kindMissing
    | some (.string kind) =>
      if kind.isEmpty then .error (.kindNotText (.string kind))
      else .ok ⟨kind, Json.Members.erase members Record.kindKey⟩
    | some other => .error (.kindNotText other)
  | entry => .error (.notObject entry)

/-- Records and rejections of entries, the first of which has the place `index`. -/
def readEntries (index : Nat) : List Json → List Record × List Rejection
  | [] => ([], [])
  | entry :: rest =>
    let (records, rejected) := readEntries (index + 1) rest
    match readEntry entry with
    | .ok record => (record :: records, rejected)
    | .error fault => (records, ⟨index, fault⟩ :: rejected)

def versionOf (members : Json.Members) : String :=
  ((members.get? Script.versionKey).bind Json.string?).getD Script.defaultVersion

def ofJson (value : Json) : Except ShapeFault ParsedScript :=
  match value with
  | .object members =>
    match Json.Members.get? members Script.commandsKey with
    | none => .error .commandsMissing
    | some (.array entries) =>
      let (records, rejected) := readEntries 0 entries
      .ok ⟨⟨versionOf members, records⟩, rejected⟩
    | some _ => .error .commandsNotList
  | _ => .error .notObject

end StructuredScript

end PageScript
