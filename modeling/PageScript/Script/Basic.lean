import PageScript.Json.Writer
import PageScript.Number.Numeral
import PageScript.Text.Classes

/-! Records: the kind of a command and its parameters, the form that every script syntax comes down
to. A parameter is looked up as text, as a truth value or as a number; null counts as absent. A
script is records in the order of their execution, under a version. -/
namespace PageScript

inductive ValidationError where
  | missing (param : String)
  | wrongType (param expected found : String)
  | outOfRange (param reason : String)
  deriving DecidableEq, Repr

def ValidationError.message : ValidationError → String
  | .missing param => s!"'{param}' parameter is required"
  | .wrongType param expected found => s!"'{param}' must be {expected}, got: {found}"
  | .outOfRange param reason => s!"'{param}' {reason}"

structure Record where
  kind : String
  params : Json.Members
  deriving BEq, Repr, Inhabited

namespace Record

def kindKey : String := "command"

def ofKind (kind : String) : Record := ⟨kind, []⟩

def set (record : Record) (key : String) (value : Json) : Record :=
  { record with params := record.params.insert key value }

def get? (record : Record) (key : String) : Option Json :=
  (record.params.get? key).filter (!·.isNull)

def text? (record : Record) (key : String) : Except ValidationError (Option String) :=
  match record.get? key with
  | none => .ok none
  | some (.string s) => .ok (some s)
  | some other => .error (.wrongType key "a string" other.compact)

def flag? (record : Record) (key : String) : Except ValidationError (Option Bool) :=
  match record.get? key with
  | none => .ok none
  | some (.bool b) => .ok (some b)
  | some other => .error (.wrongType key "a boolean" other.compact)

def numberOf? : Json → Option Double
  | .number n => n.toDouble?
  | .string s => Double.read? (Text.trim s.toList)
  | _ => none

def number? (record : Record) (key : String) : Except ValidationError (Option Double) :=
  match record.get? key with
  | none => .ok none
  | some value => match numberOf? value with
    | some x => .ok (some x)
    | none => .error (.wrongType key "a number" value.compact)

def toJson (record : Record) : Json := .object ((kindKey, .string record.kind) :: record.params)

def compact (record : Record) : String := record.toJson.compact

def describe (record : Record) : String := s!"{record.kind}({(Json.object record.params).compact})"

end Record

/-! ### Kinds that every registry of built-ins knows -/

def navigateKind : String := "navigate"

def pauseKind : String := "pause"

def saveMarkupKind : String := "save_markup"

def saveTextKind : String := "save_text"

/-! ### Scripts -/

structure Script where
  version : String
  commands : List Record
  deriving BEq, Repr

namespace Script

def defaultVersion : String := "1.0"

def ofRecords (commands : List Record) : Script := ⟨defaultVersion, commands⟩

instance : Inhabited Script := ⟨ofRecords []⟩

def versionKey : String := "version"

def commandsKey : String := "commands"

def toJson (script : Script) : Json :=
  .object [(versionKey, .string script.version),
    (commandsKey, .array (script.commands.map Record.toJson))]

def pretty (script : Script) : String := script.toJson.pretty

end Script

end PageScript
