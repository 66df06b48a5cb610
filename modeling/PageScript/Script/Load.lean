import PageScript.Files.Tree
import PageScript.Script.Lines
import PageScript.Script.Structured

/-! Scripts as texts and as files: the two syntaxes, which of them a path asks for, and what can go
wrong with a script as a whole. -/
namespace PageScript

inductive ScriptFormat where
  | structured
  | lines
  deriving DecidableEq, Repr

def ScriptFormat.ofPath (path : String) : ScriptFormat :=
  match Path.extension? path with
  | some extension => if Text.lowerAscii extension = "json" then .structured else .lines
  | none => .lines

inductive ScriptError where
  | absent (path : String)
  | inaccessible (path : String) (cause : FileFault)
  | json (fault : Json.Fault)
  | shape (fault : ShapeFault)
  | lines (errors : List LineError)
  deriving DecidableEq, Repr

def joinLines (lines : List String) : String := "\n".intercalate lines

def ScriptError.message : ScriptError → String
  | .absent path => s!"script file not found: {path}"
  | .inaccessible path cause => s!"failed to access {path}: {cause.message}"
  | .json fault => s!"invalid JSON: {fault.category}"
  | .shape fault => fault.message
  | .lines errors => joinLines (errors.map LineError.message)

def ScriptError.cause? : ScriptError → Option String
  | .inaccessible _ cause => some cause.message
  | .json fault => some fault.category
  | _ => none

namespace ParsedScript

def ofJson (value : Json) : Except ScriptError ParsedScript :=
  (StructuredScript.ofJson value).mapError .shape

def parse (format : ScriptFormat) (text : String) : Except ScriptError ParsedScript :=
  match format with
  | .structured => do ofJson (← (Json.read text).mapError .json)
  | .lines => ((LineScript.parse text).mapError .lines).map ofScript

def load (tree : FileTree) (path : String) : Except ScriptError ParsedScript :=
  match tree.readText path with
  | .error .absent => .error (.absent path)
  | .error cause => .error (.inaccessible path cause)
  | .ok text => ParsedScript.parse (.ofPath path) text

end ParsedScript

end PageScript
