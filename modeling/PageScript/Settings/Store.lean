import PageScript.Files.Tree
import PageScript.Json.Shape

/-! Settings: JSON values under names, read once from a file. A missing file holds no settings. -/
namespace PageScript

inductive SettingsError where
  | unreadable (path : String) (cause : FileFault)
  | invalid (path : String) (fault : Json.Fault)
  deriving DecidableEq, Repr

def SettingsError.message : SettingsError → String
  | .unreadable path cause => s!"failed to read settings from {path}: {cause.message}"
  | .invalid path fault => s!"invalid settings file {path}: {fault.category}"

def SettingsError.cause : SettingsError → String
  | .unreadable _ cause => cause.message
  | .invalid _ fault => fault.category

structure Settings where
  path : Option String
  values : Json.Members
  deriving BEq, Repr

namespace Settings

def ofMembers (values : Json.Members) : Settings := ⟨none, values⟩

def lookup? (settings : Settings) (key : String) : Option Json := settings.values.get? key

def get (settings : Settings) (key : String) (otherwise : Json) : Json :=
  (settings.lookup? key).getD otherwise

def getText (settings : Settings) (key otherwise : String) : String :=
  match settings.lookup? key with
  | some (.string s) => if s.isEmpty then otherwise else s
  | _ => otherwise

def load (tree : FileTree) (path : String) : Except SettingsError Settings :=
  match tree.readText path with
  | .error .absent => .ok ⟨some path, []⟩
  | .error cause => .error (.unreadable path cause)
  | .ok text => match Json.readObject text with
    | .ok values => .ok ⟨some path, values⟩
    | .error fault => .error (.invalid path fault)

end Settings

end PageScript
