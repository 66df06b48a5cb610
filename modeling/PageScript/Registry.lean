import PageScript.Command.Builtin
import PageScript.Text.Printable

/-! The table of factories that commands are built from, in increasing order of the names. -/
namespace PageScript

inductive RegistryError where
  | duplicate (name : String)
  | unknownCommand (name : String) (available : List String)
  | invalid (kind : String) (cause : ValidationError)
  deriving DecidableEq, Repr

def RegistryError.message : RegistryError → String
  | .duplicate name => s!"command already registered: {name}"
  | .unknownCommand name available =>
    let names := ", ".intercalate available
    s!"unknown command: {name}; available commands: {names}"
  | .invalid kind cause => s!"invalid '{kind}' command: {cause.message}"

structure Registry (κ : Type) where
  factories : List (String × Factory κ)

namespace Registry

variable {κ : Type}

def empty : Registry κ := ⟨[]⟩

instance : Inhabited (Registry κ) := ⟨empty⟩

def get? (registry : Registry κ) (name : String) : Option (Factory κ) :=
  registry.factories.lookup name

def contains (registry : Registry κ) (name : String) : Bool := (registry.get? name).isSome

def names (registry : Registry κ) : List String := registry.factories.map (·.1)

def size (registry : Registry κ) : Nat := registry.factories.length

def insertSorted (name : String) (factory : Factory κ) :
    List (String × Factory κ) → List (String × Factory κ)
  | [] => [(name, factory)]
  | (other, f) :: rest =>
    if name < other then (name, factory) :: (other, f) :: rest
    else (other, f) :: insertSorted name factory rest

def register (registry : Registry κ) (name : String) (factory : Factory κ) :
    Except RegistryError (Registry κ) :=
  if registry.contains name then .error (.duplicate name)
  else .ok ⟨insertSorted name factory registry.factories⟩

def unregister (registry : Registry κ) (name : String) : Bool × Registry κ :=
  (registry.contains name, ⟨registry.factories.filter (·.1 ≠ name)⟩)

def registerMissing (registry : Registry κ) (name : String) (factory : Factory κ) : Registry κ :=
  match registry.register name factory with
  | .ok registry => registry
  | .error _ => registry

def registerBuiltins [HasBuiltins κ] (registry : Registry κ) : Registry κ :=
  Builtin.factories.foldl (fun registry (name, factory) =>
    registry.registerMissing name fun record => (factory record).map HasBuiltins.ofBuiltin) registry

def builtins [HasBuiltins κ] : Registry κ := empty.registerBuiltins

def create (registry : Registry κ) (name : String) (record : Record) : Except RegistryError κ :=
  match registry.get? name with
  | none => .error (.unknownCommand name registry.names)
  | some factory => (factory record).mapError (.invalid name)

def build (registry : Registry κ) (record : Record) : Except RegistryError κ :=
  registry.create record.kind record

def describe (registry : Registry κ) : String :=
  "Registry \x7b commands: [" ++ ", ".intercalate (registry.names.map Text.quoted) ++ "] \x7d"

end Registry

structure GlobalRegistry (κ : Type) where
  installed : Option (Registry κ) := none

namespace GlobalRegistry

variable {κ : Type}

/-- The registry in place; where none is, the built-ins are put there. -/
def get [HasBuiltins κ] (global : GlobalRegistry κ) : Registry κ × GlobalRegistry κ :=
  match global.installed with
  | some registry => (registry, global)
  | none => (.builtins, ⟨some .builtins⟩)

def install (global : GlobalRegistry κ) (registry : Registry κ) :
    Except (Registry κ) (GlobalRegistry κ) :=
  match global.installed with
  | some _ => .error registry
  | none => .ok ⟨some registry⟩

end GlobalRegistry

end PageScript
