import PageScript.Command.Navigate
import PageScript.Command.Pause
import PageScript.Command.SaveMarkup
import PageScript.Command.SaveText

/-! The built-in commands as one type. -/
namespace PageScript

inductive Builtin where
  | navigate (command : Navigate)
  | pause (command : Pause)
  | saveMarkup (command : SaveMarkup)
  | saveText (command : SaveText)
  deriving DecidableEq, Repr

abbrev Factory (κ : Type) := Record → Except ValidationError κ

namespace Builtin

def factories : List (String × Factory Builtin) := [
  (navigateKind, fun record => (Navigate.ofRecord record).map navigate),
  (pauseKind, fun record => (Pause.ofRecord record).map pause),
  (saveMarkupKind, fun record => (SaveMarkup.ofRecord record).map saveMarkup),
  (saveTextKind, fun record => (SaveText.ofRecord record).map saveText)]

instance : Command Builtin where
  kind
    | navigate c => Command.kind c
    | pause c => Command.kind c
    | saveMarkup c => Command.kind c
    | saveText c => Command.kind c
  toRecord
    | navigate c => Command.toRecord c
    | pause c => Command.toRecord c
    | saveMarkup c => Command.toRecord c
    | saveText c => Command.toRecord c
  describe
    | navigate c => Command.describe c
    | pause c => Command.describe c
    | saveMarkup c => Command.describe c
    | saveText c => Command.describe c
  execute
    | navigate c => Command.execute c
    | pause c => Command.execute c
    | saveMarkup c => Command.execute c
    | saveText c => Command.execute c

end Builtin

class HasBuiltins (κ : Type) where
  ofBuiltin : Builtin → κ

instance : HasBuiltins Builtin := ⟨id⟩

end PageScript
