import PageScript.Run.Context
import PageScript.Script.Basic

/-! What a command is: a kind, a record that it can be built from again, a description and an action
on the context of a run. -/
namespace PageScript

inductive ExecutionError where
  | noSurface
  | noPage
  | navigation (url : String) (cause : SurfaceError)
  | extraction (what : String) (cause : SurfaceError)
  | io (path : String) (cause : FileFault)
  deriving DecidableEq, Repr

def ExecutionError.message : ExecutionError → String
  | .noSurface => "no browser window available"
  | .noPage => "no active page available"
  | .navigation url cause => s!"failed to load URL {url}: {cause.text}"
  | .extraction what cause => s!"failed to extract page {what}: {cause.text}"
  | .io path cause => s!"failed to write {path}: {cause.message}"

abbrev Outcome := Context × Except ExecutionError Unit

class Command (κ : Type) where
  kind : κ → String
  toRecord : κ → Record
  describe : κ → String := fun command => (toRecord command).describe
  execute : κ → Context → Outcome

namespace Context

def shownPage (ctx : Context) : Except ExecutionError (Surface × Page) :=
  match ctx.surface with
  | none => .error .noSurface
  | some surface => match surface.page? with
    | none => .error .noPage
    | some page => .ok (surface, page)

def makeDirectory (ctx : Context) (path : String) : Outcome :=
  let (files, result) := ctx.files.makeDirectories path
  ({ ctx with files }, result.mapError (.io path))

def writeFile (ctx : Context) (path text : String) : Outcome :=
  match ctx.files.writeText path text with
  | .ok files => ({ ctx with files }, .ok ())
  | .error cause => (ctx, .error (.io path cause))

end Context

end PageScript
