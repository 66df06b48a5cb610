import PageScript.Surface.Memory

/-! The surface that commands drive: a handle on a stage, with faults for a rehearsal to meet. -/
namespace PageScript

inductive SurfaceError where
  | message (text : String)
  | backend (text : String)
  deriving DecidableEq, Repr

def SurfaceError.text : SurfaceError → String
  | .message text => text
  | .backend text => text

structure Faults where
  loadFails : Bool := false
  markup : Option String := none
  text : Option String := none
  fromBackend : Bool := false
  deriving DecidableEq, Repr, Inhabited

structure Surface where
  handle : Handle := {}
  stage : Stage := {}
  faults : Faults := {}
  deriving DecidableEq, Repr, Inhabited

namespace Surface

def error (surface : Surface) (text : String) : SurfaceError :=
  if surface.faults.fromBackend then .backend text else .message text

def told (surface : Surface) (signals : List Signal) : List Signal :=
  signals.map fun s => { s with success := s.success && !surface.faults.loadFails }

def navigate (surface : Surface) (url : String) :
    Surface × Except SurfaceError (List Signal) :=
  match surface.handle.navigate surface.stage url with
  | .failed message stage => ({ surface with stage }, .error (surface.error message))
  | .reached handle stage signals => ({ surface with handle, stage }, .ok (surface.told signals))

def connect (surface : Surface) : ListenerId × Surface :=
  let (id, stage) := surface.stage.connect
  (id, { surface with stage })

def disconnect (surface : Surface) (id : ListenerId) : Surface :=
  { surface with stage := surface.stage.disconnect id }

def poll (surface : Surface) : Surface × List Signal :=
  let (stage, signals) := surface.stage.poll
  ({ surface with stage }, surface.told signals)

def page? (surface : Surface) : Option Page := surface.handle.shown

def extract (surface : Surface) (fault : Option String) (content : String) :
    Except SurfaceError String :=
  match fault with
  | some message => .error (surface.error message)
  | none => .ok content

def markup (surface : Surface) (page : Page) : Except SurfaceError String :=
  surface.extract surface.faults.markup page.markup

def text (surface : Surface) (page : Page) : Except SurfaceError String :=
  surface.extract surface.faults.text page.text

end Surface

end PageScript
