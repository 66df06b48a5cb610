import PageScript.Json.Value

/-! The flags and counters that a run shares with whoever steers it, and what the outside does to
them. -/
namespace PageScript

inductive ControlAction where
  | pause
  | resume
  | stop
  deriving DecidableEq, Repr

structure Control where
  running : Bool := false
  paused : Bool := false
  current : Nat := 0
  total : Nat := 0
  deriving DecidableEq, Repr, Inhabited

structure Progress where
  currentIndex : Nat
  total : Nat
  isRunning : Bool
  deriving DecidableEq, Repr

def Progress.toJson (p : Progress) : Json :=
  .object [("current_index", .ofNat p.currentIndex), ("total", .ofNat p.total),
    ("is_running", .bool p.isRunning)]

namespace Control

def apply (control : Control) : ControlAction → Control
  | .pause => { control with paused := true }
  | .resume => { control with paused := false }
  | .stop => { control with running := false }

def applyAll (control : Control) (actions : List ControlAction) : Control :=
  actions.foldl apply control

def progress (control : Control) : Progress :=
  ⟨control.current, control.total, control.running⟩

end Control

/-- A moment at which the outside can act on a run. Between two accesses of the run to its flags it
makes no difference when an action comes. -/
inductive Moment where
  /-- Before the access of this number to the flags. -/
  | access (number : Nat)
  /-- After the draining of events of this number, counted by the surface. -/
  | poll (number : Nat)
  /-- After the command of this index was announced. -/
  | announced (index : Nat)
  deriving DecidableEq, Repr

abbrev Outside := Moment → List ControlAction

def Outside.quiet : Outside := fun _ => []

end PageScript
