/-! An in-memory surface for rehearsals. Any number of handles share one stage: the pages to be
served, the visits, the listeners and the pending load. A handle has its own load behaviour and
shows the page of its last visit. -/
namespace PageScript

structure Page where
  url : String
  markup : String
  text : String
  deriving DecidableEq, Repr

def Page.placeholder (url : String) : Page where
  url := url
  markup := s!"<html><head><title>{url}</title></head><body>Content from {url}</body></html>"
  text := s!"Content from {url}"

inductive LoadBehavior where
  /-- With the poll of this number after the visit began; with the visit itself where it is zero. -/
  | afterPolls (polls : Nat)
  | never
  deriving DecidableEq, Repr

abbrev ListenerId := Nat

structure Signal where
  listener : ListenerId
  success : Bool
  deriving DecidableEq, Repr

structure Stage where
  pages : List (String × Page) := []
  failing : List (String × String) := []
  visits : List String := []
  listeners : List ListenerId := []
  nextListener : ListenerId := 0
  pendingLoad : Option Nat := none
  polls : Nat := 0
  deriving DecidableEq, Repr, Inhabited

structure Handle where
  load : LoadBehavior := .afterPolls 0
  shown : Option Page := none
  deriving DecidableEq, Repr, Inhabited

namespace Stage

def withPage (stage : Stage) (url markup text : String) : Stage :=
  { stage with pages := (url, ⟨url, markup, text⟩) :: stage.pages }

def failingOn (stage : Stage) (url message : String) : Stage :=
  { stage with failing := (url, message) :: stage.failing }

def page (stage : Stage) (url : String) : Page :=
  (stage.pages.lookup url).getD (.placeholder url)

def signals (stage : Stage) (success : Bool) : List Signal :=
  stage.listeners.map (⟨·, success⟩)

def connect (stage : Stage) : ListenerId × Stage :=
  (stage.nextListener, { stage with
    listeners := stage.listeners ++ [stage.nextListener]
    nextListener := stage.nextListener + 1 })

def disconnect (stage : Stage) (id : ListenerId) : Stage :=
  { stage with listeners := stage.listeners.filter (· ≠ id) }

/-- One draining of events. A pending load counts down to its signal. -/
def poll (stage : Stage) : Stage × List Signal :=
  let stage := { stage with polls := stage.polls + 1 }
  match stage.pendingLoad with
  | none => (stage, [])
  | some remaining =>
    if remaining ≤ 1 then
      ({ stage with pendingLoad := none }, stage.signals true)
    else ({ stage with pendingLoad := some (remaining - 1) }, [])

def beginLoad (stage : Stage) : LoadBehavior → Stage × List Signal
  | .never => ({ stage with pendingLoad := none }, [])
  | .afterPolls 0 => ({ stage with pendingLoad := none }, stage.signals true)
  | .afterPolls polls => ({ stage with pendingLoad := some polls }, [])

end Stage

/-- A visit through a handle. One that fails is remembered, and changes nothing else. -/
inductive Visit where
  | failed (message : String) (stage : Stage)
  | reached (handle : Handle) (stage : Stage) (signals : List Signal)

def Handle.navigate (handle : Handle) (stage : Stage) (url : String) : Visit :=
  let stage := { stage with visits := stage.visits ++ [url] }
  match stage.failing.lookup url with
  | some message => .failed message stage
  | none =>
    let (after, signals) := stage.beginLoad handle.load
    .reached { handle with shown := some (stage.page url) } after signals

end PageScript
