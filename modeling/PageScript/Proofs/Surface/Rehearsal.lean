import PageScript.Proofs.Basic
import PageScript.Surface.Basic

/-! Calls on the handles of one stage. A history holds the calls so far, the latest first. What it
says of visits, listeners and the load under way is read off the calls alone, and the stage and its
handles agree with that after every history (`Agrees`). -/
namespace PageScript

namespace Rehearsal

inductive Operation where
  | clone (copy : Nat)
  | withPage (url markup text : String)
  | failingOn (url message : String)
  | withLoadDelay (polls : Nat)
  | neverFinishLoading
  | navigate (url : String)
  | connect
  | disconnect (id : ListenerId)
  | processEvents
  deriving DecidableEq, Repr

/-- An operation through the handle under a number. A number that no handle was copied to stands for
one that was copied at the very start. -/
structure Call where
  handle : Nat
  operation : Operation
  deriving DecidableEq, Repr

inductive Reply where
  | done
  | refused (message : String)
  | connected (id : ListenerId)
  deriving DecidableEq, Repr

structure Answer where
  reply : Reply := .done
  fired : List Signal := []
  deriving DecidableEq, Repr

end Rehearsal

structure Rehearsal where
  stage : Stage := {}
  handle : Nat → Handle := fun _ => {}

namespace Rehearsal

def setHandle (now : Rehearsal) (number : Nat) (handle : Handle) : Rehearsal :=
  { now with handle := fun other => if other = number then handle else now.handle other }

def perform (now : Rehearsal) (call : Call) : Rehearsal × Answer :=
  let handle := now.handle call.handle
  match call.operation with
  | .clone copy => (now.setHandle copy handle, {})
  | .withPage url markup text => ({ now with stage := now.stage.withPage url markup text }, {})
  | .failingOn url message => ({ now with stage := now.stage.failingOn url message }, {})
  | .withLoadDelay polls =>
    (now.setHandle call.handle { handle with load := .afterPolls polls }, {})
  | .neverFinishLoading => (now.setHandle call.handle { handle with load := .never }, {})
  | .navigate url => match handle.navigate now.stage url with
    | .failed message stage => ({ now with stage }, { reply := .refused message })
    | .reached handle stage fired => ({ now.setHandle call.handle handle with stage }, { fired })
  | .connect =>
    let (id, stage) := now.stage.connect
    ({ now with stage }, { reply := .connected id })
  | .disconnect id => ({ now with stage := now.stage.disconnect id }, {})
  | .processEvents =>
    let (stage, fired) := now.stage.poll
    ({ now with stage }, { fired })

abbrev History := List Call

namespace History

def after : History → Rehearsal
  | [] => {}
  | call :: past => ((after past).perform call).1

/-! ### What a history says -/

def visits : History → List String
  | [] => []
  | call :: past => match call.operation with
    | .navigate url => visits past ++ [url]
    | _ => visits past

def polls : History → Nat
  | [] => 0
  | call :: past => match call.operation with
    | .processEvents => polls past + 1
    | _ => polls past

def connects : History → Nat
  | [] => 0
  | call :: past => match call.operation with
    | .connect => connects past + 1
    | _ => connects past

def refusal? : History → String → Option String
  | [], _ => none
  | call :: past, url => match call.operation with
    | .failingOn failing message => if url = failing then some message else refusal? past url
    | _ => refusal? past url

def page : History → String → Page
  | [], url => .placeholder url
  | call :: past, url => match call.operation with
    | .withPage served markup text => if url = served then ⟨url, markup, text⟩ else page past url
    | _ => page past url

def load : History → Nat → LoadBehavior
  | [], _ => .afterPolls 0
  | call :: past, number => match call.operation with
    | .clone copy => if number = copy then load past call.handle else load past number
    | .withLoadDelay polls => if number = call.handle then .afterPolls polls else load past number
    | .neverFinishLoading => if number = call.handle then .never else load past number
    | _ => load past number

def shown : History → Nat → Option Page
  | [], _ => none
  | call :: past, number => match call.operation with
    | .clone copy => if number = copy then shown past call.handle else shown past number
    | .navigate url =>
      if number = call.handle ∧ refusal? past url = none then some (page past url)
      else shown past number
    | _ => shown past number

/-- Those that were connected and not disconnected since, in the order of their connection.
Listeners are numbered as they are connected. -/
def connected : History → List ListenerId
  | [] => []
  | call :: past => match call.operation with
    | .connect => connected past ++ [connects past]
    | .disconnect id => (connected past).filter (· ≠ id)
    | _ => connected past

/-- The load of the last visit that did not fail, and the number of polls since. -/
def underway : History → Option (LoadBehavior × Nat)
  | [] => none
  | call :: past => match call.operation with
    | .navigate url =>
      if refusal? past url = none then some (load past call.handle, 0) else underway past
    | .processEvents => (underway past).map fun (load, polls) => (load, polls + 1)
    | _ => underway past

/-- A visit that does not fail, where its handle has no delay; or the poll whose number since the
last visit that did not fail is the delay of that visit. -/
def Fires (past : History) (call : Call) : Prop :=
  match call.operation with
  | .navigate url => refusal? past url = none ∧ load past call.handle = .afterPolls 0
  | .processEvents => match underway past with
    | some (.afterPolls delay, polls) => delay = polls + 1
    | _ => False
  | _ => False

instance (past : History) (call : Call) : Decidable (Fires past call) := by
  unfold Fires
  repeat' split
  all_goals infer_instance

/-! ### The state agrees with the history -/

def countdown : Option (LoadBehavior × Nat) → Option Nat
  | some (.afterPolls delay, polls) => if polls < delay then some (delay - polls) else none
  | _ => none

theorem countdownNext (visit : Option (LoadBehavior × Nat)) :
    countdown (visit.map fun (load, polls) => (load, polls + 1)) = match countdown visit with
      | none => none
      | some remaining => if remaining ≤ 1 then none else some (remaining - 1) := by
  match visit with
  | none => rfl
  | some (.never, _) => rfl
  | some (.afterPolls delay, polls) =>
    simp only [countdown, Option.map_some]
    by_cases waiting : polls < delay
    · rw [if_pos waiting]
      simp only
      by_cases last : delay = polls + 1
      · rw [if_neg (by omega), if_pos (by omega)]
      · rw [if_pos (by omega), if_neg (by omega), Nat.sub_sub]
    · rw [if_neg waiting, if_neg (by omega)]

structure Agrees (past : History) (now : Rehearsal) : Prop where
  visits : now.stage.visits = visits past
  polls : now.stage.polls = polls past
  listeners : now.stage.listeners = connected past
  nextListener : now.stage.nextListener = connects past
  refusal : ∀ url, now.stage.failing.lookup url = refusal? past url
  page : ∀ url, now.stage.page url = page past url
  pendingLoad : now.stage.pendingLoad = countdown (underway past)
  handle : ∀ number, now.handle number = ⟨load past number, shown past number⟩

theorem agreesStart : Agrees [] {} :=
  ⟨rfl, rfl, rfl, rfl, fun _ => rfl, fun _ => rfl, rfl, fun _ => rfl⟩

section
variable {past : History} {now : Rehearsal}

theorem pollPending (agrees : Agrees past now) : now.stage.poll.1 = { now.stage with
    polls := polls past + 1
    pendingLoad := countdown ((underway past).map fun (load, polls) => (load, polls + 1)) } := by
  unfold Stage.poll
  rw [← agrees.polls, countdownNext, agrees.pendingLoad]
  cases countdown (underway past) with
  | none => rfl
  | some remaining =>
    simp only
    split <;> rfl

theorem beginLoadPending (stage : Stage) (load : LoadBehavior) :
    (stage.beginLoad load).1 = { stage with pendingLoad := countdown (some (load, 0)) } := by
  cases load with
  | never => rfl
  | afterPolls delay => cases delay <;> rfl

theorem visitFails (agrees : Agrees past now) {url message : String}
    (fails : refusal? past url = some message) (number : Nat) :
    (now.handle number).navigate now.stage url =
      .failed message { now.stage with visits := now.stage.visits ++ [url] } := by
  simp only [Handle.navigate, agrees.refusal, fails]

theorem visitReaches (agrees : Agrees past now) {url : String}
    (reaches : refusal? past url = none) (number : Nat) :
    (now.handle number).navigate now.stage url =
      .reached ⟨load past number, some (page past url)⟩
        { now.stage with
          visits := now.stage.visits ++ [url]
          pendingLoad := countdown (some (load past number, 0)) }
        ({ now.stage with visits := now.stage.visits ++ [url] }.beginLoad
          (load past number)).2 := by
  have served := agrees.page url
  simp only [Stage.page] at served
  simp only [Handle.navigate, agrees.refusal, reaches, agrees.handle, beginLoadPending, Stage.page,
    served]

theorem navigateFails (agrees : Agrees past now) {url message : String}
    (fails : refusal? past url = some message) (number : Nat) :
    now.perform ⟨number, .navigate url⟩ =
      ({ now with stage := { now.stage with visits := now.stage.visits ++ [url] } },
        { reply := .refused message }) := by
  simp only [Rehearsal.perform, visitFails agrees fails]

theorem navigateReaches (agrees : Agrees past now) {url : String}
    (reaches : refusal? past url = none) (number : Nat) :
    now.perform ⟨number, .navigate url⟩ =
      ({ now.setHandle number ⟨load past number, some (page past url)⟩ with
          stage := { now.stage with
            visits := now.stage.visits ++ [url]
            pendingLoad := countdown (some (load past number, 0)) } },
        { fired := ({ now.stage with visits := now.stage.visits ++ [url] }.beginLoad
            (load past number)).2 }) := by
  simp only [Rehearsal.perform, visitReaches agrees reaches]

theorem cloneAgrees (agrees : Agrees past now) (number copy : Nat) :
    Agrees (⟨number, .clone copy⟩ :: past) (now.perform ⟨number, .clone copy⟩).1 :=
  { agrees with
    handle := fun other => by
      simp only [Rehearsal.perform, Rehearsal.setHandle, load, shown, agrees.handle]
      split <;> rfl }

theorem pageAgrees (agrees : Agrees past now) (number : Nat) (url markup text : String) :
    Agrees (⟨number, .withPage url markup text⟩ :: past)
      (now.perform ⟨number, .withPage url markup text⟩).1 :=
  { agrees with
    page := fun other => by
      have before := agrees.page other
      simp only [Stage.page] at before
      simp only [Rehearsal.perform, Stage.withPage, Stage.page, Lookup.lookupCons, page]
      split
      · rename_i here
        rw [here]
        rfl
      · exact before }

theorem failingAgrees (agrees : Agrees past now) (number : Nat) (url message : String) :
    Agrees (⟨number, .failingOn url message⟩ :: past)
      (now.perform ⟨number, .failingOn url message⟩).1 :=
  { agrees with
    refusal := fun other => by
      simp only [Rehearsal.perform, Stage.failingOn, Lookup.lookupCons, refusal?, agrees.refusal] }

/-- A handle whose load is set shows what it showed. -/
theorem setLoad (agrees : Agrees past now) (number other : Nat) (behavior : LoadBehavior) :
    (now.setHandle number { now.handle number with load := behavior }).handle other =
      ⟨if other = number then behavior else load past other, shown past other⟩ := by
  simp only [Rehearsal.setHandle, agrees.handle]
  split
  · rename_i here
    rw [here]
  · rfl

theorem delayAgrees (agrees : Agrees past now) (number polls : Nat) :
    Agrees (⟨number, .withLoadDelay polls⟩ :: past)
      (now.perform ⟨number, .withLoadDelay polls⟩).1 :=
  { agrees with handle := fun other => setLoad agrees number other (.afterPolls polls) }

theorem neverAgrees (agrees : Agrees past now) (number : Nat) :
    Agrees (⟨number, .neverFinishLoading⟩ :: past)
      (now.perform ⟨number, .neverFinishLoading⟩).1 :=
  { agrees with handle := fun other => setLoad agrees number other .never }

theorem failedAgrees (agrees : Agrees past now) (number : Nat) {url message : String}
    (fails : refusal? past url = some message) :
    Agrees (⟨number, .navigate url⟩ :: past) (now.perform ⟨number, .navigate url⟩).1 := by
  rw [navigateFails agrees fails]
  exact { agrees with
    visits := congrArg (· ++ [url]) agrees.visits
    pendingLoad := by simp only [underway, fails, agrees.pendingLoad, reduceCtorEq, if_false]
    handle := fun other => by
      simp only [load, shown, fails, agrees.handle, reduceCtorEq, and_false, if_false] }

theorem reachedAgrees (agrees : Agrees past now) (number : Nat) {url : String}
    (reaches : refusal? past url = none) :
    Agrees (⟨number, .navigate url⟩ :: past) (now.perform ⟨number, .navigate url⟩).1 := by
  rw [navigateReaches agrees reaches]
  exact { agrees with
    visits := congrArg (· ++ [url]) agrees.visits
    pendingLoad := by simp only [underway, reaches, if_true]
    handle := fun other => by
      simp only [Rehearsal.setHandle, load, shown, reaches, and_true, agrees.handle]
      split
      · rename_i here
        rw [here]
      · rfl }

theorem connectAgrees (agrees : Agrees past now) (number : Nat) :
    Agrees (⟨number, .connect⟩ :: past) (now.perform ⟨number, .connect⟩).1 :=
  { agrees with
    listeners := by
      simp only [Rehearsal.perform, Stage.connect, connected, agrees.listeners,
        agrees.nextListener]
    nextListener := congrArg (· + 1) agrees.nextListener }

theorem drainAgrees (agrees : Agrees past now) (number : Nat) :
    Agrees (⟨number, .processEvents⟩ :: past) (now.perform ⟨number, .processEvents⟩).1 := by
  simp only [Rehearsal.perform, pollPending agrees]
  exact { agrees with
    polls := rfl
    pendingLoad := rfl }

theorem performAgrees (agrees : Agrees past now) (call : Call) :
    Agrees (call :: past) (now.perform call).1 := by
  obtain ⟨number, operation⟩ := call
  cases operation with
  | clone copy => exact cloneAgrees agrees number copy
  | withPage url markup text => exact pageAgrees agrees number url markup text
  | failingOn url message => exact failingAgrees agrees number url message
  | withLoadDelay polls => exact delayAgrees agrees number polls
  | neverFinishLoading => exact neverAgrees agrees number
  | navigate url =>
    cases answer : refusal? past url with
    | some message => exact failedAgrees agrees number answer
    | none => exact reachedAgrees agrees number answer
  | connect => exact connectAgrees agrees number
  | disconnect id =>
    exact { agrees with
      listeners := congrArg (List.filter (· ≠ id)) agrees.listeners }
  | processEvents => exact drainAgrees agrees number

theorem afterAgrees (past : History) : Agrees past (after past) := by
  induction past with
  | nil => exact agreesStart
  | cons call past ih => exact performAgrees ih call

end

end History

end Rehearsal

end PageScript
