import PageScript.Proofs.Run.Acts

/-! What a command can do to the context of a run. The log and the notices only grow (`Grows`), no
call of the progress callback is among what is added (`Appends`), and under a built-in command the
flags change only by what the outside does at some moments (`Extends`). The properties of commands
at the end are what statements about runs of any commands assume; the built-in ones have them. -/
namespace PageScript

/-- Index, number of commands and description, where a notice is a call of the progress callback. -/
def Notice.call? : Notice → Option (Nat × Nat × String)
  | .progress index total description _ => some (index, total, description)
  | .entry .. => none

namespace Context

def calls (ctx : Context) : List (Nat × Nat × String) := ctx.notices.toList.filterMap Notice.call?

structure Grows (before after : Context) : Prop where
  log : before.log.toList <+: after.log.toList
  notices : before.notices.toList <+: after.notices.toList
  stopOnError : after.stopOnError = before.stopOnError

theorem Grows.trans {a b c : Context} (left : a.Grows b) (right : b.Grows c) : a.Grows c :=
  ⟨left.log.trans right.log, left.notices.trans right.notices,
    right.stopOnError.trans left.stopOnError⟩

structure Appends (before after : Context) : Prop extends Grows before after where
  calls : after.calls = before.calls

theorem Appends.ofSame {before after : Context} (log : after.log = before.log)
    (notices : after.notices = before.notices)
    (stopOnError : after.stopOnError = before.stopOnError) : before.Appends after := by
  refine ⟨⟨?_, ?_, stopOnError⟩, ?_⟩
  · simp [log]
  · simp [notices]
  · rw [Context.calls, notices, Context.calls]

theorem Appends.trans {a b c : Context} (left : a.Appends b) (right : b.Appends c) :
    a.Appends c :=
  ⟨left.toGrows.trans right.toGrows, right.calls.trans left.calls⟩

structure Extends (before after : Context) : Prop extends Appends before after where
  outside : after.outside = before.outside
  control : ∃ moments : List Moment,
    after.control = before.control.applyAll (moments.flatMap before.outside)

theorem Extends.ofSame {before after : Context} (log : after.log = before.log)
    (notices : after.notices = before.notices)
    (stopOnError : after.stopOnError = before.stopOnError)
    (outside : after.outside = before.outside) (control : after.control = before.control) :
    before.Extends after :=
  ⟨.ofSame log notices stopOnError, outside, [], control⟩

theorem Extends.trans {a b c : Context} (left : a.Extends b) (right : b.Extends c) :
    a.Extends c := by
  obtain ⟨first, atFirst⟩ := left.control
  obtain ⟨second, atSecond⟩ := right.control
  refine ⟨left.toAppends.trans right.toAppends, right.outside.trans left.outside,
    first ++ second, ?_⟩
  rw [atSecond, atFirst, left.outside, List.flatMap_append]
  exact (List.foldl_append ..).symm

theorem Extends.quiet {before after : Context} (step : before.Extends after)
    (quiet : before.outside = .quiet) :
    after.outside = .quiet ∧ after.control = before.control := by
  obtain ⟨moments, acted⟩ := step.control
  have none : moments.flatMap before.outside = [] := by simp [quiet, Outside.quiet]
  refine ⟨step.outside.trans quiet, ?_⟩
  rw [acted, none]
  rfl

/-! ### Operations of a context -/

theorem extendsLogAt (ctx : Context) (level : LogLevel) (message : String) :
    ctx.Extends (ctx.logAt level message) := by
  refine ⟨⟨⟨by simp [logAt], ?_, rfl⟩, ?_⟩, rfl, [], rfl⟩
  · simp only [logAt]
    cases ctx.sink <;> simp
  · simp only [calls, logAt]
    cases ctx.sink <;> simp [Notice.call?]

theorem extendsInfo (ctx : Context) (message : String) : ctx.Extends (ctx.info message) :=
  ctx.extendsLogAt .info message

theorem extendsMeet (ctx : Context) (moment : Moment) : ctx.Extends (ctx.meet moment) :=
  ⟨.ofSame rfl rfl rfl, rfl, [moment], by simp [meet]⟩

theorem extendsReach (ctx : Context) : ctx.Extends ctx.reach :=
  (ctx.extendsMeet _).trans (.ofSame rfl rfl rfl rfl rfl)

theorem extendsActs {before after : Context} (acts : before.Acts after) : before.Extends after := by
  induction acts with
  | log ctx level message => exact ctx.extendsLogAt level message
  | meet ctx moment => exact ctx.extendsMeet moment
  | work => exact .ofSame rfl rfl rfl rfl rfl
  | trans _ _ left right => exact left.trans right

theorem extendsDrain (ctx : Context) : ctx.Extends ctx.drain.1 := extendsActs ctx.actsDrain

end Context

theorem Builtin.extendsExecute (command : Builtin) (ctx : Context) :
    ctx.Extends (Command.execute command ctx).1 :=
  Context.extendsActs (command.actsExecute ctx)

/-! ### What a run asks of its commands -/

namespace Command

variable {κ : Type} [Command κ]

def Appends (command : κ) : Prop := ∀ ctx : Context, ctx.Appends (execute command ctx).1

def Steers (command : κ) : Prop :=
  ∀ ctx : Context, ∃ actions, (execute command ctx).1.control = ctx.control.applyAll actions

def LeavesFlags (command : κ) : Prop :=
  ∀ ctx : Context, ctx.outside = .quiet → (execute command ctx).1.outside = .quiet ∧
    (execute command ctx).1.control = ctx.control

theorem builtinAppends (command : Builtin) : Appends command :=
  fun ctx => (command.extendsExecute ctx).toAppends

theorem builtinSteers (command : Builtin) : Steers command := by
  intro ctx
  obtain ⟨moments, acted⟩ := (command.extendsExecute ctx).control
  exact ⟨_, acted⟩

theorem builtinLeavesFlags (command : Builtin) : LeavesFlags command :=
  fun ctx quiet => (command.extendsExecute ctx).quiet quiet

end Command

end PageScript
