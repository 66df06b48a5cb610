import PageScript.Proofs.Run.Order
import PageScript.Proofs.Run.Records
import PageScript.Proofs.Run.Refinement

/-! What a run that ended has done: a first part of the commands, each announced once before it was
executed, the failed ones among them in the errors and all of them in the last entry of the log.
`Accounts` is the invariant that every step preserves, `Accounted` what it says at the end. -/
namespace PageScript

open Executor (Tally)

namespace Execution

variable {κ : Type} [Command κ]

def failure? (execution : Execution κ) : Option RunError :=
  match (Command.execute execution.command execution.context).2 with
  | .ok () => none
  | .error e => some ⟨execution.index, Command.describe execution.command, e.message⟩

end Execution

namespace Run

variable {κ : Type} [Command κ] {exec : Executor κ} {run : Run κ} {command : κ} {rest : List κ}

def expectedCalls (exec : Executor κ) (count : Nat) : List (Nat × Nat × String) :=
  (exec.commands.take count).zipIdx.map fun (command, index) =>
    (index, exec.commands.length, Command.describe command)

def Announced (exec : Executor κ) (execution : Execution κ) : Prop :=
  ∃ cleared : Context,
    execution.context = given exec.commands.length execution.index execution.command cleared ∧
    exec.context.Grows cleared ∧
    cleared.calls = exec.context.calls ++ expectedCalls exec execution.index

/-- Why a run ended before the last command. -/
inductive Cut (exec : Executor κ) (last : Run κ) : Prop
  | stopped (checked : Run κ) (reached : (start exec).Reaches checked)
      (atCheckpoint : checked.phase = .stopCheck)
      (refused : checked.context.readRunning.1 = false)
      (told : last.context = checked.context.readRunning.2.info "Script execution stopped by user")
  | failed (stops : exec.context.stopOnError = true) (latest : Execution κ)
      (isLast : last.executed.getLast? = some latest) (fails : latest.failure?.isSome)

structure Accounts (exec : Executor κ) (run : Run κ) : Prop extends Ordered exec run where
  grows : exec.context.Grows run.context
  calls : run.context.calls = exec.context.calls ++
    expectedCalls exec (run.index + if run.phase = .execution then 1 else 0)
  pending : run.phase = .execution → ∀ command rest, run.rest = command :: rest →
    Announced exec ⟨run.index, command, run.context⟩
  announced : ∀ execution ∈ run.executed,
    Announced exec execution ∧ execution.context.Grows run.context
  errors : run.tally.errors = run.executed.filterMap Execution.failure?
  counts : run.tally.succeeded + run.tally.errors.length = run.index
  cut : run.phase = .ended → run.index < exec.commands.length → Cut exec run

/-! ### One step -/

theorem stepChecks (queue : run.rest = command :: rest) (checks : run.phase.launched = false)
    (goesOn : run.phase ≠ .ended) :
    ∃ phase ctx entries, run.step = run.goTo phase ctx ∧ run.context.Records ctx entries ∧
      phase ≠ .execution ∧
      (phase = .ended → run.phase = .stopCheck ∧ run.context.readRunning.1 = false ∧
        ctx = run.context.readRunning.2.info "Script execution stopped by user") := by
  have reaches := run.context.recordsReach
  simp only [step, queue]
  cases phase : run.phase with
  | arrival =>
    simp only [advance, phase]
    exact ⟨_, _, _, rfl, Context.recordsSetCurrent .., by simp⟩
  | pauseCheck =>
    simp only [advance, phase]
    refine ⟨_, _, _, rfl, reaches, ?_⟩
    split <;> simp
  | pauseConfirm =>
    simp only [advance, phase]
    split
    · exact ⟨_, _, _, rfl, reaches.trans (Context.recordsInfo ..), by simp⟩
    · exact ⟨_, _, _, rfl, reaches, by simp⟩
  | waitCheck =>
    simp only [advance, phase]
    refine ⟨_, _, _, rfl, reaches, ?_⟩
    split <;> simp
  | waitConfirm =>
    simp only [advance, phase]
    split
    · have drained := run.context.readRunning.2.recordsDrain
      exact ⟨_, _, _, rfl, (reaches.trans drained).trans (Context.recordsSleep ..), by simp⟩
    · exact ⟨_, _, _, rfl, reaches, by simp⟩
  | releaseCheck =>
    simp only [advance, phase]
    split
    · exact ⟨_, _, _, rfl, reaches.trans (Context.recordsInfo ..), by simp⟩
    · exact ⟨_, _, _, rfl, reaches, by simp⟩
  | stopCheck =>
    simp only [advance, phase]
    split
    · exact ⟨_, _, _, rfl, reaches, by simp⟩
    · rename_i refused
      refine ⟨_, _, _, rfl, reaches.trans (Context.recordsInfo ..), by simp, ?_⟩
      intro
      exact ⟨trivial, by simpa using refused, rfl⟩
  | announcement => simp [Phase.launched, phase] at checks
  | execution => simp [Phase.launched, phase] at checks
  | ended => exact absurd phase goesOn

/-- What is logged about the outcome of a command. -/
def verdict (stopOnError : Bool) : Except ExecutionError Unit → List (LogLevel × String)
  | .ok () => []
  | .error e => (.error, s!"Command failed: {e.message}") ::
      if stopOnError then [(.info, "Stopping on error")] else []

theorem settleRecords (index : Nat) (description : String) (tally : Tally) (outcome : Outcome) :
    ∃ entries, outcome.1.Records (settle index description tally outcome).2.context entries ∧
      entries.map LogEntry.said = verdict outcome.1.stopOnError outcome.2 := by
  obtain ⟨ctx, e | _⟩ := outcome
  · have reported := ctx.recordsLogAt .error s!"Command failed: {e.message}"
    have same : (ctx.error s!"Command failed: {e.message}").stopOnError = ctx.stopOnError := rfl
    simp only [settle, verdict, same]
    split
    · exact ⟨_, reported.trans (Context.recordsInfo ..), rfl⟩
    · exact ⟨_, reported, rfl⟩
  · exact ⟨[], .refl ctx, rfl⟩

theorem settleErrors (execution : Execution κ) (tally : Tally) :
    (settle execution.index (Command.describe execution.command) tally
      (Command.execute execution.command execution.context)).2.errors =
      tally.errors ++ execution.failure?.toList := by
  unfold Execution.failure?
  generalize Command.execute execution.command execution.context = outcome
  obtain ⟨ctx, e | _⟩ := outcome
  · simp only [settle]
    split <;> rfl
  · simp [settle]

theorem settleCounts (index : Nat) (description : String) (tally : Tally) (outcome : Outcome) :
    (settle index description tally outcome).2.succeeded +
      (settle index description tally outcome).2.errors.length =
      tally.succeeded + tally.errors.length + 1 := by
  obtain ⟨ctx, e | _⟩ := outcome
  · simp only [settle]
    split <;> simp [Nat.add_assoc]
  · simp only [settle]
    omega

theorem settleStops (execution : Execution κ) (tally : Tally)
    (stops : (settle execution.index (Command.describe execution.command) tally
      (Command.execute execution.command execution.context)).1 = false) :
    (Command.execute execution.command execution.context).1.stopOnError = true ∧
      execution.failure?.isSome := by
  unfold Execution.failure?
  generalize Command.execute execution.command execution.context = outcome at stops ⊢
  obtain ⟨ctx, e | _⟩ := outcome
  · simp only [settle] at stops
    split at stops
    · rename_i onError
      exact ⟨onError, rfl⟩
    · simp at stops
  · simp [settle] at stops

theorem expectedNext (queue : command :: rest = exec.commands.drop run.index) :
    expectedCalls exec (run.index + 1) = expectedCalls exec run.index ++
      [(run.index, exec.commands.length, Command.describe command)] := by
  rw [expectedCalls, takeNext queue, List.map_append]
  rfl

theorem givenGrows (total index : Nat) (command : κ) (ctx : Context) :
    ctx.Grows (given total index command ctx) := by
  have announced : ctx.Grows (ctx.announce index total (Command.describe command)) :=
    ⟨List.prefix_rfl, by simp [Context.announce, Context.meet], rfl⟩
  exact announced.trans (Context.extendsInfo ..).toGrows

theorem givenCalls (total index : Nat) (command : κ) (ctx : Context) :
    (given total index command ctx).calls =
      ctx.calls ++ [(index, total, Command.describe command)] := by
  rw [given, (Context.extendsInfo ..).calls]
  simp [Context.calls, Context.announce, Context.meet, Notice.call?]

namespace Accounts

theorem check (accounts : Accounts exec run) (reached : (start exec).Reaches run)
    (queue : run.rest = command :: rest) (checks : run.phase.launched = false)
    (goesOn : run.phase ≠ .ended) : Accounts exec run.step := by
  obtain ⟨phase, ctx, entries, stepped, records, notGiven, cut⟩ := stepChecks queue checks goesOn
  have appends := records.appends
  have notExecuted : run.phase ≠ .execution := by
    intro executes
    simp [executes, Phase.launched] at checks
  rw [stepped]
  exact {
    accounts.toOrdered.stay phase ctx (by simp [queue]) with
    grows := accounts.grows.trans appends.toGrows
    calls := by
      have calls := accounts.calls
      rw [if_neg notExecuted] at calls
      rw [goToContext, goToPhase, if_neg notGiven, appends.calls, calls]
      rfl
    pending := fun given => absurd given notGiven
    announced := fun execution member =>
      ⟨(accounts.announced execution member).1,
        (accounts.announced execution member).2.trans appends.toGrows⟩
    errors := accounts.errors
    counts := accounts.counts
    cut := fun ended _ => by
      obtain ⟨atCheckpoint, refused, told⟩ := cut ended
      exact .stopped run reached atCheckpoint refused told }

theorem announce (accounts : Accounts exec run) (queue : run.rest = command :: rest)
    (announces : run.phase = .announcement) : Accounts exec run.step := by
  have stepped : run.step =
      run.goTo .execution (given run.total run.index command run.context) := by
    simp only [step, queue, advance, announces]
  have calls := accounts.calls
  rw [if_neg (by simp [announces]), Nat.add_zero] at calls
  have grows := givenGrows run.total run.index command run.context
  rw [stepped]
  exact {
    accounts.toOrdered.stay .execution _ (by simp [queue]) with
    grows := accounts.grows.trans grows
    calls := by
      rw [goToContext, goToPhase, goToIndex, if_pos rfl, expectedNext (accounts.dropped queue),
        givenCalls, calls, accounts.total, List.append_assoc]
    pending := by
      intro _ next others same
      rw [goToRest, queue] at same
      cases same
      exact ⟨run.context, by rw [← accounts.total]; rfl, accounts.grows, calls⟩
    announced := fun execution member =>
      ⟨(accounts.announced execution member).1,
        (accounts.announced execution member).2.trans grows⟩
    errors := accounts.errors
    counts := accounts.counts
    cut := by simp }

theorem complete (accounts : Accounts exec run) (queue : run.rest = command :: rest)
    (executes : run.phase = .execution) (appends : Command.Appends command) :
    Accounts exec run.step := by
  let execution : Execution κ := ⟨run.index, command, run.context⟩
  let outcome := settle run.index (Command.describe command) run.tally
    (Command.execute command run.context)
  have stepped : run.step = run.complete command rest outcome.1 outcome.2 := by
    obtain ⟨goesOn, tally, stepped, settled⟩ := stepCompletes queue executes
    have came : outcome = (goesOn, tally) := settled.symm
    rw [stepped, came]
  obtain ⟨judged, settles, -⟩ := settleRecords run.index (Command.describe command) run.tally
    (Command.execute command run.context)
  have added : run.context.Appends outcome.2.context :=
    (appends run.context).trans settles.appends
  rw [stepped]
  exact {
    accounts.toOrdered.complete queue outcome.1 outcome.2 with
    grows := accounts.grows.trans added.toGrows
    calls := by
      have calls := accounts.calls
      rw [if_pos executes] at calls
      have notGiven : (run.complete command rest outcome.1 outcome.2).phase ≠ .execution := by
        simp only [Run.complete]
        split <;> simp
      rw [if_neg notGiven]
      exact added.calls.trans calls
    pending := by
      intro given
      simp only [Run.complete] at given
      split at given <;> contradiction
    announced := by
      intro other member
      rcases List.mem_append.mp member with earlier | latest
      · exact ⟨(accounts.announced other earlier).1,
          (accounts.announced other earlier).2.trans added.toGrows⟩
      · rw [List.mem_singleton.mp latest]
        exact ⟨accounts.pending executes command rest queue, added.toGrows⟩
    errors := by
      change outcome.2.errors = List.filterMap _ (run.executed ++ [execution])
      rw [List.filterMap_append, ← accounts.errors]
      refine (settleErrors execution run.tally).trans ?_
      congr 1
    counts := (settleCounts ..).trans (congrArg (· + 1) accounts.counts)
    cut := by
      intro ended _
      have stops : outcome.1 = false := by
        cases goesOn : outcome.1 with
        | false => rfl
        | true => simp [Run.complete, goesOn] at ended
      obtain ⟨onError, fails⟩ := settleStops execution run.tally stops
      refine .failed ?_ execution (by simp [Run.complete, execution]) fails
      rw [← accounts.grows.stopOnError, ← (appends run.context).stopOnError]
      exact onError }

end Accounts

theorem expectedAll {count : Nat} (all : exec.commands.length ≤ count) :
    expectedCalls exec count = expectedCalls exec exec.commands.length := by
  rw [expectedCalls, List.take_of_length_le all, expectedCalls, List.take_length]

theorem Accounts.conclude (accounts : Accounts exec run) (queue : run.rest = []) :
    Accounts exec run.step := by
  have all := accounts.all queue
  have calls := accounts.calls
  rw [expectedAll (by omega)] at calls
  rw [stepNil queue]
  exact {
    accounts with
    busy := by simp
    calls := by rw [expectedAll (by simp only; omega)]; exact calls
    pending := by simp
    cut := fun _ before => absurd all (Nat.ne_of_lt before) }

theorem stepAccounts (appends : ∀ command ∈ exec.commands, Command.Appends command)
    (reached : (start exec).Reaches run) (accounts : Accounts exec run) :
    Accounts exec run.step := by
  by_cases ended : run.phase = .ended
  · rw [stepEnded ended]
    exact accounts
  cases queue : run.rest with
  | nil => exact accounts.conclude queue
  | cons command rest =>
    cases launched : run.phase.launched with
    | false => exact accounts.check reached queue launched ended
    | true =>
      cases phase : run.phase with
      | announcement => exact accounts.announce queue phase
      | execution => exact accounts.complete queue phase (appends command (accounts.loaded queue))
      | _ => simp [phase, Phase.launched] at launched

/-! ### A whole run -/

omit [Command κ] in
theorem beginRecords (exec : Executor κ) :
    ∃ entries, exec.context.Records exec.begin entries :=
  ⟨_, ((Context.recordsSetRunning ..).trans (Context.recordsSetTotal ..)).trans
    (Context.recordsInfo ..)⟩

omit [Command κ] in
theorem finishRecords (exec : Executor κ) (tally : Tally) :
    ∃ entry, tally.context.Records (exec.finish tally).context [entry] ∧ entry.message =
      s!"Script execution complete: {tally.succeeded} succeeded, {tally.errors.length} failed" :=
  ⟨_, (Context.recordsSetRunning ..).trans (Context.recordsInfo ..), rfl⟩

omit [Command κ] in
theorem finishAppends (exec : Executor κ) (tally : Tally) :
    tally.context.Appends (exec.finish tally).context := by
  obtain ⟨entry, finishes, -⟩ := finishRecords exec tally
  exact finishes.appends

theorem startAccounts (exec : Executor κ) : Accounts exec (start exec) := by
  obtain ⟨entries, begins⟩ := beginRecords exec
  exact {
    toOrdered := startOrdered exec
    grows := begins.appends.toGrows
    calls := by
      refine begins.appends.calls.trans ?_
      simp [start, expectedCalls]
    pending := by simp [start]
    announced := by simp [start]
    errors := rfl
    counts := rfl
    cut := by simp [start] }

theorem reachedAccounts (appends : ∀ command ∈ exec.commands, Command.Appends command)
    (reached : (start exec).Reaches run) : Accounts exec run := by
  obtain ⟨steps, rfl⟩ := reached
  induction steps with
  | zero => exact startAccounts exec
  | succ steps ih =>
    rw [afterAdd]
    exact stepAccounts appends ⟨steps, rfl⟩ ih

/-- What the accounts of a run's end say about what the executor has then. -/
structure Accounted (exec : Executor κ) (success : Bool) (final : Executor κ) (last : Run κ) :
    Prop where
  bound : last.executed.length ≤ exec.commands.length
  executed : last.executed.map (fun e => (e.command, e.index)) =
    (exec.commands.take last.executed.length).zipIdx
  announced : ∀ execution ∈ last.executed,
    Announced exec execution ∧ execution.context.Grows final.context
  calls : final.context.calls = exec.context.calls ++ expectedCalls exec last.executed.length
  errors : final.errors = last.executed.filterMap Execution.failure?
  success : success = true ↔ final.errors = []
  report : ∃ succeeded entry, final.context.log.toList = last.context.log.toList ++ [entry] ∧
    entry.message =
      s!"Script execution complete: {succeeded} succeeded, {final.errors.length} failed" ∧
    succeeded + final.errors.length = last.executed.length
  kept : exec.context.log.toList <+: last.context.log.toList
  cut : last.executed.length < exec.commands.length → Cut exec last

theorem executeAccounts (exec : Executor κ)
    (appends : ∀ command ∈ exec.commands, Command.Appends command) (looks : Nat) (success : Bool)
    (final : Executor κ) (result : exec.execute looks = some (success, final)) :
    ∃ last, (start exec).Reaches last ∧ last.phase = .ended ∧ final = exec.finish last.tally ∧
      Accounted exec success final last := by
  obtain ⟨last, reaches, ended, rfl, rfl⟩ := (executeExact exec success final).mp ⟨looks, result⟩
  have accounts := reachedAccounts appends reaches
  have executed := accounts.count
  have finishes : last.context.Appends _ := finishAppends exec last.tally
  have calls := accounts.calls
  rw [if_neg (by simp [ended]), Nat.add_zero] at calls
  refine ⟨last, reaches, ended, rfl, ?_⟩
  exact {
    bound := executed ▸ accounts.bound
    executed := by rw [accounts.executed, executed]
    announced := fun execution member =>
      ⟨(accounts.announced execution member).1,
        (accounts.announced execution member).2.trans finishes.toGrows⟩
    calls := by rw [finishes.calls, calls, executed]
    errors := accounts.errors
    success := List.isEmpty_iff
    report := ⟨last.tally.succeeded, _, Array.toList_push, rfl, accounts.counts.trans executed.symm⟩
    kept := accounts.grows.log
    cut := fun before => accounts.cut ended (executed ▸ before) }

theorem executeAccountsStopped :
    let exec : Executor Builtin := {
      registry := ⟨[]⟩
      commands := List.replicate 3 (.saveMarkup default)
      context := { outside := fun moment => if moment = .announced 1 then [.stop] else [] } }
    ∃ final last, exec.execute 1 = some (false, final) ∧ final.errors.length = 2 ∧
      Accounted exec false final last := by
  intro exec
  obtain ⟨⟨success, final⟩, result, failed, errors⟩ :
      ∃ result, exec.execute 1 = some result ∧ result.1 = false ∧ result.2.errors.length = 2 :=
    ⟨_, rfl, rfl, rfl⟩
  cases failed
  obtain ⟨last, -, -, -, accounted⟩ :=
    executeAccounts exec (fun command _ => Command.builtinAppends command) 1 false final result
  exact ⟨final, last, result, errors, accounted⟩

end Run

end PageScript
