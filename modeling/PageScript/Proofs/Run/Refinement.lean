import PageScript.Proofs.Run.Machine

/-! The machine against `Executor.execute`: a result after some number of looks is an end of the
machine, and an end of the machine is the result after enough looks. Where looks run out, the
machine has not come to its end after so many steps (`Lasts`). -/
namespace PageScript

open Executor (Tally)

namespace Run

variable {κ : Type} [Command κ]

def Reaches (first last : Run κ) : Prop := ∃ steps, first.after steps = last

theorem Reaches.refl (run : Run κ) : run.Reaches run := ⟨0, rfl⟩

theorem Reaches.trans {a b c : Run κ} (left : a.Reaches b) (right : b.Reaches c) :
    a.Reaches c := by
  obtain ⟨m, rfl⟩ := left
  obtain ⟨n, rfl⟩ := right
  exact ⟨m + n, afterAdd a m n⟩

theorem Reaches.unique {run first second : Run κ} (left : run.Reaches first)
    (right : run.Reaches second) (leftEnded : first.phase = .ended)
    (rightEnded : second.phase = .ended) : first = second := by
  obtain ⟨m, rfl⟩ := left
  obtain ⟨n, rfl⟩ := right
  have late := afterAdd run m n
  rw [Nat.add_comm, afterAdd, afterEnded leftEnded, afterEnded rightEnded] at late
  exact late.symm

def Lasts (steps : Nat) (run : Run κ) : Prop := (run.after steps).phase ≠ .ended

theorem Lasts.back {run : Run κ} {steps more : Nat} (later : Lasts steps (run.after more)) :
    Lasts (steps + more) run := by
  unfold Lasts at later ⊢
  rwa [Nat.add_comm, afterAdd]

theorem Lasts.shorten {run : Run κ} {steps more : Nat} (lasts : Lasts (steps + more) run) :
    Lasts steps run := by
  intro ended
  apply lasts
  rw [afterAdd, afterEnded ended, ended]

theorem Lasts.before {a b : Run κ} {steps : Nat} (reaches : a.Reaches b)
    (lasts : Lasts steps b) : Lasts steps a := by
  obtain ⟨more, rfl⟩ := reaches
  exact lasts.back.shorten

inductive Answers (looks : Nat) (run : Run κ) : Option (Run κ) → Prop
  | reached (last : Run κ) (reaches : run.Reaches last) : Answers looks run (some last)
  | lasting (lasts : Lasts looks run) : Answers looks run none

theorem Answers.before {looks : Nat} {a b : Run κ} {answer : Option (Run κ)}
    (reaches : a.Reaches b) (answers : Answers looks b answer) : Answers looks a answer := by
  cases answers with
  | reached last further => exact .reached last (reaches.trans further)
  | lasting lasts => exact .lasting (lasts.before reaches)

/-! ### Checkpoints -/

theorem Answers.goOn {looks : Nat} {run : Run κ} {α : Type} {answer : Option α} {f g : α → Run κ}
    (answers : Answers looks run (answer.map f)) (goesOn : ∀ a, (f a).Reaches (g a)) :
    Answers looks run (answer.map g) := by
  cases answer with
  | none =>
    cases answers with
    | lasting lasts => exact .lasting lasts
  | some a =>
    cases answers with
    | reached _ reaches => exact .reached (g a) (reaches.trans (goesOn a))

section
variable {run : Run κ} {command : κ} {rest : List κ}

theorem answersWait (queue : run.rest = command :: rest) (looks : Nat) (ctx : Context) :
    Answers looks (run.goTo .waitCheck ctx)
      ((Executor.waitPaused looks ctx).map (run.goTo .releaseCheck)) := by
  induction looks generalizing ctx with
  | zero => exact .lasting (by simp [Lasts])
  | succ looks ih =>
    have checked := stepGoTo queue .waitCheck ctx
    unfold Executor.waitPaused
    by_cases paused : ctx.readPaused.1
    · have confirmed := stepGoTo queue .waitConfirm ctx.readPaused.2
      by_cases running : ctx.readPaused.2.readRunning.1
      · -- Two steps go round the loop, so that one look more covers one step more.
        simp only [advance, goToPhase, goToContext, paused, running, goToTo, if_true]
          at checked confirmed
        simp only [paused, running, Bool.not_true, Bool.false_eq_true, if_false]
        generalize ctx.readPaused.2.readRunning.2.drain.1 = drained at confirmed ⊢
        have round : (run.goTo .waitCheck ctx).after 2 =
            run.goTo .waitCheck (drained.sleep drained.wait.pausePoll) := by
          rw [afterSucc, checked, afterSucc, confirmed, afterZero]
        have further := ih (drained.sleep drained.wait.pausePoll)
        rw [← round] at further
        generalize (Executor.waitPaused looks _).map _ = answer at further ⊢
        cases further with
        | reached last reaches => exact .reached last (Reaches.trans ⟨2, rfl⟩ reaches)
        | lasting lasts => exact .lasting (@Lasts.shorten _ _ _ (looks + 1) 1 lasts.back)
      · simp only [advance, goToPhase, goToContext, paused, running, goToTo, if_true]
          at checked confirmed
        simp only [paused, running]
        exact .reached _ ⟨2, by rw [afterSucc, checked, afterSucc, confirmed]; rfl⟩
    · simp only [advance, goToPhase, goToContext, paused, goToTo] at checked
      simp only [paused]
      exact .reached _ ⟨1, by rw [afterSucc, checked]; rfl⟩

theorem answersPause (queue : run.rest = command :: rest) (looks : Nat) (ctx : Context) :
    Answers looks (run.goTo .pauseCheck ctx)
      ((Executor.pausePoint looks ctx).map (run.goTo .stopCheck)) := by
  have checked := stepGoTo queue .pauseCheck ctx
  unfold Executor.pausePoint
  by_cases paused : ctx.readPaused.1
  · have confirmed := stepGoTo queue .pauseConfirm ctx.readPaused.2
    by_cases running : ctx.readPaused.2.readRunning.1
    · simp only [advance, goToPhase, goToContext, paused, running, goToTo, if_true]
        at checked confirmed
      simp only [paused, running, Bool.not_true, Bool.false_eq_true, if_false]
      generalize ctx.readPaused.2.readRunning.2.info "Script paused" = told at confirmed ⊢
      refine .before ⟨2, by rw [afterSucc, checked, afterSucc, confirmed, afterZero]⟩ ?_
      rw [Option.map_map]
      refine (answersWait queue looks told).goOn fun ctx => ⟨1, ?_⟩
      have left := stepGoTo queue .releaseCheck ctx
      simp only [advance, goToPhase, goToContext, goToTo] at left
      exact left
    · simp only [advance, goToPhase, goToContext, paused, running, goToTo, if_true]
        at checked confirmed
      simp only [paused, running]
      exact .reached _ ⟨2, by rw [afterSucc, checked, afterSucc, confirmed]; rfl⟩
  · simp only [advance, goToPhase, goToContext, paused, goToTo] at checked
    simp only [paused]
    exact .reached _ ⟨1, by rw [afterSucc, checked]; rfl⟩

theorem answersCheckpoint (queue : run.rest = command :: rest) (looks : Nat) (ctx : Context) :
    Answers looks (run.goTo .pauseCheck ctx) ((Executor.checkpoint looks ctx).map fun answer =>
      run.goTo (if answer.1 then .announcement else .ended) answer.2) := by
  unfold Executor.checkpoint
  rw [Option.map_map]
  refine (answersPause queue looks ctx).goOn fun ctx => ⟨1, ?_⟩
  have checked := stepGoTo queue .stopCheck ctx
  simp only [advance, goToPhase, goToContext, goToTo] at checked
  refine checked.trans ?_
  by_cases running : ctx.readRunning.1
  · simp [running]
  · simp [running]

theorem runCommandSettles (total index : Nat) (command : κ) (tally : Tally) :
    Executor.runCommand total index command tally =
      settle index (Command.describe command)
        { tally with context := given total index command tally.context }
        (Command.execute command (given total index command tally.context)) := by
  unfold Executor.runCommand
  dsimp only
  rw [← given]
  generalize Command.execute command (given total index command tally.context) = outcome
  obtain ⟨ctx, e | _⟩ := outcome <;> rfl

theorem reachesCompletion (queue : run.rest = command :: rest) (ctx : Context) :
    ∃ executed, (run.goTo .announcement ctx).Reaches
      { run with
        phase := if (Executor.runCommand run.total run.index command
          { run.tally with context := ctx }).1 then .arrival else .ended
        index := run.index + 1
        rest
        tally := (Executor.runCommand run.total run.index command
          { run.tally with context := ctx }).2
        executed } := by
  have announced := stepGoTo queue .announcement ctx
  have executed := stepGoTo queue .execution (given run.total run.index command ctx)
  simp only [advance, goToPhase, goToContext, goToTo, goToIndex] at announced executed
  exact ⟨_, 2, by rw [afterSucc, announced]; exact executed.trans (by rw [runCommandSettles]; rfl)⟩

end

inductive Concludes (looks : Nat) (run : Run κ) : Option Tally → Prop
  | ended (last : Run κ) (reaches : run.Reaches last) (ended : last.phase = .ended) :
      Concludes looks run (some last.tally)
  | lasting (lasts : Lasts looks run) : Concludes looks run none

theorem Concludes.before {looks : Nat} {a b : Run κ} {result : Option Tally}
    (reaches : a.Reaches b) (concludes : Concludes looks b result) :
    Concludes looks a result := by
  cases concludes with
  | ended last further ended => exact .ended last (reaches.trans further) ended
  | lasting lasts => exact .lasting (lasts.before reaches)

theorem concludesRunFrom (looks : Nat) (rest : List κ) (run : Run κ) (queue : run.rest = rest)
    (arrived : run.phase = .arrival) :
    Concludes looks run (Executor.runFrom looks run.total run.index rest run.tally) := by
  induction rest generalizing run with
  | nil =>
    exact .ended { run with phase := .ended } ⟨1, stepNil queue⟩ rfl
  | cons command rest ih =>
    have entered := stepGoTo queue .arrival run.context
    rw [← arrived, goToSame, advance, arrived] at entered
    refine .before ⟨1, entered⟩ ?_
    have answers := answersCheckpoint queue looks (run.context.setCurrent run.index)
    unfold Executor.runFrom
    cases passed : Executor.checkpoint looks (run.tally.context.setCurrent run.index) with
    | none =>
      rw [context, passed] at answers
      cases answers with
      | lasting lasts => exact .lasting lasts
    | some answer =>
      rw [context, passed] at answers
      obtain ⟨goesOn, ctx⟩ := answer
      cases answers with
      | reached last reaches =>
        cases goesOn with
        | false => exact .ended _ reaches rfl
        | true =>
          obtain ⟨executed, completes⟩ := reachesCompletion queue ctx
          refine .before (reaches.trans completes) ?_
          dsimp only
          generalize Executor.runCommand run.total run.index command
            { run.tally with context := ctx } = outcome
          obtain ⟨goesOn, tally⟩ := outcome
          let next (phase : Phase) : Run κ :=
            { run with phase, index := run.index + 1, rest, tally, executed }
          cases goesOn with
          | false => exact .ended (next .ended) (.refl _) rfl
          | true => exact ih (next .arrival) rfl rfl

theorem concludesExecute (looks : Nat) (exec : Executor κ) :
    ∃ result, Concludes looks (start exec) result ∧
      exec.execute looks = result.map fun tally => (tally.errors.isEmpty, exec.finish tally) :=
  ⟨_, concludesRunFrom looks exec.commands (start exec) rfl rfl, rfl⟩

/-- What is computed with some number of looks is what the machine ends with. -/
theorem executeExact (exec : Executor κ) (success : Bool) (final : Executor κ) :
    (∃ looks, exec.execute looks = some (success, final)) ↔
      ∃ last, (start exec).Reaches last ∧ last.phase = .ended ∧
        success = last.tally.errors.isEmpty ∧ final = exec.finish last.tally := by
  constructor
  · rintro ⟨looks, computed⟩
    obtain ⟨result, concludes, came⟩ := concludesExecute looks exec
    rw [came] at computed
    cases concludes with
    | ended last reaches ended =>
      simp only [Option.map_some, Option.some.injEq, Prod.mk.injEq] at computed
      exact ⟨last, reaches, ended, computed.1.symm, computed.2.symm⟩
    | lasting => simp at computed
  · rintro ⟨last, ⟨steps, reached⟩, ended, rfl, rfl⟩
    refine ⟨steps, ?_⟩
    obtain ⟨result, concludes, came⟩ := concludesExecute steps exec
    rw [came]
    cases concludes with
    | ended other reaches otherEnded =>
      rw [reaches.unique ⟨steps, reached⟩ otherEnded ended]
      rfl
    | lasting lasts =>
      rw [Lasts, reached] at lasts
      exact absurd ended lasts

end Run

end PageScript
