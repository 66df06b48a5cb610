import PageScript.Proofs.Run.Machine

/-! The order of commands in a run. Those that were executed are the first of the loaded ones, each
once and at its place, whatever comes between the steps, and the next one is that of `index`. -/
namespace PageScript

namespace Run

variable {κ : Type} {exec : Executor κ} {run : Run κ} {command : κ} {rest : List κ}

structure Ordered (exec : Executor κ) (run : Run κ) : Prop where
  total : run.total = exec.commands.length
  bound : run.index ≤ exec.commands.length
  rest : run.rest = exec.commands.drop run.index
  executed : run.executed.map (fun e => (e.command, e.index)) =
    (exec.commands.take run.index).zipIdx
  busy : run.phase ≠ .arrival → run.phase ≠ .ended → run.rest ≠ []

theorem takeNext (queue : command :: rest = exec.commands.drop run.index) :
    (exec.commands.take (run.index + 1)).zipIdx =
      (exec.commands.take run.index).zipIdx ++ [(command, run.index)] := by
  have here : exec.commands[run.index]? = some command := by
    rw [← List.head?_drop, ← queue, List.head?_cons]
  have inside : run.index < exec.commands.length := (List.getElem?_eq_some_iff.mp here).1
  rw [List.take_add_one, here, List.zipIdx_append, List.length_take,
    Nat.min_eq_left (Nat.le_of_lt inside), Nat.zero_add]
  rfl

namespace Ordered

theorem dropped (ordered : Ordered exec run) (queue : run.rest = command :: rest) :
    command :: rest = exec.commands.drop run.index := by
  rw [← queue, ordered.rest]

theorem here (ordered : Ordered exec run) (queue : run.rest = command :: rest) :
    exec.commands[run.index]? = some command := by
  rw [← List.head?_drop, ← ordered.dropped queue, List.head?_cons]

theorem isNext (ordered : Ordered exec run) (queue : run.rest = command :: rest) :
    run.index < exec.commands.length :=
  (List.getElem?_eq_some_iff.mp (ordered.here queue)).1

theorem loaded (ordered : Ordered exec run) (queue : run.rest = command :: rest) :
    command ∈ exec.commands :=
  List.mem_of_getElem? (ordered.here queue)

theorem count (ordered : Ordered exec run) : run.executed.length = run.index := by
  have lengths := congrArg List.length ordered.executed
  simpa [Nat.min_eq_left ordered.bound] using lengths

theorem all (ordered : Ordered exec run) (queue : run.rest = []) :
    run.index = exec.commands.length := by
  have dropped := ordered.rest
  rw [queue] at dropped
  exact Nat.le_antisymm ordered.bound (List.drop_eq_nil_iff.mp dropped.symm)

theorem stay (ordered : Ordered exec run) (phase : Phase) (ctx : Context)
    (busy : phase ≠ .arrival → phase ≠ .ended → run.rest ≠ []) :
    Ordered exec (run.goTo phase ctx) :=
  { ordered with busy }

theorem complete (ordered : Ordered exec run) (queue : run.rest = command :: rest)
    (goesOn : Bool) (tally : Executor.Tally) :
    Ordered exec (run.complete command rest goesOn tally) where
  total := ordered.total
  bound := ordered.isNext queue
  rest := by
    have tails := congrArg List.tail (ordered.dropped queue)
    rw [List.tail_drop] at tails
    exact tails
  executed := by
    have next := takeNext (ordered.dropped queue)
    rw [← ordered.executed] at next
    simp only [Run.complete, List.map_append]
    exact next.symm
  busy := by
    simp only [Run.complete]
    split <;> simp

end Ordered

theorem startOrdered (exec : Executor κ) : Ordered exec (start exec) where
  total := rfl
  bound := Nat.zero_le _
  rest := rfl
  executed := by simp [start]
  busy := by simp [start]

/-! ### Steps and runs -/

variable [Command κ]

theorem stepStays (queue : run.rest = command :: rest) (notNow : run.phase ≠ .execution) :
    ∃ phase ctx, run.step = run.goTo phase ctx := by
  simp only [step, queue]
  cases phase : run.phase with
  | execution => exact absurd phase notNow
  | ended => exact ⟨.ended, run.context, by rw [← phase, goToSame]; simp only [advance, phase]⟩
  | _ =>
    simp only [advance, phase]
    try split
    all_goals exact ⟨_, _, rfl⟩

theorem stepCompletes (queue : run.rest = command :: rest) (now : run.phase = .execution) :
    ∃ goesOn tally, run.step = run.complete command rest goesOn tally ∧
      (goesOn, tally) = settle run.index (Command.describe command) run.tally
        (Command.execute command run.context) := by
  simp only [step, queue, advance, now]
  exact ⟨_, _, rfl, rfl⟩

theorem stepOrdered (ordered : Ordered exec run) : Ordered exec run.step := by
  cases queue : run.rest with
  | nil =>
    rw [stepNil queue]
    exact ordered.stay .ended run.context (by simp)
  | cons command rest =>
    by_cases now : run.phase = .execution
    · obtain ⟨goesOn, tally, stepped, -⟩ := stepCompletes queue now
      rw [stepped]
      exact ordered.complete queue goesOn tally
    · obtain ⟨phase, ctx, stepped⟩ := stepStays queue now
      rw [stepped]
      exact ordered.stay phase ctx (by simp [queue])

theorem moveOrdered (ordered : Ordered exec run) (move : Move) : Ordered exec (run.move move) := by
  cases move with
  | step => exact stepOrdered ordered
  | act action => exact ordered.stay run.phase _ ordered.busy

theorem followOrdered (ordered : Ordered exec run) (moves : List Move) :
    Ordered exec (run.follow moves) := by
  induction moves generalizing run with
  | nil => exact ordered
  | cons move moves ih => exact ih (moveOrdered ordered move)

theorem moveExecuted (run : Run κ) (move : Move) : run.executed <+: (run.move move).executed := by
  cases move with
  | act action => exact List.prefix_rfl
  | step =>
    change run.executed <+: run.step.executed
    cases queue : run.rest with
    | nil => simp [stepNil queue]
    | cons command rest =>
      by_cases now : run.phase = .execution
      · obtain ⟨goesOn, tally, stepped, -⟩ := stepCompletes queue now
        rw [stepped]
        exact List.prefix_append ..
      · obtain ⟨phase, ctx, stepped⟩ := stepStays queue now
        simp [stepped]

theorem followExecuted (run : Run κ) (moves : List Move) :
    run.executed <+: (run.follow moves).executed := by
  induction moves generalizing run with
  | nil => exact List.prefix_rfl
  | cons move moves ih => exact (moveExecuted run move).trans (ih (run.move move))

theorem followNext (ordered : Ordered exec run) (moves : List Move) :
    (run.follow moves).executed = run.executed ∨ ∃ command ctx others,
      exec.commands[run.index]? = some command ∧
      (run.follow moves).executed = run.executed ++ ⟨run.index, command, ctx⟩ :: others := by
  obtain ⟨added, split⟩ := followExecuted run moves
  cases added with
  | nil => exact .inl (by rw [← split, List.append_nil])
  | cons next others =>
    have final := followOrdered ordered moves
    have places := congrArg (·[run.index]?) final.executed
    have here : (run.follow moves).executed[run.index]? = some next := by
      rw [← split, List.getElem?_append_right (Nat.le_of_eq ordered.count),
        ordered.count, Nat.sub_self]
      rfl
    simp only [List.getElem?_map, here, Option.map_some, List.getElem?_zipIdx,
      List.getElem?_take] at places
    split at places
    · cases found : exec.commands[run.index]? with
      | none => simp [found] at places
      | some command =>
        simp only [found, Option.map_some, Option.some.injEq, Prod.mk.injEq, Nat.zero_add] at places
        obtain ⟨index, command, ctx⟩ := next
        obtain ⟨rfl, rfl⟩ := places
        exact .inr ⟨_, ctx, others, rfl, split.symm⟩
    · simp at places

end Run

end PageScript
