import PageScript.Proofs.Run.Order
import PageScript.Proofs.Run.Refinement

/-! Whether a run comes to its end. Each step brings it nearer, but for those of a wait, which lead
back to where it began. So a run that does not end waits in a pause for ever. -/
namespace PageScript

def Phase.ahead : Phase → Nat
  | arrival => 7
  | pauseCheck => 6
  | pauseConfirm => 5
  | waitCheck | waitConfirm => 4
  | releaseCheck => 3
  | stopCheck => 2
  | announcement => 1
  | execution | ended => 0

namespace Run

variable {κ : Type} [Command κ] {run : Run κ}

def Ends (run : Run κ) : Prop := ∃ last, run.Reaches last ∧ last.phase = .ended

def StaysPaused (run : Run κ) : Prop := ∀ steps, (run.after steps).phase.waiting = true

def Settles (run : Run κ) : Prop := run.Ends ∨ ∃ later, run.Reaches later ∧ later.StaysPaused

theorem Settles.before {later : Run κ} (reaches : run.Reaches later) (settles : later.Settles) :
    run.Settles := by
  obtain ⟨last, further, ended⟩ | ⟨last, further, stays⟩ := settles
  · exact .inl ⟨last, reaches.trans further, ended⟩
  · exact .inr ⟨last, reaches.trans further, stays⟩

def ahead (run : Run κ) : Nat := 8 * run.rest.length + run.phase.ahead

inductive Nears (run next : Run κ) : Prop
  | ended (phase : next.phase = .ended)
  | nearer (less : next.ahead < run.ahead)
  | waiting (before : run.phase.waiting = true) (after : next.phase.waiting = true)
      (same : next.ahead = run.ahead)

omit [Command κ] in
theorem Nears.goTo (phase : Phase) (ctx : Context) (less : phase.ahead < run.phase.ahead) :
    Nears run (run.goTo phase ctx) :=
  .nearer (Nat.add_lt_add_left less _)

theorem stepNears {command : κ} {rest : List κ} (queue : run.rest = command :: rest)
    (goesOn : run.phase ≠ .ended) : Nears run run.step := by
  cases phase : run.phase with
  | execution =>
    obtain ⟨next, tally, stepped, -⟩ := stepCompletes queue phase
    rw [stepped]
    cases next with
    | false => exact .ended rfl
    | true =>
      refine .nearer ?_
      simp only [ahead, complete, phase, queue, List.length_cons, if_true, Phase.ahead]
      omega
  | ended => exact absurd phase goesOn
  | waitCheck =>
    simp only [step, queue, advance, phase]
    split
    · exact .waiting (by rw [phase]; rfl) rfl (by simp [ahead, phase, Phase.ahead])
    · exact .goTo _ _ (by rw [phase]; decide)
  | waitConfirm =>
    simp only [step, queue, advance, phase]
    split
    · exact .waiting (by rw [phase]; rfl) rfl (by simp [ahead, phase, Phase.ahead])
    · exact .goTo _ _ (by rw [phase]; decide)
  | stopCheck =>
    simp only [step, queue, advance, phase]
    split
    · exact .goTo _ _ (by rw [phase]; decide)
    · exact .ended rfl
  | arrival | releaseCheck | announcement =>
    simp only [step, queue, advance, phase]
    exact .goTo _ _ (by rw [phase]; decide)
  | pauseCheck | pauseConfirm =>
    simp only [step, queue, advance, phase]
    split
    all_goals exact .goTo _ _ (by rw [phase]; decide)

theorem leavesWait {steps : Nat} (leaves : (run.after steps).phase.waiting = false)
    (busy : run.rest ≠ []) (waits : run.phase.waiting = true) :
    ∃ later, run.Reaches later ∧ (later.phase = .ended ∨ later.ahead < run.ahead) := by
  induction steps generalizing run with
  | zero => simp [waits] at leaves
  | succ steps ih =>
    obtain ⟨command, rest, queue⟩ := List.exists_cons_of_ne_nil busy
    have goesOn : run.phase ≠ .ended := by
      intro ended
      simp [ended, Phase.waiting] at waits
    have notNow : run.phase ≠ .execution := by
      intro executes
      simp [executes, Phase.waiting] at waits
    obtain ⟨phase, ctx, stepped⟩ := stepStays queue notNow
    cases stepNears queue goesOn with
    | ended ended => exact ⟨run.step, ⟨1, rfl⟩, .inl ended⟩
    | nearer less => exact ⟨run.step, ⟨1, rfl⟩, .inr less⟩
    | waiting _ after same =>
      obtain ⟨later, further, nearer⟩ := @ih run.step leaves (by rw [stepped]; exact busy) after
      exact ⟨later, .trans ⟨1, rfl⟩ further, same ▸ nearer⟩

/-- Any commands may be left, and any actions may come. -/
theorem settles (run : Run κ) : run.Settles := by
  generalize count : run.ahead = ahead
  induction ahead using Nat.strongRecOn generalizing run with
  | ind ahead ih =>
    subst count
    have nearer {later : Run κ} (reaches : run.Reaches later)
        (gets : later.phase = .ended ∨ later.ahead < run.ahead) : run.Settles := by
      rcases gets with ended | less
      · exact .inl ⟨later, reaches, ended⟩
      · exact .before reaches (ih later.ahead less later rfl)
    by_cases ended : run.phase = .ended
    · exact .inl ⟨run, .refl run, ended⟩
    cases queue : run.rest with
    | nil => exact nearer ⟨1, stepNil queue⟩ (.inl rfl)
    | cons command rest =>
      cases stepNears queue ended with
      | ended phase => exact nearer ⟨1, rfl⟩ (.inl phase)
      | nearer less => exact nearer ⟨1, rfl⟩ (.inr less)
      | waiting before _ _ =>
        by_cases stays : run.StaysPaused
        · exact .inr ⟨run, .refl run, stays⟩
        · obtain ⟨steps, leaves⟩ := Classical.not_forall.mp stays
          obtain ⟨later, reaches, gets⟩ :=
            leavesWait (Bool.eq_false_iff.mpr leaves) (by simp [queue]) before
          exact nearer reaches gets

end Run

end PageScript
