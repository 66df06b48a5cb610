import Mathlib.Algebra.Order.Floor.Div
import PageScript.Run.Clock

/-! The time that passes in a loop that reads the clock and naps, at each of its rounds. A clock may
go ahead by any time before a reading, so that the readings may be any that are a nap apart. -/
namespace PageScript

namespace Clock

/-- The time that has passed at each round, where a round reads the clock once and naps once. -/
def elapsed (clock : Clock) (nap : Nat) : Nat → Nat
  | 0 => clock.lag clock.readings
  | round + 1 => elapsed clock nap round + max nap 1 + clock.lag (clock.readings + (round + 1))

theorem elapsedNext (clock : Clock) (nap round : Nat) : clock.elapsed nap (round + 1) =
    clock.elapsed nap 0 + max nap 1 + (clock.read.2.sleep nap).elapsed nap round := by
  induction round with
  | zero => rfl
  | succ round ih =>
    have lag : clock.lag (clock.readings + (round + 1 + 1)) =
        clock.lag (clock.readings + 1 + (round + 1)) := by congr 1; omega
    have here : clock.elapsed nap (round + 1 + 1) = clock.elapsed nap (round + 1) + max nap 1 +
        clock.lag (clock.readings + (round + 1 + 1)) := rfl
    have there : (clock.read.2.sleep nap).elapsed nap (round + 1) =
        (clock.read.2.sleep nap).elapsed nap round + max nap 1 +
          clock.lag (clock.readings + 1 + (round + 1)) := rfl
    rw [here, ih, there, lag]
    omega

theorem elapsedSpan (clock : Clock) (nap round : Nat) :
    round * max nap 1 ≤ clock.elapsed nap round := by
  induction round with
  | zero => simp
  | succ round ih =>
    rw [elapsed, Nat.succ_mul]
    omega

theorem elapsedAdvances (clock : Clock) (nap round : Nat) :
    clock.elapsed nap round + nap ≤ clock.elapsed nap (round + 1) := by
  rw [elapsed]
  omega

theorem elapsedAny {nap : Nat} (positive : 0 < nap) {readings : Nat → Nat}
    (advances : ∀ round, readings round + nap ≤ readings (round + 1)) :
    ∃ lag : Nat → Nat, ∀ now : Nat, ({ now, lag } : Clock).elapsed nap = readings := by
  refine ⟨fun | 0 => readings 0 | round + 1 => readings (round + 1) - (readings round + nap), ?_⟩
  intro now
  funext round
  induction round with
  | zero => rfl
  | succ round ih =>
    have advance := advances round
    rw [elapsed, ih, Nat.zero_add, Nat.max_eq_left positive]
    exact Nat.add_sub_cancel' advance

theorem elapsedBound (clock : Clock) {nap : Nat} (positive : 0 < nap) {total rounds : Nat}
    (inTime : ∀ round < rounds, clock.elapsed nap round < total) : rounds ≤ total ⌈/⌉ nap := by
  cases rounds with
  | zero => exact Nat.zero_le _
  | succ rounds =>
    have span := clock.elapsedSpan nap rounds
    rw [Nat.max_eq_left positive, Nat.mul_comm] at span
    have early : nap * rounds < total :=
      Nat.lt_of_le_of_lt span (inTime rounds (Nat.lt_succ_self _))
    exact Nat.lt_of_not_le fun few =>
      Nat.not_le_of_lt early ((ceilDiv_le_iff_le_mul positive).mp few)

end Clock

end PageScript
