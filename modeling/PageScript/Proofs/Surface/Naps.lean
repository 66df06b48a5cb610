import PageScript.Proofs.Command.Canonical
import PageScript.Proofs.Number.Rounding
import PageScript.Proofs.Run.Wait
import PageScript.Proofs.Surface.Rounds
import PageScript.Script.Lines

/-! Waits that are cut into naps (`Naps`). A nap is a step of the wait, or what is left of it, and
events are drained before each; so the length of a wait and its step tell how often events are
drained. A pause that was built is such a wait, as long as its seconds to the nanosecond. -/
namespace PageScript

namespace Surface

def polled (polls : Nat) : Surface → Surface := (fun surface => surface.poll.1)^[polls]

theorem polledNone : polled 0 = id := rfl

theorem polledMore (polls more : Nat) : polled more ∘ polled polls = polled (polls + more) := by
  rw [Nat.add_comm]
  exact (Function.iterate_add ..).symm

theorem polledCounts (surface : Surface) (polls : Nat) :
    (surface.polled polls).stage.polls = surface.stage.polls + polls := by
  induction polls generalizing surface with
  | zero => rfl
  | succ polls ih =>
    have first := surface.pollCounts
    have others := ih surface.poll.1
    rw [polled, Function.iterate_succ_apply]
    rw [polled] at others
    omega

/-- So many polls of a surface, if there is one, and no others. -/
structure Polled (polls : Nat) (before after : Option Surface) : Prop where
  surface : after = before.map (polled polls)
  counted : after.map (·.stage.polls) = before.map (·.stage.polls + polls)

theorem polledOf {polls : Nat} {before after : Option Surface}
    (surface : after = before.map (polled polls)) : Polled polls before after where
  surface := surface
  counted := by
    rw [surface, Option.map_map]
    exact congrArg (Option.map · before) (funext fun surface => surface.polledCounts polls)

end Surface

namespace WaitPolicy

theorem polledAdd (wait : WaitPolicy) (first others : Nat) :
    wait.polled first + wait.polled others = wait.polled (first + others) := by
  unfold polled
  split <;> rfl

end WaitPolicy

namespace Context

theorem drainSurface (ctx : Context) :
    ctx.drain.1.surface = ctx.surface.map (Surface.polled (ctx.wait.polled 1)) := by
  unfold drain WaitPolicy.polled
  cases ctx.wait.drainEvents with
  | false => simp [Surface.polledNone]
  | true =>
    cases shown : ctx.surface with
    | none => exact shown
    | some surface => rfl

/-! ### Naps of a wait -/

/-- What is left of a wait after a nap is what the nap takes from it, so nothing is taken from a
wait that is not there. -/
inductive Naps (step : Nat) : Nat → Context → List Nat → Context → Prop
  | done (ctx : Context) : Naps step 0 ctx [] ctx
  | nap {remaining length left : Nat} {ctx last : Context} {naps : List Nat}
      (pending : 0 < remaining) (cut : length = min remaining step)
      (exact : length + left = remaining)
      (further : Naps step left (ctx.drain.1.sleep length) naps last) :
      Naps step remaining ctx (length :: naps) last

variable {step remaining : Nat} {ctx last : Context} {naps : List Nat}

theorem idleNaps (positive : 0 < step) (remaining : Nat) (ctx : Context) :
    ∃ naps, Naps step remaining ctx naps (idleIn step remaining ctx) := by
  fun_induction idleIn step remaining ctx with
  | case1 remaining ctx none =>
    obtain rfl : remaining = 0 := by omega
    exact ⟨[], .done ctx⟩
  | case2 remaining ctx more nap =>
    rename_i ih
    obtain ⟨naps, further⟩ := ih
    exact ⟨nap :: naps, .nap (by omega) rfl (by omega) further⟩

theorem Naps.total (taken : Naps step remaining ctx naps last) : naps.sum = remaining := by
  induction taken with
  | done => rfl
  | nap _ _ exact _ ih => rw [List.sum_cons, ih, exact]

theorem Naps.each (taken : Naps step remaining ctx naps last) (positive : 0 < step) :
    ∀ nap ∈ naps, 0 < nap ∧ nap ≤ step := by
  induction taken with
  | done => nofun
  | nap pending cut _ _ ih =>
    refine List.forall_mem_cons.mpr ⟨?_, ih⟩
    omega

theorem Naps.count (taken : Naps step remaining ctx naps last) (positive : 0 < step) :
    naps.length = remaining ⌈/⌉ step := by
  induction taken with
  | done => rw [zero_ceilDiv, List.length_nil]
  | nap pending cut exact _ ih =>
    rw [Rehearsal.History.stepsNext pending positive, List.length_cons, ih]
    congr 2
    omega

theorem Naps.surface (taken : Naps step remaining ctx naps last) :
    last.surface = ctx.surface.map (Surface.polled (ctx.wait.polled naps.length)) := by
  induction taken with
  | done ctx =>
    have none : ctx.wait.polled 0 = 0 := ite_self 0
    rw [List.length_nil, none, Surface.polledNone, Option.map_id, id]
  | @nap _ length _ ctx _ naps _ _ _ _ ih =>
    have wait : (ctx.drain.1.sleep length).wait = ctx.wait := Rehearsal.History.drainWait ctx
    have first : (ctx.drain.1.sleep length).surface = _ := ctx.drainSurface
    rw [ih, wait, first, Option.map_map, Surface.polledMore, WaitPolicy.polledAdd,
      List.length_cons, Nat.add_comm]

theorem Naps.clock (taken : Naps step remaining ctx naps last) (positive : 0 < step) :
    last.clock = { ctx.clock with now := ctx.clock.now + remaining } := by
  induction taken with
  | done => rfl
  | @nap _ length _ ctx _ _ pending cut exact _ ih =>
    have slept : (ctx.drain.1.sleep length).clock = ctx.clock.sleep length :=
      congrArg (Clock.sleep · length) (Navigate.drainClock ctx)
    have whole : max length 1 = length := by omega
    rw [ih, slept, Clock.sleep, whole, ← exact, Nat.add_assoc]

theorem Naps.idles (taken : Naps step remaining ctx naps last) : ctx.Idles last := by
  induction taken with
  | done ctx => exact .refl ctx
  | nap _ _ _ _ ih => exact ((idlesDrain _).trans (idlesSleep ..)).trans ih

/-- Time has passed, and the surface was polled for each step of it that has begun. -/
structure Passed (before : Context) (total : Nanoseconds) (after : Context) : Prop where
  clock : after.clock = { before.clock with now := before.clock.now + total }
  surface : Surface.Polled (before.wait.polled (total ⌈/⌉ before.idleStep))
    before.surface after.surface

theorem Passed.begun {total : Nanoseconds} {message : String}
    (passed : (ctx.info message).Passed total last) : ctx.Passed total last :=
  ⟨passed.clock, passed.surface⟩

theorem Passed.ended {total : Nanoseconds} (passed : ctx.Passed total last) (message : String) :
    ctx.Passed total (last.info message) :=
  ⟨passed.clock, passed.surface⟩

theorem nothingPassed (ctx : Context) : ctx.Passed 0 ctx where
  clock := rfl
  surface := by
    have none : ctx.wait.polled 0 = 0 := ite_self 0
    rw [zero_ceilDiv, none]
    exact Surface.polledOf (congrFun Option.map_id ctx.surface).symm

structure Idled (before : Context) (total : Nanoseconds) (after : Context) : Prop
    extends Passed before total after where
  naps : ∃ naps, Naps before.idleStep total before naps after ∧ naps.sum = total ∧
    naps.length = total ⌈/⌉ before.idleStep ∧ ∀ nap ∈ naps, 0 < nap ∧ nap ≤ before.idleStep
  idles : before.Idles after

theorem idleStepPositive (ctx : Context) : 0 < ctx.idleStep :=
  Nat.lt_of_lt_of_le (by decide) (Nat.le_max_right _ _)

theorem idleForIdled (ctx : Context) (total : Nanoseconds) :
    ctx.Idled total (ctx.idleFor total) := by
  have positive := ctx.idleStepPositive
  obtain ⟨naps, taken⟩ := idleNaps positive total ctx
  have count := taken.count positive
  have passed := Passed.mk (taken.clock positive) (Surface.polledOf (count ▸ taken.surface))
  exact ⟨passed, ⟨naps, taken, taken.total, count, taken.each positive⟩, taken.idles⟩

end Context

namespace Pause

/-! ### Pauses that are built -/

inductive Built : Pause → Prop
  | number {command : Pause} (seconds : Quantity) (built : ofQuantity seconds = .ok command) :
      Built command
  | record {command : Pause} (record : Record) (built : ofRecord record = .ok command) :
      Built command
  | line {command : Pause} (text : String) (script : Script) (record : Record)
      (parsed : LineScript.parse text = .ok script) (among : record ∈ script.commands)
      (built : Registry.builtins.build record = .ok (Builtin.pause command)) : Built command

variable {command : Pause}

theorem buildPause {record : Record}
    (built : Registry.builtins.build record = .ok (Builtin.pause command)) :
    ofRecord record = .ok command := by
  obtain ⟨factory, found, read⟩ := Registry.buildFactory built
  have member := Registry.getMember found
  rw [Registry.builtinsFactories] at member
  simp only [Builtin.factories, List.map_cons, List.map_nil, List.mem_cons, List.not_mem_nil,
    or_false, Prod.mk.injEq] at member
  rcases member with ⟨-, rfl⟩ | ⟨-, rfl⟩ | ⟨-, rfl⟩ | ⟨-, rfl⟩
  all_goals
    obtain ⟨builtin, read, same⟩ := Result.mapOk.mp read
    obtain ⟨other, read, made⟩ := Result.mapOk.mp read
    cases made.trans same
  exact read

theorem Built.made (built : Built command) : make command.seconds = .ok command := by
  cases built with
  | number seconds built =>
    cases seconds with
    | finite x => exact Pause.made built
    | infinite => cases built
    | undefined => cases built
  | record record built => exact ofRecordMade built
  | line _ _ record _ _ built => exact ofRecordMade (buildPause built)

/-- How long some seconds are, to the nearest nanosecond, where a duration can be as long. -/
structure Lasts (seconds : Double) (duration : Nanoseconds) : Prop where
  notBelow : 0 ≤ seconds.value
  within : duration < limit
  rounded : Double.Rounds (seconds.value * 10 ^ 9) duration

theorem madeLasts (made : make command.seconds = .ok command) :
    Lasts command.seconds command.seconds.nanoseconds := by
  unfold make at made
  split at made
  · cases made
  rename_i notBelow
  split at made
  · cases made
  rename_i below
  have notBelow : 0 ≤ command.seconds.value :=
    Double.notBelowZero.mp (Bool.eq_false_iff.mpr notBelow)
  have rounded :=
    Double.halfEvenRounds (command.seconds.ratio.1 * 10 ^ 9) command.seconds.ratioPositive
  refine ⟨notBelow, Nat.lt_of_not_le below, ?_⟩
  rw [nanosecondsRatio, Double.valueMagnitude notBelow, Double.magnitudeRatio, div_mul_eq_mul_div]
  exact_mod_cast rounded

theorem nothingLasts {seconds : Double} (notBelow : 0 ≤ seconds.value)
    (notAbove : ¬seconds.isAboveZero) : seconds.nanoseconds = 0 := by
  have notNegative := Double.notBelowZero.mpr notBelow
  have none : seconds.significand = 0 := by
    simp only [Double.isBelowZero, Double.isAboveZero, Double.isZero] at notNegative notAbove
    cases negative : seconds.negative <;> simp_all
  have nothing : seconds.ratio.1 = 0 := by
    unfold Double.ratio
    split <;> simp [none]
  rw [nanosecondsRatio, nothing, Nat.zero_mul]
  simp [Double.halfEven]

theorem executePassed (ctx : Context) (lasts : Lasts command.seconds command.seconds.nanoseconds) :
    ∃ after, command.execute ctx = (after, .ok ()) ∧
      ctx.Passed command.seconds.nanoseconds after := by
  unfold execute
  split
  · have idled := Context.idleForIdled
      (ctx.info s!"Pausing for {secondsText command.seconds} seconds...")
      command.seconds.nanoseconds
    exact ⟨_, rfl, idled.begun.ended "Pause complete"⟩
  · rename_i notAbove
    rw [nothingLasts lasts.notBelow notAbove]
    exact ⟨_, rfl, ctx.nothingPassed.ended _⟩

/-- An idle wait takes as long as it is to take, in naps that are no longer than its step. A pause
that was built has seconds that a wait can be as long as, and waits for them. -/
theorem executeIdles (ctx : Context) :
    (∀ total, ctx.Idled total (ctx.idleFor total)) ∧
    ∀ command : Pause, Built command →
      Lasts command.seconds command.seconds.nanoseconds ∧
      ∃ after, command.execute ctx = (after, .ok ()) ∧
        ctx.Passed command.seconds.nanoseconds after := by
  refine ⟨ctx.idleForIdled, fun command built => ?_⟩
  have lasts := madeLasts built.made
  exact ⟨lasts, executePassed ctx lasts⟩

theorem executeIdlesText :
    let ctx : Context :=
      { surface := some {}, wait := { WaitPolicy.immediate with pollInterval := .ofMillis 400 } }
    let record : Record := ⟨pauseKind, [("seconds", .string "1.5")]⟩
    ∃ command after, ofRecord record = .ok command ∧ command.execute ctx = (after, .ok ()) ∧
      after.clock.now = Nanoseconds.ofMillis 1500 ∧ after.surface.map (·.stage.polls) = some 4 := by
  intro ctx record
  let command : Pause := ⟨⟨false, 6755399441055744, -52, by decide⟩⟩
  have built : ofRecord record = .ok command := by decide +kernel
  obtain ⟨-, after, done, passed⟩ := (executeIdles ctx).2 command (.record record built)
  have length : command.seconds.nanoseconds = Nanoseconds.ofMillis 1500 := by decide +kernel
  rw [length] at passed
  exact ⟨command, after, built, done, by simp [passed.clock, ctx],
    passed.surface.counted.trans (by decide)⟩

end Pause

end PageScript
