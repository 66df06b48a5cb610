import PageScript.Proofs.Run.Elapsed
import PageScript.Proofs.Run.Records
import PageScript.Proofs.Surface.Visit

/-! Rounds of a wait, each of which drains events and naps. In a wait for a load a round looks at
the time first; it is over with the signal, or with the first round for which there is no time left.
What rounds leave is a number of polls and readings of the clock (`Waited`). -/
namespace PageScript

namespace WaitPolicy

/-- How many polls there are in so many rounds. -/
def polled (wait : WaitPolicy) (rounds : Nat) : Nat := if wait.drainEvents then rounds else 0

/-- How many polls there are while a page is painted. -/
def settled (wait : WaitPolicy) : Nat :=
  wait.polled (wait.settleDelay ⌈/⌉ max wait.pollInterval (.ofMillis 1))

end WaitPolicy

def Navigate.painting (wait : WaitPolicy) : List (LogLevel × String) :=
  if wait.settleDelay = 0 then []
  else [(.info, "Allowing render process to complete painting...")]

namespace Rehearsal.History

open Navigate

variable {past : History} {number : Nat} {ctx : Context} {listener : ListenerId}
  {timeout started passed : Nat}

/-! ### One round -/

/-- The polls of so many rounds. -/
def drained (number : Nat) (wait : WaitPolicy) (rounds : Nat) : History :=
  pollsOf number (wait.polled rounds)

theorem drainedNone (number : Nat) (wait : WaitPolicy) : drained number wait 0 = [] := by
  unfold drained WaitPolicy.polled
  split <;> rfl

theorem drainedOne (number : Nat) {wait : WaitPolicy} (drains : wait.drainEvents = true) :
    drained number wait 1 = [⟨number, .processEvents⟩] := by
  rw [drained, WaitPolicy.polled, if_pos drains]
  rfl

theorem drainedNext (number : Nat) (wait : WaitPolicy) (rounds : Nat) (past : History) :
    drained number wait rounds ++ (drained number wait 1 ++ past) =
      drained number wait (rounds + 1) ++ past := by
  unfold drained WaitPolicy.polled
  split
  · simp [pollsOf, List.replicate_succ']
  · rfl

theorem connectedDrained (number : Nat) (wait : WaitPolicy) (rounds : Nat) (past : History) :
    connected (drained number wait rounds ++ past) = connected past :=
  connectedPolls number _ past

theorem toldAll (past : History) (number : Nat) (signals : List Signal) :
    ((after past).surface number {}).told signals = signals := by
  simp [Surface.told, surface]

theorem drainShows (shows : Shows past number {} ctx) :
    Shows (drained number ctx.wait 1 ++ past) number {} ctx.drain.1 ∧ ctx.drain.2 =
      if ctx.wait.drainEvents ∧ Fires past ⟨number, .processEvents⟩
      then (connected past).map (⟨·, true⟩) else [] := by
  have fired := pollFired (afterAgrees past) number
  unfold Context.drain drained WaitPolicy.polled
  cases ctx.wait.drainEvents with
  | false => exact ⟨shows, by simp⟩
  | true =>
    simp only [Bool.not_true, Bool.false_eq_true, if_false, if_true, true_and]
    rw [shows]
    refine ⟨rfl, ?_⟩
    exact (toldAll past number _).trans fired

def round (ctx : Context) : Context :=
  (Context.drain { ctx with clock := ctx.clock.read.2 }).1.sleep ctx.wait.pollInterval

theorem drainWait (ctx : Context) : ctx.drain.1.wait = ctx.wait := by
  unfold Context.drain
  split
  · rfl
  · split <;> rfl

/-- What rounds of a wait leave, with so many readings of the clock. -/
structure Waited (past : History) (number rounds readings : Nat) (before after : Context) :
    Prop where
  shows : Shows (drained number before.wait rounds ++ past) number {} after
  records : before.Records after []
  wait : after.wait = before.wait
  readings : after.clock.readings = before.clock.readings + readings

theorem Waited.next {between after : Context} {rounds readings looks : Nat}
    (first : Waited past number 1 looks ctx between)
    (others : Waited (drained number ctx.wait 1 ++ past) number rounds readings between after) :
    Waited past number (rounds + 1) (readings + looks) ctx after where
  shows := by
    have shows := others.shows
    rwa [first.wait, drainedNext] at shows
  records := first.records.trans others.records
  wait := others.wait.trans first.wait
  readings := by
    rw [others.readings, first.readings]
    omega

theorem napWaited (shows : Shows past number {} ctx) (nap : Nat) :
    Waited past number 1 0 ctx (ctx.drain.1.sleep nap) where
  shows := (drainShows shows).1
  records := (Context.recordsDrain ctx).trans (Context.recordsSleep ..)
  wait := drainWait ctx
  readings := by
    rw [Context.sleep, Clock.sleep, drainClock]
    rfl

theorem roundWaited (shows : Shows past number {} ctx) :
    Waited past number 1 1 ctx (round ctx) := by
  have read : ctx.Records { ctx with clock := ctx.clock.read.2 } [] := .ofSame rfl rfl rfl rfl
  have reads : Shows past number {} { ctx with clock := ctx.clock.read.2 } := shows
  have naps := napWaited reads ctx.wait.pollInterval
  exact ⟨naps.shows, read.trans naps.records, naps.wait, naps.readings⟩

theorem roundClock (ctx : Context) :
    (round ctx).clock = ctx.clock.read.2.sleep ctx.wait.pollInterval := by
  rw [round, Context.sleep, drainClock]

theorem roundNow (now : ctx.clock.now = started + passed) : (round ctx).clock.now = started +
    (passed + ctx.clock.elapsed ctx.wait.pollInterval 0 + max ctx.wait.pollInterval 1) := by
  rw [roundClock]
  simp only [Clock.sleep, Clock.read, now, Clock.elapsed, Nat.add_assoc]

theorem awaitRound (now : ctx.clock.now = started + passed)
    (early : passed + ctx.clock.elapsed ctx.wait.pollInterval 0 < timeout) :
    awaitLoad listener timeout started none ctx =
      awaitLoad listener timeout started
        (heard listener none (Context.drain { ctx with clock := ctx.clock.read.2 }).2)
        (round ctx) := by
  rw [awaitLoad]
  have notYet : ¬timeout ≤ ctx.clock.read.1 - started := by
    simp only [Clock.read, now]
    simp only [Clock.elapsed] at early
    omega
  dsimp only
  rw [if_neg notYet]
  rfl

/-! ### Rounds of a wait for a load -/

theorem heardStill (listener : ListenerId) (ids : List ListenerId) :
    heard listener (some true) (ids.map (⟨·, true⟩)) = some true := by
  induction ids with
  | nil => rfl
  | cons id ids ih =>
    rw [List.map_cons, heard, List.foldl_cons]
    split <;> exact ih

theorem heardAll {ids : List ListenerId} (among : listener ∈ ids) (before : Option Bool) :
    heard listener before (ids.map (⟨·, true⟩)) = some true := by
  induction ids generalizing before with
  | nil => cases among
  | cons id ids ih =>
    rw [List.map_cons, heard, List.foldl_cons]
    rcases List.mem_cons.mp among with rfl | further
    · rw [if_pos rfl]
      exact heardStill listener ids
    · exact ih further _

theorem underwayDrained (number : Nat) {wait : WaitPolicy} (drains : wait.drainEvents = true)
    (past : History) : underway (drained number wait 1 ++ past) =
      (underway past).map fun (load, polls) => (load, polls + 1) := by
  rw [drainedOne number drains]
  rfl

theorem roundElapsed (ctx : Context) (passed later : Nat) :
    passed + ctx.clock.elapsed ctx.wait.pollInterval (later + 1) =
      passed + ctx.clock.elapsed ctx.wait.pollInterval 0 + max ctx.wait.pollInterval 1 +
        (round ctx).clock.elapsed (round ctx).wait.pollInterval later := by
  have wait : (round ctx).wait = ctx.wait := drainWait _
  rw [wait, roundClock, Clock.elapsedNext]
  simp only [Nat.add_assoc]

theorem roundTimely {rounds : Nat} (inTime : ∀ later < rounds + 1,
    passed + ctx.clock.elapsed ctx.wait.pollInterval later < timeout) :
    ∀ later < rounds,
      passed + ctx.clock.elapsed ctx.wait.pollInterval 0 + max ctx.wait.pollInterval 1 +
        (round ctx).clock.elapsed (round ctx).wait.pollInterval later < timeout := by
  intro later before
  rw [← roundElapsed]
  exact inTime (later + 1) (Nat.succ_lt_succ before)

theorem roundSignals (shows : Shows past number {} ctx) :
    (Context.drain { ctx with clock := ctx.clock.read.2 }).2 =
      if ctx.wait.drainEvents ∧ countdown (underway past) = some 1
      then (connected past).map (⟨·, true⟩) else [] := by
  have read : Shows past number {} { ctx with clock := ctx.clock.read.2 } := shows
  simpa only [firesPoll] using (drainShows read).2

/-- The signal comes with the round that its countdown names, if there is time for each before. -/
theorem awaitHeard {rounds : Nat} (shows : Shows past number {} ctx)
    (listens : listener ∈ connected past) (drains : ctx.wait.drainEvents = true)
    (pending : countdown (underway past) = some (rounds + 1))
    (now : ctx.clock.now = started + passed)
    (inTime : ∀ round < rounds + 1,
      passed + ctx.clock.elapsed ctx.wait.pollInterval round < timeout) :
    ∃ after, awaitLoad listener timeout started none ctx = (after, .ok true) ∧
      Waited past number (rounds + 1) (rounds + 1) ctx after := by
  induction rounds generalizing past ctx passed with
  | zero =>
    have signals := roundSignals shows
    rw [if_pos ⟨drains, pending⟩] at signals
    rw [awaitRound now (inTime 0 Nat.zero_lt_one), signals, heardAll listens, awaitLoad]
    exact ⟨_, rfl, roundWaited shows⟩
  | succ rounds ih =>
    have waits := roundWaited shows
    have signals := roundSignals shows
    rw [if_neg (by simp [pending])] at signals
    rw [awaitRound now (inTime 0 (Nat.succ_pos _)), signals]
    have further : countdown (underway (drained number ctx.wait 1 ++ past)) =
        some (rounds + 1) := by
      rw [underwayDrained number drains, countdownNext, pending]
      simp
    obtain ⟨after, ends, others⟩ := ih waits.shows (by rwa [connectedDrained])
      (by rw [waits.wait, drains]) further (roundNow now) (roundTimely inTime)
    exact ⟨after, ends, waits.next others⟩

/-- No signal comes with any of so many rounds. -/
def Quiet (past : History) (wait : WaitPolicy) (rounds : Nat) : Prop :=
  wait.drainEvents = true →
    ∀ remaining, countdown (underway past) = some remaining → rounds < remaining

theorem Quiet.silent {wait : WaitPolicy} {rounds : Nat} (quiet : Quiet past wait (rounds + 1)) :
    ¬(wait.drainEvents ∧ countdown (underway past) = some 1) := by
  rintro ⟨drains, last⟩
  have more := quiet drains 1 last
  omega

theorem Quiet.next {wait : WaitPolicy} {rounds : Nat} (quiet : Quiet past wait (rounds + 1)) :
    Quiet (drained number wait 1 ++ past) wait rounds := by
  intro drains remaining pending
  rw [underwayDrained number drains, countdownNext] at pending
  split at pending
  · cases pending
  · rename_i before counts
    have more := quiet drains before counts
    split at pending
    · cases pending
    · cases pending
      omega

/-- There is time for the rounds, but for no more, and none of them brings the signal. -/
theorem awaitTimesOut {rounds : Nat} (shows : Shows past number {} ctx)
    (quiet : Quiet past ctx.wait rounds)
    (now : ctx.clock.now = started + passed)
    (inTime : ∀ round < rounds,
      passed + ctx.clock.elapsed ctx.wait.pollInterval round < timeout)
    (late : timeout ≤ passed + ctx.clock.elapsed ctx.wait.pollInterval rounds) :
    ∃ after waited, awaitLoad listener timeout started none ctx = (after, .error waited) ∧
      timeout ≤ waited ∧ Waited past number rounds (rounds + 2) ctx after := by
  induction rounds generalizing past ctx passed with
  | zero =>
    have spent : timeout ≤ ctx.clock.read.1 - started := by
      simp only [Clock.read, now]
      simp only [Clock.elapsed] at late
      omega
    rw [awaitLoad]
    dsimp only
    rw [if_pos spent]
    refine ⟨_, _, rfl, ?_, ?_, .ofSame rfl rfl rfl rfl, rfl, rfl⟩
    · simp only [Clock.read] at spent ⊢
      omega
    · rw [drainedNone]
      exact shows
  | succ rounds ih =>
    have waits := roundWaited shows
    have signals := roundSignals shows
    rw [if_neg quiet.silent] at signals
    rw [awaitRound now (inTime 0 (Nat.succ_pos _)), signals]
    have further : Quiet (drained number ctx.wait 1 ++ past) (round ctx).wait rounds := by
      rw [waits.wait]
      exact quiet.next
    obtain ⟨after, waited, ends, spent, others⟩ := ih waits.shows further (roundNow now)
      (roundTimely inTime) (by rwa [← roundElapsed])
    exact ⟨after, waited, ends, spent, waits.next others⟩

/-! ### Rounds while a page is painted -/

theorem stepsNext {total step : Nat} (some : 0 < total) (positive : 0 < step) :
    total ⌈/⌉ step = (total - min total step) ⌈/⌉ step + 1 := by
  simp only [Nat.ceilDiv_eq_add_pred_div]
  rcases Nat.le_total total step with last | more
  · rw [Nat.min_eq_left last, Nat.sub_self, Nat.zero_add,
      Nat.div_eq_of_lt (Nat.sub_lt positive Nat.one_pos)]
    exact Nat.div_eq_of_lt_le (by omega) (by omega)
  · rw [Nat.min_eq_right more, ← Nat.add_div_right _ positive]
    congr 1
    omega

theorem idleWaited {step : Nat} (positive : 0 < step) (remaining : Nat) (ctx : Context) :
    ∀ {past : History}, Shows past number {} ctx →
      Waited past number (remaining ⌈/⌉ step) 0 ctx (Context.idleIn step remaining ctx) := by
  fun_induction Context.idleIn step remaining ctx with
  | case1 remaining ctx none =>
    intro past shows
    obtain rfl : remaining = 0 := by omega
    rw [zero_ceilDiv]
    exact ⟨by rwa [drainedNone], .refl ctx, rfl, rfl⟩
  | case2 remaining ctx more nap =>
    rename_i ih
    intro past shows
    have naps := napWaited shows nap
    rw [stepsNext (by omega) positive]
    exact naps.next (ih naps.shows)

theorem settleWaited (shows : Shows past number {} ctx) :
    ∃ entries, ctx.Records (settle ctx) entries ∧ entries.map LogEntry.said = painting ctx.wait ∧
      Shows (pollsOf number ctx.wait.settled ++ past) number {} (settle ctx) ∧
      (settle ctx).clock.readings = ctx.clock.readings := by
  unfold settle painting
  have positive : 0 < ctx.idleStep := Nat.lt_of_lt_of_le (by decide) (Nat.le_max_right _ _)
  have idles := idleWaited positive ctx.wait.settleDelay
    (ctx.info "Allowing render process to complete painting...") shows
  split
  · rename_i none
    have nothing : pollsOf number ctx.wait.settled = [] := by
      rw [WaitPolicy.settled, none, zero_ceilDiv]
      exact drainedNone number ctx.wait
    exact ⟨[], .refl ctx, rfl, by rwa [nothing], rfl⟩
  · have logged := ctx.recordsInfo "Allowing render process to complete painting..."
    exact ⟨_, logged.trans idles.records, rfl, idles.shows, idles.readings⟩

end Rehearsal.History

end PageScript
