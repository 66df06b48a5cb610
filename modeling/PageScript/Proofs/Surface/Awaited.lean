import PageScript.Proofs.Surface.Rounds

/-! Going to a URL and waiting for its load. The signal is never missed and never that of another
load: a load that was under way before is given up with the visit, and the listener is connected
before it. -/
namespace PageScript

/-! ### How a wait ends -/

namespace Navigate

/-- The load is signalled by the visit, or by a poll that there is time for. -/
def InTime (load : LoadBehavior) (wait : WaitPolicy) (elapsed : Nat → Nat) : Prop :=
  match load with
  | .afterPolls delay => delay = 0 ∨
      wait.drainEvents = true ∧ ∀ round < delay, elapsed round < wait.loadTimeout
  | .never => False

/-- The end of a wait, after so many rounds; what is timed out has waited for so long. -/
structure Ended (load : LoadBehavior) (wait : WaitPolicy) (elapsed : Nat → Nat)
    (timedOut : Option Nat) (rounds : Nat) : Prop where
  inTime : timedOut = none ↔ InTime load wait elapsed
  waited : ∀ waited ∈ timedOut, wait.loadTimeout ≤ waited
  polled : ∀ delay, load = .afterPolls delay → match timedOut with
    | none => wait.polled rounds = delay
    | some _ => wait.polled rounds < delay
  bounded : rounds ≤ wait.loadTimeout ⌈/⌉ wait.pollInterval

section
variable {load : LoadBehavior} {wait : WaitPolicy} {elapsed : Nat → Nat} {rounds waited : Nat}

theorem Ended.heard (inTime : InTime load wait elapsed)
    (polled : ∀ delay, load = .afterPolls delay → wait.polled rounds = delay)
    (bounded : rounds ≤ wait.loadTimeout ⌈/⌉ wait.pollInterval) :
    Ended load wait elapsed none rounds where
  inTime := iff_of_true rfl inTime
  waited := nofun
  polled := polled
  bounded := bounded

theorem Ended.missed (late : ¬InTime load wait elapsed) (long : wait.loadTimeout ≤ waited)
    (few : ∀ delay, load = .afterPolls delay → wait.drainEvents = true → rounds < delay)
    (bounded : rounds ≤ wait.loadTimeout ⌈/⌉ wait.pollInterval) :
    Ended load wait elapsed (some waited) rounds where
  inTime := iff_of_false nofun late
  waited := by
    rintro _ ⟨⟩
    exact long
  polled := by
    rintro delay rfl
    by_cases drains : wait.drainEvents = true
    · simpa only [WaitPolicy.polled, if_pos drains] using few delay rfl drains
    · simp only [InTime, not_or] at late
      simpa only [WaitPolicy.polled, if_neg drains] using Nat.pos_of_ne_zero late.1
  bounded := bounded

end

def loadResult : Option Nat → Except Nanoseconds Bool
  | none => .ok true
  | some waited => .error waited

/-- How often the clock is read; a wait that is timed out reads it twice more. -/
def looks (timedOut : Option Nat) (rounds : Nat) : Nat :=
  match timedOut with
  | none => rounds
  | some _ => rounds + 2

def verdict (url : String) : Option Nat → LogLevel × String
  | none => (.info, "Page load finished (success=true)")
  | some waited => (.warning, (LoadTimeout.mk url waited).message ++ " - continuing anyway")

def report (url : String) (wait : WaitPolicy) (timedOut : Option Nat) :
    List (LogLevel × String) :=
  [(.info, s!"Loading URL: {url}"),
    (.info, s!"Waiting for page load (max {wait.loadTimeout.millis}ms)..."),
    verdict url timedOut] ++ painting wait ++ [(.info, s!"URL loaded successfully: {url}")]

theorem logLoadRecords (url : String) (ctx : Context) (timedOut : Option Nat) :
    ∃ entry, ctx.Records (logLoad url ctx (loadResult timedOut)) [entry] ∧
      entry.said = verdict url timedOut := by
  cases timedOut with
  | none => exact ⟨_, ctx.recordsInfo _, rfl⟩
  | some waited => exact ⟨_, ctx.recordsLogAt .warning _, rfl⟩

theorem logLoadFrame (url : String) (ctx : Context) (timedOut : Option Nat) :
    (logLoad url ctx (loadResult timedOut)).surface = ctx.surface ∧
      (logLoad url ctx (loadResult timedOut)).wait = ctx.wait ∧
      (logLoad url ctx (loadResult timedOut)).clock = ctx.clock := by
  cases timedOut <;> exact ⟨rfl, rfl, rfl⟩

end Navigate

namespace Rehearsal.History

open Navigate

variable {past : History} {number : Nat} {ctx : Context} {listener : ListenerId}

/-! ### Each way to the end -/

theorem countdownBegun (load : LoadBehavior) : countdown (some (load, 0)) =
    match load with
    | .afterPolls (delay + 1) => some (delay + 1)
    | _ => none := by
  match load with
  | .afterPolls 0 => rfl
  | .afterPolls (delay + 1) => rfl
  | .never => rfl

theorem awaitLate {load : LoadBehavior} (shows : Shows past number {} ctx)
    (begun : underway past = some (load, 0)) (positive : 0 < ctx.wait.pollInterval)
    (late : ¬InTime load ctx.wait (ctx.clock.elapsed ctx.wait.pollInterval)) :
    ∃ after timedOut rounds,
      awaitLoad listener ctx.wait.loadTimeout ctx.clock.now none ctx =
        (after, loadResult timedOut) ∧
      Waited past number rounds (looks timedOut rounds) ctx after ∧
      Ended load ctx.wait (ctx.clock.elapsed ctx.wait.pollInterval) timedOut rounds := by
  have spent : ∃ round, ctx.wait.loadTimeout ≤ ctx.clock.elapsed ctx.wait.pollInterval round := by
    refine ⟨ctx.wait.loadTimeout, Nat.le_trans ?_ (ctx.clock.elapsedSpan ..)⟩
    exact Nat.le_mul_of_pos_right _ (Nat.lt_of_lt_of_le positive (Nat.le_max_left ..))
  have timely : ∀ round < Nat.find spent,
      ctx.clock.elapsed ctx.wait.pollInterval round < ctx.wait.loadTimeout :=
    fun round before => Nat.lt_of_not_le (Nat.find_min spent before)
  -- a poll that there is time for would have come before the end
  have few : ∀ delay, load = .afterPolls delay → ctx.wait.drainEvents = true →
      Nat.find spent < delay := by
    rintro delay rfl drains
    simp only [InTime, drains, true_and, not_or, not_forall, Nat.not_lt] at late
    obtain ⟨-, round, before, past⟩ := late
    exact Nat.lt_of_le_of_lt (Nat.find_min' spent past) before
  have quiet : Quiet past ctx.wait (Nat.find spent) := by
    intro drains remaining pending
    rw [begun, countdownBegun] at pending
    split at pending
    · cases pending
      exact few _ rfl drains
    · cases pending
  have start : ctx.clock.now = ctx.clock.now + 0 := rfl
  obtain ⟨after, waited, ends, long, waits⟩ := awaitTimesOut shows quiet start
    (by simpa only [Nat.zero_add] using timely)
    (by simpa only [Nat.zero_add] using Nat.find_spec spent)
  have bounded := ctx.clock.elapsedBound positive timely
  exact ⟨after, some waited, _, ends, waits, .missed late long few bounded⟩

theorem awaitEarly {delay : Nat} (shows : Shows past number {} ctx)
    (listens : listener ∈ connected past)
    (begun : underway past = some (.afterPolls (delay + 1), 0))
    (positive : 0 < ctx.wait.pollInterval) (drains : ctx.wait.drainEvents = true)
    (early : ∀ round < delay + 1,
      ctx.clock.elapsed ctx.wait.pollInterval round < ctx.wait.loadTimeout) :
    ∃ after, awaitLoad listener ctx.wait.loadTimeout ctx.clock.now none ctx = (after, .ok true) ∧
      Waited past number (delay + 1) (delay + 1) ctx after ∧
      Ended (.afterPolls (delay + 1)) ctx.wait (ctx.clock.elapsed ctx.wait.pollInterval) none
        (delay + 1) := by
  have pending : countdown (underway past) = some (delay + 1) := by
    rw [begun]
    rfl
  have start : ctx.clock.now = ctx.clock.now + 0 := rfl
  obtain ⟨after, ends, waits⟩ := awaitHeard shows listens drains pending start
    (by simpa only [Nat.zero_add] using early)
  refine ⟨after, ends, waits, ?_⟩
  refine .heard (.inr ⟨drains, early⟩) ?_ (ctx.clock.elapsedBound positive early)
  rintro _ ⟨⟩
  exact if_pos drains

theorem awaitEnds {load : LoadBehavior} (shows : Shows past number {} ctx)
    (listens : listener ∈ connected past) (begun : underway past = some (load, 0))
    (positive : 0 < ctx.wait.pollInterval) :
    ∃ after timedOut rounds,
      awaitLoad listener ctx.wait.loadTimeout ctx.clock.now
        (heard listener none
          (if load = .afterPolls 0 then (connected past).map (⟨·, true⟩) else [])) ctx =
        (after, loadResult timedOut) ∧
      Waited past number rounds (looks timedOut rounds) ctx after ∧
      Ended load ctx.wait (ctx.clock.elapsed ctx.wait.pollInterval) timedOut rounds := by
  cases load with
  | never =>
    rw [if_neg (by simp)]
    exact awaitLate shows begun positive not_false
  | afterPolls delay =>
    cases delay with
    | zero =>
      rw [if_pos rfl, heardAll listens, awaitLoad]
      refine ⟨ctx, none, 0, rfl, ⟨by rwa [drainedNone], .refl ctx, rfl, rfl⟩, ?_⟩
      refine .heard (.inl rfl) ?_ (Nat.zero_le _)
      rintro _ ⟨⟩
      exact ite_self 0
    | succ delay =>
      rw [if_neg (by simp)]
      by_cases timely : InTime (.afterPolls (delay + 1)) ctx.wait
          (ctx.clock.elapsed ctx.wait.pollInterval)
      · obtain ⟨drains, early⟩ := timely.resolve_left (Nat.succ_ne_zero delay)
        obtain ⟨after, ends⟩ := awaitEarly shows listens begun positive drains early
        exact ⟨after, none, delay + 1, ends⟩
      · exact awaitLate shows begun positive timely

/-! ### From the visit to the end -/

theorem visitSignals {url : String} (reaches : refusal? past url = none) (number : Nat)
    (ctx : Context) : Navigate.visit url ((after past).surface number {}) ctx =
      ({ ctx with surface := some ((after (⟨number, .navigate url⟩ :: past)).surface number {}) },
        .ok (if load past number = .afterPolls 0
          then (connected past).map (⟨·, true⟩) else [])) := by
  have agrees := afterAgrees past
  have fired := performFired agrees ⟨number, .navigate url⟩
  rw [navigateReaches agrees reaches] at fired
  simp only [Fires, reaches, true_and] at fired
  have told := toldAll past number
  simp only [surface] at told
  simp only [Navigate.visit, Surface.navigate, surface, visitReaches agrees reaches, fired, told,
    after, navigateReaches agrees reaches, setHandle, if_true]
  rfl

/-- A wait that has just begun. -/
def visiting (past : History) (number : Nat) (url : String) : History :=
  ⟨number, .navigate url⟩ :: ⟨number, .connect⟩ :: past

theorem waitingBegins {url : String} (reaches : refusal? past url = none) (number : Nat)
    (ctx : Context) : ∃ waiting entry,
      (Navigate.mk url true).executeWaiting ((after past).surface number {}) ctx =
        (let (ended, loaded) := awaitLoad (connects past) waiting.wait.loadTimeout waiting.clock.now
          (heard (connects past) none (if load past number = .afterPolls 0
            then (connected (visiting past number url)).map (⟨·, true⟩) else [])) waiting
        ((settle (logLoad url (disconnect ended (connects past)) loaded)).info
          s!"URL loaded successfully: {url}", .ok ())) ∧
      ctx.Records waiting [entry] ∧
      entry.said = (.info, s!"Waiting for page load (max {ctx.wait.loadTimeout.millis}ms)...") ∧
      Shows (visiting past number url) number {} waiting ∧
      waiting.wait = ctx.wait ∧ waiting.clock = ctx.clock := by
  have reached : refusal? (⟨number, .connect⟩ :: past) url = none := reaches
  simp only [executeWaiting, connectShows, visitSignals reached]
  have visited : ctx.Records { ctx with
      surface := some ((after (visiting past number url)).surface number {}) } [] :=
    .ofSame rfl rfl rfl rfl
  exact ⟨_, _, rfl, visited.trans (Context.recordsInfo ..), rfl, rfl, rfl, rfl⟩

theorem waitingFinishes (shows : Shows past number {} ctx) (listener : ListenerId) (url : String)
    (timedOut : Option Nat) : ∃ left entries,
      (settle (logLoad url (disconnect ctx listener) (loadResult timedOut))).info
        s!"URL loaded successfully: {url}" = left ∧
      ctx.Records left entries ∧ entries.map LogEntry.said =
        verdict url timedOut :: painting ctx.wait ++
          [(.info, s!"URL loaded successfully: {url}")] ∧
      Shows (pollsOf number ctx.wait.settled ++ ⟨number, .disconnect listener⟩ :: past) number {}
        left ∧
      left.clock.readings = ctx.clock.readings := by
  have released := disconnectShows shows listener
  have silent : ctx.Records (disconnect ctx listener) [] := .ofSame rfl rfl rfl rfl
  obtain ⟨entry, logged, said⟩ := logLoadRecords url (disconnect ctx listener) timedOut
  obtain ⟨surface, wait, clock⟩ := logLoadFrame url (disconnect ctx listener) timedOut
  generalize logLoad url (disconnect ctx listener) (loadResult timedOut) = told at *
  have begins : Shows (⟨number, .disconnect listener⟩ :: past) number {} told :=
    surface.trans released
  obtain ⟨entries, settles, painted, shown, readings⟩ := settleWaited begins
  have quietly := (silent.trans logged).trans settles
  refine ⟨_, _, rfl, quietly.trans (Context.recordsInfo ..), ?_, ?_, ?_⟩
  · simp only [List.map_append, List.map_cons, List.map_nil, said, painted, wait]
    rfl
  · rw [wait] at shown
    exact shown
  · exact readings.trans (congrArg Clock.readings clock)

theorem executeBegins (url : String) (surface : Surface) (ctx : Context) : ∃ loading entry,
    (Navigate.mk url true).execute { ctx with surface := some surface } =
      (Navigate.mk url true).executeWaiting surface loading ∧
    ctx.Records loading [entry] ∧ entry.said = (.info, s!"Loading URL: {url}") ∧
    loading.wait = ctx.wait ∧ loading.clock = ctx.clock := by
  have placed : ctx.Records { ctx with surface := some surface } [] := .ofSame rfl rfl rfl rfl
  exact ⟨_, _, rfl, placed.trans (Context.recordsInfo ..), rfl, rfl, rfl⟩

theorem waitingAwaits {url : String} (reaches : refusal? past url = none)
    (positive : 0 < ctx.wait.pollInterval) :
    ∃ left timedOut rounds entries,
      (Navigate.mk url true).executeWaiting ((after past).surface number {}) ctx = (left, .ok ()) ∧
      ctx.Records left entries ∧
      (.info, s!"Loading URL: {url}") :: entries.map LogEntry.said =
        report url ctx.wait timedOut ∧
      Shows (waitedVisit past number url (ctx.wait.polled rounds) ctx.wait.settled ++ past)
        number {} left ∧
      left.clock.readings = ctx.clock.readings + looks timedOut rounds ∧
      Ended (load past number) ctx.wait (ctx.clock.elapsed ctx.wait.pollInterval) timedOut
        rounds := by
  obtain ⟨waiting, entry, runs, begins, said, shows, wait, clock⟩ :=
    waitingBegins reaches number ctx
  have listens : connects past ∈ connected (visiting past number url) :=
    List.mem_append_right _ (List.mem_singleton_self _)
  have begun : underway (visiting past number url) = some (load past number, 0) := if_pos reaches
  rw [← wait] at positive
  obtain ⟨ended, timedOut, rounds, awaits, waits, ends⟩ := awaitEnds shows listens begun positive
  obtain ⟨left, entries, finishes, records, told, shown, readings⟩ :=
    waitingFinishes waits.shows (connects past) url timedOut
  rw [awaits] at runs
  refine ⟨left, timedOut, rounds, _, ?_, (begins.trans waits.records).trans records, ?_, ?_, ?_, ?_⟩
  · rw [runs, ← finishes]
  · simp [told, said, report, waits.wait, wait]
  · rw [waitedCalls]
    rw [waits.wait, wait] at shown
    exact shown
  · rw [readings, waits.readings, clock]
  · rwa [wait, clock] at ends

end Rehearsal.History

namespace Navigate

open Rehearsal

/-- Whatever was done with the surface before, and whatever the readings of the clock: the load is
heard of if and only if its signal comes in time, and the log says which it was. The calls on the
surface are those of `waitedVisit`. -/
theorem executeAwaits (past : History) (number : Nat) (url : String) {wait : WaitPolicy}
    {elapsed : Nat → Nat}
    (reaches : (past.after.surface number {}).stage.failing.lookup url = none)
    (positive : 0 < wait.pollInterval)
    (advances : ∀ round, elapsed round + wait.pollInterval ≤ elapsed (round + 1)) :
    (∃ lag, ∀ now, Clock.elapsed { now, lag } wait.pollInterval = elapsed) ∧
    ∀ ctx : Context, ctx.wait = wait → ctx.clock.elapsed wait.pollInterval = elapsed →
      let surface := past.after.surface number {}
      ∃ left timedOut rounds entries,
        (Navigate.mk url true).execute { ctx with surface := some surface } = (left, .ok ()) ∧
        ctx.Records left entries ∧ entries.map LogEntry.said = report url wait timedOut ∧
        left.surface = some ((History.waitedVisit past number url (wait.polled rounds)
          wait.settled ++ past).after.surface number {}) ∧
        left.clock.readings = ctx.clock.readings + looks timedOut rounds ∧
        Ended surface.handle.load wait elapsed timedOut rounds := by
  obtain ⟨lag, gives⟩ := Clock.elapsedAny positive advances
  refine ⟨⟨lag, gives⟩, ?_⟩
  rintro ctx rfl rfl
  have table : past.refusal? url = none := (past.afterAgrees.refusal url).symm.trans reaches
  have load : past.load number = (past.after.surface number {}).handle.load :=
    (congrArg Handle.load (past.afterAgrees.handle number)).symm
  obtain ⟨loading, entry, begins, logged, said, wait, clock⟩ :=
    History.executeBegins url (past.after.surface number {}) ctx
  rw [← wait] at positive
  obtain ⟨left, timedOut, rounds, entries, runs, records, told, shows, readings, ended⟩ :=
    History.waitingAwaits table positive
  refine ⟨left, timedOut, rounds, _, begins.trans runs, logged.trans records, ?_, ?_, ?_, ?_⟩
  · rw [wait] at told
    rw [← told, ← said]
    rfl
  · rwa [wait] at shows
  · rw [readings, clock]
  · rwa [wait, clock, load] at ended

/-- One poll is left of an earlier load that nobody waited for. It is not what ends the wait, and
the signal of the new load comes with the last poll that there is time for. -/
theorem executeAwaitsStale :
    let past : History := [⟨0, .processEvents⟩, ⟨0, .navigate "first"⟩, ⟨0, .withLoadDelay 2⟩]
    let wait := { WaitPolicy.immediate with loadTimeout := 1500000 }
    let surface := past.after.surface 0 {}
    surface.stage.pendingLoad = some 1 ∧
    ∃ left entries,
      (Navigate.mk "second" true).execute { wait, surface := some surface } = (left, .ok ()) ∧
      entries.map LogEntry.said = [(.info, "Loading URL: second"),
        (.info, "Waiting for page load (max 1ms)..."), (.info, "Page load finished (success=true)"),
        (.info, "URL loaded successfully: second")] ∧
      left.log.toList = entries ∧
      left.surface =
        some ((History.waitedVisit past 0 "second" 2 0 ++ past).after.surface 0 {}) := by
  intro past wait surface
  refine ⟨rfl, ?_⟩
  have positive : 0 < wait.pollInterval := by decide
  obtain ⟨left, timedOut, rounds, entries, runs, records, told, shows, -, ended⟩ :=
    (executeAwaits past 0 "second" rfl positive (Clock.elapsedAdvances { now := 0 } _)).2 { wait }
      rfl rfl
  have inTime : timedOut = none := ended.inTime.mpr (.inr ⟨rfl, by decide⟩)
  subst inTime
  have polls : wait.polled rounds = 2 := ended.polled 2 rfl
  have settled : wait.settled = 0 := by decide
  rw [polls, settled] at shows
  exact ⟨left, entries, runs, told.trans (by decide), records.log, shows⟩

end Navigate

end PageScript
