import PageScript.Proofs.Run.Counters
import PageScript.Proofs.Run.Lifetime

/-! What a reading of the progress tells, whenever it is taken in the life of an executor. A load
sets the index back before it counts its commands (`Loading.Keeps`), a run tracks them
(`Run.Tracked`), and only the mark of a run sets its flag (`moveHalted`), so that it tells of a run
that goes on. -/
namespace PageScript

open Control (SameCounters)

/-! ### Between calls and during loads -/

namespace Executor

variable {κ : Type}

/-- The counters fit the loaded commands. -/
structure Settled (exec : Executor κ) : Prop where
  total : exec.context.control.total = exec.commands.length
  bounded : exec.context.control.Bounded

def Halted (exec : Executor κ) : Prop := exec.context.control.running = false

theorem Settled.keep {before after : Executor κ} (settled : before.Settled)
    (commands : after.commands = before.commands)
    (same : SameCounters before.context.control after.context.control) : after.Settled where
  total := by rw [same.total, settled.total, commands]
  bounded := same.bounded settled.bounded

variable {exec : Executor κ}

theorem Settled.steer (settled : exec.Settled) (action : ControlAction) :
    (exec.steer action).Settled :=
  settled.keep rfl (exec.context.control.sameAfter [action])

theorem Halted.steer (halted : exec.Halted) (action : ControlAction) :
    (exec.steer action).Halted :=
  Control.applyHalted halted [action]

theorem Settled.mark (settled : exec.Settled) : exec.mark.Settled :=
  have same := exec.context.extendsReach.counters
  settled.keep rfl ⟨same.current, same.total⟩

theorem countControl (exec : Executor κ) : exec.count.control =
    { exec.context.reach.control with total := exec.commands.length } := rfl

theorem Settled.count (settled : exec.Settled) : Run.Tracked exec exec.count where
  ordered := (Run.startOrdered exec).stay .arrival _ (by simp)
  total := by rw [countControl]
  bounded := by
    have same := exec.context.extendsReach.counters
    rw [countControl, ← settled.total, ← same.total]
    exact same.bounded settled.bounded
  behind := by simp [Executor.count]
  here := by simp [Executor.count]
  given := by simp [Executor.count]

theorem Settled.finish {run : Run κ} (tracked : Run.Tracked exec run) :
    (exec.finish run.tally).Settled where
  total := run.context.extendsReach.counters.total.trans tracked.total
  bounded := run.context.extendsReach.counters.bounded tracked.bounded

theorem buildControl (index : Nat) (record : Record) (exec : Executor κ) :
    ((Session.build index record).runOn exec).2.context.control = exec.context.control := by
  rw [Session.build, Session.runBind, Session.runGet]
  dsimp only
  split <;> rfl

theorem noteSame (note : Note) (exec : Executor κ) :
    (note.apply exec).commands = exec.commands ∧
      (note.apply exec).context.control = exec.context.control := by
  cases note <;> exact ⟨rfl, rfl⟩

end Executor

namespace Loading

/-- What holds of the counters at each part of a load. -/
def Keeps {κ : Type} (exec : Executor κ) : Loading → Prop
  | .clear .. | .note _ => exec.Settled
  | .rewind .. => exec.context.control.Bounded
  | .build .. => exec.context.control.current = 0

end Loading

namespace Life

variable {κ : Type} {life : Life κ}

def control : Life κ → Control
  | idle exec | loading exec _ | marked exec => exec.context.control
  | running _ run => run.control

def commands : Life κ → List κ
  | idle exec | loading exec _ | marked exec | running exec _ => exec.commands

def isLoading : Life κ → Bool
  | loading _ _ => true
  | _ => false

def isExecuting : Life κ → Bool
  | marked _ | running _ _ => true
  | _ => false

def progress (life : Life κ) : Progress := life.control.progress

def Sound : Life κ → Prop
  | idle exec => exec.Settled ∧ exec.Halted
  | loading exec left => left.Keeps exec ∧ exec.Halted
  | marked exec => exec.Settled
  | running exec run => Run.Tracked exec run

theorem Sound.bounded (sound : life.Sound) : life.control.Bounded := by
  cases life with
  | idle exec => exact sound.1.bounded
  | loading exec left =>
    cases left with
    | clear => exact sound.1.bounded
    | rewind => exact sound.1
    | build => exact .inr sound.1
    | note => exact sound.1.bounded
  | marked exec => exact sound.bounded
  | running exec run => exact sound.bounded

theorem Sound.total (sound : life.Sound) (idle : life.isLoading = false) :
    life.control.total = life.commands.length := by
  cases life with
  | idle exec => exact sound.1.total
  | loading => cases idle
  | marked exec => exact sound.total
  | running exec run => exact sound.total

theorem Sound.halted (sound : life.Sound) (away : life.isExecuting = false) :
    life.control.running = false := by
  cases life with
  | idle exec => exact sound.2
  | loading exec left => exact sound.2
  | marked => cases away
  | running => cases away

theorem steerSound (sound : life.Sound) (action : ControlAction) : (life.steer action).Sound := by
  cases life with
  | idle exec => exact ⟨sound.1.steer action, sound.2.steer action⟩
  | loading exec left =>
    have same := exec.context.control.sameAfter [action]
    refine ⟨?_, sound.2.steer action⟩
    cases left with
    | clear => exact sound.1.steer action
    | rewind => exact same.bounded sound.1
    | build => exact same.current.trans sound.1
    | note => exact sound.1.steer action
  | marked exec => exact sound.steer action
  | running exec run => exact sound.steered action

theorem stopHalts (life : Life κ) : (life.steer .stop).control.running = false := by
  cases life <;> rfl

section
variable [Command κ]

theorem beginSound {exec : Executor κ} (settled : exec.Settled) (halted : exec.Halted)
    (change : Change) : (begin exec change).Sound := by
  cases change with
  | loadRecords => exact ⟨settled, halted⟩
  | loadScript => exact ⟨settled, halted⟩
  | loadJson value =>
    rw [begin]
    split <;> exact ⟨settled, halted⟩
  | loadFile path =>
    rw [begin]
    split <;> exact ⟨settled, halted⟩
  | saveFile path =>
    rw [begin, Executor.change, Executor.saveFile]
    split
    · exact ⟨settled, halted⟩
    · exact ⟨⟨settled.total, settled.bounded⟩, halted⟩
  | refit context => exact ⟨⟨settled.total, settled.bounded⟩, halted⟩

theorem stepSound (steers : ∀ command : κ, Command.Steers command) (sound : life.Sound) :
    life.step.Sound := by
  cases life with
  | idle exec => exact sound
  | loading exec left =>
    obtain ⟨keeps, halted⟩ := sound
    cases left with
    | clear records notes => exact ⟨keeps.bounded, halted⟩
    | rewind records notes => exact ⟨rfl, halted⟩
    | build index records notes =>
      cases records with
      | nil => exact ⟨⟨rfl, .inr keeps⟩, halted⟩
      | cons record rest =>
        have same := Executor.buildControl index record exec
        exact ⟨(congrArg Control.current same).trans keeps,
          (congrArg Control.running same).trans halted⟩
    | note notes =>
      cases notes with
      | nil => exact ⟨keeps, halted⟩
      | cons note notes =>
        obtain ⟨commands, same⟩ := Executor.noteSame note exec
        exact ⟨keeps.keep commands (by rw [same]; exact .refl _),
          (congrArg Control.running same).trans halted⟩
  | marked exec => exact Executor.Settled.count sound
  | running exec run =>
    rw [step]
    split
    · exact ⟨.finish sound, rfl⟩
    · exact Run.stepTracked (fun command _ => steers command) sound

theorem moveSound (steers : ∀ command : κ, Command.Steers command) (sound : life.Sound)
    (move : Move) : (life.move move).Sound := by
  cases move with
  | step => exact stepSound steers sound
  | act action => exact steerSound sound action
  | change change =>
    cases life with
    | idle exec => exact beginSound sound.1 sound.2 change
    | _ => exact sound
  | execute =>
    cases life with
    | idle exec => exact sound.1.mark
    | _ => exact sound

theorem followSound (steers : ∀ command : κ, Command.Steers command) (sound : life.Sound)
    (moves : List Move) : (life.follow moves).Sound := by
  induction moves generalizing life with
  | nil => exact sound
  | cons move moves ih => exact ih (moveSound steers sound move)

/-! ### Runs in a life -/

theorem loadingAway (exec : Executor κ) (left : Loading) :
    (loading exec left).step.isExecuting = false := by
  cases left with
  | clear => rfl
  | rewind => rfl
  | build _ records => cases records <;> rfl
  | note notes => cases notes <;> rfl

theorem beginAway (exec : Executor κ) (change : Change) :
    (begin exec change).isExecuting = false := by
  cases change with
  | loadJson =>
    rw [begin]
    split <;> rfl
  | loadFile =>
    rw [begin]
    split <;> rfl
  | _ => rfl

theorem runHalted {exec : Executor κ} {run : Run κ} (steers : ∀ command : κ, Command.Steers command)
    (tracked : Run.Tracked exec run) (halted : run.control.running = false) :
    (running exec run).step.control.running = false := by
  rw [step]
  split
  · rfl
  · exact (Run.stepHalts (fun command _ => steers command) tracked.ordered halted).halted

/-- Nothing but the mark of a run sets the flag. -/
theorem moveHalted (steers : ∀ command : κ, Command.Steers command) (sound : life.Sound)
    (halted : life.control.running = false) (move : Move) :
    (life.move move).control.running = false ∨ move = .execute ∧ ∃ exec, life = idle exec := by
  cases move with
  | step =>
    refine .inl ?_
    cases life with
    | idle => exact halted
    | loading exec left => exact (stepSound steers sound).halted (loadingAway exec left)
    | marked exec => exact exec.context.extendsReach.halted halted
    | running exec run => exact runHalted steers sound halted
  | act action =>
    refine .inl ?_
    cases life <;> exact Control.applyHalted halted [action]
  | change change =>
    refine .inl ?_
    cases life with
    | idle exec => exact (beginSound sound.1 sound.2 change).halted (beginAway exec change)
    | _ => exact halted
  | execute =>
    cases life with
    | idle exec => exact .inr ⟨rfl, exec, rfl⟩
    | _ => exact .inl halted

theorem followMore (life : Life κ) (moves : List Move) (move : Move) :
    life.follow (moves ++ [move]) = (life.follow moves).move move :=
  List.foldl_append ..

/-- A run was marked, and since then it goes on, running and without a stop. -/
structure Started (first : Life κ) (earlier later : List Move) : Prop where
  idle : ∃ exec, first.follow earlier = idle exec
  runs : ∀ moves, moves <+: later → (first.follow (earlier ++ .execute :: moves)).isExecuting ∧
    (first.follow (earlier ++ .execute :: moves)).control.running = true
  unstopped : .act .stop ∉ later

theorem Started.none {first : Life κ} {earlier : List Move} {exec : Executor κ}
    (idle : first.follow earlier = .idle exec)
    (runs : (first.follow (earlier ++ [.execute])).control.running = true) :
    Started first earlier [] where
  idle := ⟨exec, idle⟩
  runs moves none := by
    rw [List.prefix_nil.mp none]
    refine ⟨?_, runs⟩
    rw [followMore, idle]
    rfl
  unstopped := List.not_mem_nil

theorem Started.more {first : Life κ} {earlier later : List Move} {move : Move}
    (started : Started first earlier later)
    (sound : (first.follow (earlier ++ .execute :: (later ++ [move]))).Sound)
    (runs : (first.follow (earlier ++ .execute :: (later ++ [move]))).control.running = true) :
    Started first earlier (later ++ [move]) where
  idle := started.idle
  runs moves early := by
    rcases List.prefix_concat_iff.mp early with rfl | early
    · refine ⟨?_, runs⟩
      by_contra away
      rw [sound.halted (Bool.eq_false_iff.mpr away)] at runs
      cases runs
    · exact started.runs moves early
  unstopped member := by
    rcases List.mem_append.mp member with before | last
    · exact started.unstopped before
    · cases List.mem_singleton.mp last
      rw [← List.cons_append, ← List.append_assoc, followMore] at runs
      exact absurd (runs.symm.trans (stopHalts _)) (by decide)

/-- A run that is running was started, and has been running since. -/
theorem runningStarted (steers : ∀ command : κ, Command.Steers command) {first : Life κ}
    (sound : first.Sound) (halted : first.control.running = false) (moves : List Move)
    (runs : (first.follow moves).control.running = true) :
    ∃ earlier later, moves = earlier ++ .execute :: later ∧ Started first earlier later := by
  induction moves using List.reverseRecOn with
  | nil => exact absurd (runs.symm.trans halted) (by decide)
  | append_singleton moves move ih =>
    have before := followSound steers sound moves
    cases running : (first.follow moves).control.running with
    | true =>
      obtain ⟨earlier, later, rfl, started⟩ := ih running
      rw [List.append_assoc, List.cons_append] at runs
      have after := followSound steers sound (earlier ++ .execute :: (later ++ [move]))
      exact ⟨earlier, later ++ [move], by simp, started.more after runs⟩
    | false =>
      have moved := runs
      rw [followMore] at moved
      rcases moveHalted steers before running move with still | ⟨rfl, exec, idle⟩
      · exact absurd (moved.symm.trans still) (by decide)
      · exact ⟨moves, [], rfl, .none idle runs⟩

/-! ### The index of a run -/

/-- The first checkpoint of a run was reached. -/
def Begun : Life κ → Prop
  | running _ run => run.Begun
  | _ => False

def Move.calls : Move → Bool
  | .step | .act _ => false
  | .change _ | .execute => true

/-- A run beyond its first checkpoint, or none: until the next call the index does not go down. -/
def Late : Life κ → Prop
  | idle _ => True
  | running _ run => run.Begun
  | _ => False

theorem moveClimbs (steers : ∀ command : κ, Command.Steers command) (sound : life.Sound)
    (late : life.Late) {move : Move} (noCall : move.calls = false) :
    (life.move move).Late ∧ life.control.current ≤ (life.move move).control.current := by
  cases life with
  | idle exec =>
    cases move with
    | step => exact ⟨trivial, Nat.le_refl _⟩
    | act action =>
      exact ⟨trivial, Nat.le_of_eq (exec.context.control.sameAfter [action]).current.symm⟩
    | change => cases noCall
    | execute => cases noCall
  | loading => cases late
  | marked => cases late
  | running exec run =>
    cases move with
    | step =>
      simp only [Life.move, step]
      split
      · exact ⟨trivial, Nat.le_of_eq run.context.extendsReach.counters.current.symm⟩
      · exact ⟨run.stepBegun, Run.stepClimbs (fun command _ => steers command) sound late⟩
    | act action => exact ⟨late, Nat.le_of_eq (run.control.sameAfter [action]).current.symm⟩
    | change => cases noCall
    | execute => cases noCall

theorem followClimbs (steers : ∀ command : κ, Command.Steers command) (sound : life.Sound)
    (late : life.Late) {moves : List Move} (noCall : ∀ move ∈ moves, move.calls = false) :
    life.control.current ≤ (life.follow moves).control.current := by
  induction moves generalizing life with
  | nil => exact Nat.le_refl _
  | cons move moves ih =>
    obtain ⟨later, climbs⟩ := moveClimbs steers sound late (noCall move List.mem_cons_self)
    have others := ih (moveSound steers sound move) later fun other member =>
      noCall other (List.mem_cons_of_mem _ member)
    exact Nat.le_trans climbs others

/-! ### Readings -/

theorem executingHere {exec : Executor κ} {run : Run κ}
    (steers : ∀ command : κ, Command.Steers command) (tracked : Run.Tracked exec run)
    (now : run.phase = .execution) :
    ∃ command, exec.commands[run.index]? = some command ∧ run.rest.head? = some command ∧
      run.control.current = run.index ∧
      (Command.execute command run.context).1.control.current = run.index := by
  have busy := tracked.ordered.busy (by simp [now]) (by simp [now])
  obtain ⟨command, rest, queue⟩ := List.exists_cons_of_ne_nil busy
  have here := tracked.here (by simp [now]) (by simp [now])
  obtain ⟨actions, acted⟩ := steers command run.context
  refine ⟨command, tracked.ordered.here queue, by rw [queue]; rfl, here, ?_⟩
  rw [acted]
  exact (run.control.sameAfter actions).current.trans here

/-- What readings of the progress tell after some moves, and that a call which is left alone ends as
its operation does. -/
structure Coherent (first : Life κ) (moves : List Move) (now : Life κ) : Prop where
  bounded : now.progress.currentIndex < now.progress.total ∨ now.progress.currentIndex = 0
  total : now.isLoading = false → now.progress.total = now.commands.length
  started : now.progress.isRunning = true →
    ∃ earlier later, moves = earlier ++ .execute :: later ∧ Started first earlier later
  halted : now.isExecuting = false → now.progress.isRunning = false
  climbs : now.Begun → ∀ later, (∀ move ∈ later, move.calls = false) →
    now.progress.currentIndex ≤ (now.follow later).progress.currentIndex
  here : ∀ exec run, now = running exec run → run.phase = .execution →
    ∃ command, exec.commands[run.index]? = some command ∧ run.rest.head? = some command ∧
      now.progress.currentIndex = run.index ∧
      (Command.execute command run.context).1.control.current = run.index
  given : ∀ exec run, now = running exec run → ∀ execution ∈ run.executed,
    execution.context.control.current = execution.index
  changes : ∀ exec, now = idle exec → ∀ change, ∃ steps,
    (now.move (.change change)).after steps = idle (exec.change change)
  executes : ∀ exec, now = idle exec → ∀ success final,
    (∃ looks, exec.execute looks = some (success, final)) ↔ ∃ steps,
      (now.move .execute).after steps = idle final ∧ success = final.errors.isEmpty

/-- Whatever is called, and however it is steered, the progress of an executor is coherent. -/
theorem progressCoherent (steers : ∀ command : κ, Command.Steers command)
    (registry : Registry κ) (context : Context) (moves : List Move) :
    let first := idle (Executor.ofRegistry registry context)
    Coherent first moves (first.follow moves) := by
  intro first
  have begins : first.Sound := ⟨⟨rfl, .inr rfl⟩, rfl⟩
  have sound := followSound steers begins moves
  have runs := runningStarted steers begins rfl moves
  generalize first.follow moves = now at sound runs
  exact {
    bounded := sound.bounded
    total := sound.total
    started := runs
    halted := sound.halted
    climbs := by
      intro begun later noCall
      refine followClimbs steers sound ?_ noCall
      cases now with
      | running => exact begun
      | _ => cases begun
    here := by
      rintro exec run rfl phase
      exact executingHere steers sound phase
    given := by
      rintro exec run rfl
      exact sound.given
    changes := by
      rintro exec rfl change
      exact changeEnds exec change
    executes := by
      rintro exec rfl success final
      exact executeEnds exec success final }

theorem progressCoherentRunning :
    let first : Life Builtin := idle (Executor.ofRegistry .builtins {})
    let record : Record := ⟨pauseKind, [("seconds", .string "0")]⟩
    let loads : List Move := .change (.loadRecords [record, record]) :: List.replicate 6 .step
    let runs : List Move := List.replicate 9 .step
    let now := first.follow (loads ++ .execute :: runs)
    (∀ command : Builtin, Command.Steers command) ∧ now.progress = ⟨1, 2, true⟩ ∧
      ∃ earlier later, loads ++ .execute :: runs = earlier ++ .execute :: later ∧
        Started first earlier later := by
  intro first record loads runs now
  have reading : now.progress = ⟨1, 2, true⟩ := by decide +kernel
  have coherent := progressCoherent Command.builtinSteers Registry.builtins {}
    (loads ++ .execute :: runs)
  exact ⟨Command.builtinSteers, reading, coherent.started (congrArg Progress.isRunning reading)⟩

end

end Life

end PageScript
