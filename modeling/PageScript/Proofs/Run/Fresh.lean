import PageScript.Proofs.Load.Report
import PageScript.Proofs.Run.Refinement

/-! A run against the run of a new executor. A history of calls is replayed up to its end; then
records are loaded and executed while the outside does nothing, once by the same executor (`again`)
and once by a new one over the same registry and context (`anew`). Loading and the start of a run
take back all that the history left, except a pause. -/
namespace PageScript

inductive Call where
  | load (records : List Record)
  | execute (looks : Nat) (outside : Outside)
  | steer (action : ControlAction)

namespace Executor

variable {κ : Type}

def underOutside (exec : Executor κ) (outside : Outside) : Executor κ :=
  { exec with context := { exec.context with outside } }

def withFlags (exec : Executor κ) (running paused : Bool) : Executor κ :=
  { exec with context := { exec.context with
    control := { exec.context.control with running, paused } } }

theorem loadLeaves (used : Executor κ) (records : List Record) :
    used.loadRecords records =
      ((ofRegistry used.registry used.context).loadRecords records).withFlags
        used.context.control.running used.context.control.paused := by
  simp only [loadRecords, ofRegistry, withFlags, reportErrorsControl]
  simp only [(reportErrorsSame _ _).1]

def again (used : Executor κ) (records : List Record) : Executor κ :=
  (used.underOutside .quiet).loadRecords records

def anew (registry : Registry κ) (used : Executor κ) (records : List Record) : Executor κ :=
  (ofRegistry registry (used.underOutside .quiet).context).loadRecords records

theorem againLeaves (used : Executor κ) (records : List Record) :
    again used records = (anew used.registry used records).withFlags
      used.context.control.running used.context.control.paused :=
  loadLeaves (used.underOutside .quiet) records

theorem anewQuiet (registry : Registry κ) (used : Executor κ) (records : List Record) :
    (anew registry used records).context.outside = .quiet ∧
      (anew registry used records).context.control.paused = false :=
  ⟨(reportErrorsSame _ _).2, congrArg Control.paused (reportErrorsSame _ _).1⟩

/-! ### Checkpoints where the outside does nothing -/

theorem setCurrentQuiet (ctx : Context) (current : Nat) (quiet : ctx.outside = .quiet) :
    (ctx.setCurrent current).outside = .quiet ∧
      (ctx.setCurrent current).control = { ctx.control with current } := by
  have reached := ctx.extendsReach.quiet quiet
  refine ⟨reached.1, ?_⟩
  rw [← reached.2]
  rfl

theorem beginQuiet (exec : Executor κ) (quiet : exec.context.outside = .quiet) :
    exec.begin.outside = .quiet ∧ exec.begin.control =
      { exec.context.control with running := true, total := exec.commands.length } := by
  have first := exec.context.extendsReach.quiet quiet
  have second := (exec.context.setRunning true).extendsReach.quiet first.1
  refine ⟨second.1, ?_⟩
  change { (exec.context.setRunning true).reach.control with total := exec.commands.length } = _
  rw [second.2, ← first.2]
  rfl

theorem waitNever (looks : Nat) (ctx : Context) (quiet : ctx.outside = .quiet)
    (paused : ctx.control.paused = true) (running : ctx.control.running = true) :
    waitPaused looks ctx = none := by
  induction looks generalizing ctx with
  | zero => rfl
  | succ looks ih =>
    have first := ctx.extendsReach.quiet quiet
    have second := ctx.reach.extendsReach.quiet first.1
    have drained := ctx.reach.reach.extendsDrain.quiet second.1
    have same := (drained.2.trans second.2).trans first.2
    have isPaused : ctx.readPaused.1 = true := by rw [Context.readPaused, first.2, paused]
    have isRunning : ctx.readPaused.2.readRunning.1 = true := by
      rw [Context.readRunning, Context.readPaused, second.2, first.2, running]
    unfold waitPaused
    simp only [isPaused, isRunning, Bool.not_true, Bool.false_eq_true, if_false]
    refine ih _ drained.1 ?_ ?_
    · exact (congrArg Control.paused same).trans paused
    · exact (congrArg Control.running same).trans running

theorem pausePointNever (looks : Nat) (ctx : Context) (quiet : ctx.outside = .quiet)
    (paused : ctx.control.paused = true) (running : ctx.control.running = true) :
    pausePoint looks ctx = none := by
  have first := ctx.extendsReach.quiet quiet
  have second := ctx.reach.extendsReach.quiet first.1
  have same := second.2.trans first.2
  have isPaused : ctx.readPaused.1 = true := by rw [Context.readPaused, first.2, paused]
  have isRunning : ctx.readPaused.2.readRunning.1 = true := by
    rw [Context.readRunning, Context.readPaused, second.2, first.2, running]
  unfold pausePoint
  simp only [isPaused, isRunning, Bool.not_true, Bool.false_eq_true, if_false]
  exact Option.map_eq_none_iff.mpr <| waitNever looks _ second.1
    ((congrArg Control.paused same).trans paused) ((congrArg Control.running same).trans running)

theorem beginFlags (exec : Executor κ) (running paused : Bool) :
    ∃ control, (exec.withFlags running paused).begin = { exec.begin with control } :=
  ⟨_, rfl⟩

theorem checkpointPasses (looks : Nat) (ctx : Context) (quiet : ctx.outside = .quiet)
    (unpaused : ctx.control.paused = false) :
    ∃ goesOn after, checkpoint looks ctx = some (goesOn, after) ∧ after.outside = .quiet ∧
      after.control = ctx.control := by
  have first := ctx.extendsReach.quiet quiet
  have second := ctx.reach.extendsReach.quiet first.1
  have same := second.2.trans first.2
  have isUnpaused : ctx.readPaused.1 = false := by rw [Context.readPaused, first.2, unpaused]
  refine ⟨ctx.reach.reach.control.running, if ctx.reach.reach.control.running then ctx.reach.reach
    else ctx.reach.reach.info "Script execution stopped by user", ?_, ?_⟩
  · simp only [checkpoint, pausePoint, isUnpaused]
    rfl
  · split
    · exact ⟨second.1, same⟩
    · exact ⟨second.1, same⟩

section
variable [Command κ]

def call (exec : Executor κ) : Call → Option (Executor κ)
  | .load records => some (exec.loadRecords records)
  | .execute looks outside => ((exec.underOutside outside).execute looks).map (·.2)
  | .steer action => some (exec.steer action)

def replay (exec : Executor κ) : List Call → Option (Executor κ)
  | [] => some exec
  | first :: history => (exec.call first).bind (·.replay history)

theorem callRegistry {exec used : Executor κ} {call : Call} (called : exec.call call = some used) :
    used.registry = exec.registry := by
  cases call with
  | load records =>
    cases called
    rfl
  | execute looks outside =>
    simp only [Executor.call, execute, Option.map_map, Option.map_eq_some_iff] at called
    obtain ⟨tally, -, rfl⟩ := called
    rfl
  | steer action =>
    cases called
    rfl

theorem replayRegistry {exec used : Executor κ} {history : List Call}
    (played : exec.replay history = some used) : used.registry = exec.registry := by
  induction history generalizing exec with
  | nil =>
    cases played
    rfl
  | cons first history ih =>
    obtain ⟨next, called, further⟩ := Option.bind_eq_some_iff.mp played
    exact (ih further).trans (callRegistry called)

def seen (result : Option (Bool × Executor κ)) :
    Option (Bool × List RunError × Array LogEntry × List (Nat × Nat × String)) :=
  result.map fun (success, final) =>
    (success, final.errors, final.context.log, final.context.calls)

def Alike (first second : Executor κ) : Prop :=
  ∀ looks, seen (first.execute looks) = seen (second.execute looks)

/-! ### Runs where the outside does nothing -/

theorem givenQuiet (total index : Nat) (command : κ) (ctx : Context)
    (quiet : ctx.outside = .quiet) :
    (Run.given total index command ctx).outside = .quiet ∧
      (Run.given total index command ctx).control = ctx.control := by
  let told := { ctx with
    notices := ctx.notices.push (.progress index total (Command.describe command) ctx.control) }
  have met := (told.extendsMeet (.announced index)).quiet quiet
  exact met

theorem pausedNever (exec : Executor κ) (quiet : exec.context.outside = .quiet)
    (paused : exec.context.control.paused = true) (loaded : exec.commands ≠ []) (looks : Nat) :
    exec.execute looks = none := by
  obtain ⟨command, rest, queue⟩ := List.exists_cons_of_ne_nil loaded
  have begun := exec.beginQuiet quiet
  have arrived := setCurrentQuiet exec.begin 0 begun.1
  have never := pausePointNever looks (exec.begin.setCurrent 0) arrived.1
    (by rw [arrived.2, begun.2]; exact paused) (by rw [arrived.2, begun.2])
  rw [execute, queue, runFrom]
  simp only [checkpoint, never]
  rfl

theorem runFromEnds (looks total : Nat) (rest : List κ)
    (leaves : ∀ command ∈ rest, Command.LeavesFlags command) (index : Nat) (tally : Tally)
    (quiet : tally.context.outside = .quiet) (unpaused : tally.context.control.paused = false) :
    ∃ last, runFrom looks total index rest tally = some last := by
  induction rest generalizing index tally with
  | nil => exact ⟨tally, rfl⟩
  | cons command rest ih =>
    have arrived := setCurrentQuiet tally.context index quiet
    obtain ⟨goesOn, ctx, passed, stillQuiet, same⟩ := checkpointPasses looks
      (tally.context.setCurrent index) arrived.1 (by rw [arrived.2]; exact unpaused)
    rw [runFrom, passed]
    cases goesOn with
    | false => exact ⟨_, rfl⟩
    | true =>
      have settled := Run.runCommandSettles total index command { tally with context := ctx }
      have given : (Run.given total index command ctx).outside = .quiet ∧
          (Run.given total index command ctx).control = ctx.control :=
        givenQuiet total index command ctx stillQuiet
      have executed := leaves command List.mem_cons_self _ given.1
      have kept := Run.settleKeeps index (Command.describe command)
        { tally with context := Run.given total index command ctx }
        (Command.execute command (Run.given total index command ctx))
      rw [← settled] at kept
      dsimp only
      generalize runCommand total index command { tally with context := ctx } = outcome at kept
      obtain ⟨goesOn, after⟩ := outcome
      cases goesOn with
      | false => exact ⟨_, rfl⟩
      | true =>
        refine ih (fun other member => leaves other (List.mem_cons_of_mem _ member)) _ after
          (kept.1.trans executed.1) ?_
        rw [kept.2, executed.2, given.2, same, arrived.2]
        exact unpaused

theorem unpausedEnds (exec : Executor κ) (quiet : exec.context.outside = .quiet)
    (unpaused : exec.context.control.paused = false)
    (leaves : ∀ command ∈ exec.commands, Command.LeavesFlags command) (looks : Nat) :
    ∃ result, exec.execute looks = some result := by
  have begun := exec.beginQuiet quiet
  obtain ⟨last, ends⟩ := runFromEnds looks exec.commands.length exec.commands leaves 0
    { context := exec.begin } begun.1 (by rw [begun.2]; exact unpaused)
  exact ⟨_, by rw [execute, ends]; rfl⟩

theorem executeForgets (exec : Executor κ) (quiet : exec.context.outside = .quiet) (running : Bool)
    (looks : Nat) :
    (exec.withFlags running exec.context.control.paused).execute looks = exec.execute looks := by
  have here := exec.beginQuiet quiet
  have there := (exec.withFlags running exec.context.control.paused).beginQuiet quiet
  have same : (exec.withFlags running exec.context.control.paused).begin = exec.begin := by
    obtain ⟨control, others⟩ := exec.beginFlags running exec.context.control.paused
    have flags := there.2.trans here.2.symm
    rw [others] at flags ⊢
    cases flags
    rfl
  change (runFrom looks exec.commands.length 0 exec.commands
    { context := (exec.withFlags running exec.context.control.paused).begin }).map _ = _
  rw [same]
  rfl

theorem emptyAlike (exec : Executor κ) (running paused : Bool) (empty : exec.commands = []) :
    Alike (exec.withFlags running paused) exec := by
  intro looks
  have ends (other : Executor κ) (loaded : other.commands = []) :
      other.execute looks = some (true, other.finish { context := other.begin }) := by
    simp only [execute, loaded, runFrom]
    rfl
  rw [ends _ empty, ends (exec.withFlags running paused) empty]
  obtain ⟨control, begun⟩ := exec.beginFlags running paused
  rw [begun]
  generalize exec.begin = ctx
  rfl

theorem pausedDiffers (used : Executor κ) (records : List Record)
    (leaves : ∀ command ∈ (anew used.registry used records).commands, Command.LeavesFlags command)
    (paused : used.context.control.paused = true)
    (loaded : (anew used.registry used records).commands ≠ []) :
    ¬ Alike (again used records) (anew used.registry used records) := by
  intro alike
  have fresh := anewQuiet used.registry used records
  obtain ⟨result, ends⟩ := unpausedEnds _ fresh.1 fresh.2 leaves 0
  have never : (again used records).execute 0 = none := by
    rw [againLeaves]
    let left := (anew used.registry used records).withFlags used.context.control.running
      used.context.control.paused
    exact pausedNever left fresh.1 paused loaded 0
  have same := alike 0
  rw [ends, never] at same
  exact absurd same (by simp [seen])

/-- After any calls that have come to their end, a run is that of a new executor unless these have
left a pause, and a command is there that it holds back. -/
theorem replayAlike (exec used : Executor κ) (history : List Call)
    (played : exec.replay history = some used) (records : List Record)
    (leaves : ∀ command ∈ (anew exec.registry used records).commands,
      Command.LeavesFlags command) :
    (used.context.control.paused = false → ∀ looks,
      (again used records).execute looks = (anew exec.registry used records).execute looks) ∧
    (Alike (again used records) (anew exec.registry used records) ↔
      used.context.control.paused = false ∨ (anew exec.registry used records).commands = []) := by
  have registry := replayRegistry played
  rw [← registry] at leaves ⊢
  have fresh := anewQuiet used.registry used records
  have unpaused (released : used.context.control.paused = false) (looks : Nat) :
      (again used records).execute looks = (anew used.registry used records).execute looks := by
    rw [againLeaves, released, ← fresh.2]
    exact executeForgets _ fresh.1 _ looks
  refine ⟨unpaused, ?_, ?_⟩
  · intro alike
    cases paused : used.context.control.paused with
    | false => exact .inl rfl
    | true =>
      by_cases empty : (anew used.registry used records).commands = []
      · exact .inr empty
      · exact absurd alike (pausedDiffers used records leaves paused empty)
  · rintro (released | empty)
    · intro looks
      rw [unpaused released looks]
    · rw [againLeaves]
      exact emptyAlike _ _ _ empty

theorem replayAlikePaused :
    let exec : Executor Builtin := {
      registry := ⟨[("page", fun _ => .ok (.saveMarkup default))]⟩
      context := {} }
    let used := exec.steer .pause
    let records := [Record.ofKind "page"]
    exec.replay [.steer .pause] = some used ∧
      (Alike (again used records) (anew exec.registry used records) ↔
        used.context.control.paused = false ∨ (anew exec.registry used records).commands = []) := by
  intro exec used records
  exact ⟨rfl, (replayAlike exec used [.steer .pause] rfl records
    (fun command _ => Command.builtinLeavesFlags command)).2⟩

theorem pauseLeaks : ∃ (exec used : Executor Builtin) (history : List Call) (records : List Record),
    exec.replay history = some used ∧
      ¬ Alike (again used records) (anew exec.registry used records) := by
  let exec : Executor Builtin := {
    registry := ⟨[("page", fun _ => .ok (.saveMarkup default))]⟩
    context := {} }
  refine ⟨exec, exec.steer .pause, [.steer .pause], [Record.ofKind "page"], rfl, ?_⟩
  exact pausedDiffers (exec.steer .pause) [Record.ofKind "page"]
    (fun command _ => Command.builtinLeavesFlags command) rfl (by decide)

end

end Executor

end PageScript
