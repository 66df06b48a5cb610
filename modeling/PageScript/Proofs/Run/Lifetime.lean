import PageScript.Proofs.Load.Session
import PageScript.Proofs.Run.Launch

/-! An executor from call to call. A load goes through its parts and a run through its steps, and
between any two of them others may steer; no call comes while one is served. By `changeEnds` and
`executeEnds` a call that is left alone ends as the operation that it is of. -/
namespace PageScript

/-- What a load says once its commands are counted. -/
inductive Note where
  | report (message : String)
  | info (message : String)

def Note.apply {κ : Type} (exec : Executor κ) : Note → Executor κ
  | .report message => ((Session.report message).runOn exec).2
  | .info message => exec.info message

/-- What is still to be done of a load. -/
inductive Loading where
  | clear (records : List Record) (notes : List Note)
  | rewind (records : List Record) (notes : List Note)
  | build (index : Nat) (records : List Record) (notes : List Note)
  | note (notes : List Note)

def Loading.ofScript (parsed : ParsedScript) (others : List Note) : Loading :=
  .clear parsed.script.commands (parsed.rejected.map (.report ·.message) ++ others)

/-- Calls that are no runs. -/
inductive Change where
  | loadRecords (records : List Record)
  | loadScript (parsed : ParsedScript)
  | loadJson (value : Json)
  | loadFile (path : String)
  | saveFile (path : String)
  /-- Another context in place of the one at hand. The flags are not part of what is replaced. -/
  | refit (context : Context)

inductive Life (κ : Type) where
  | idle (exec : Executor κ)
  | loading (exec : Executor κ) (left : Loading)
  | marked (exec : Executor κ)
  | running (exec : Executor κ) (run : Run κ)

namespace Executor

variable {κ : Type}

def refit (exec : Executor κ) (context : Context) : Executor κ :=
  { exec with context := { context with control := exec.context.control } }

variable [Command κ]

def change (exec : Executor κ) : Change → Executor κ
  | .loadRecords records => exec.loadRecords records
  | .loadScript parsed => exec.loadScript parsed
  | .loadJson value => (Session.settled exec (exec.loadJson value)).2
  | .loadFile path => (Session.settled exec (exec.loadFile path)).2
  | .saveFile path => (Session.settled exec (exec.saveFile path)).2
  | .refit context => exec.refit context

end Executor

/-! ### Parts of a load -/

namespace Session

variable {κ : Type}

theorem buildRuns (index : Nat) (record : Record) (exec : Executor κ) :
    (build index record).runOn exec = (.ok (), ((build index record).runOn exec).2) := by
  rw [build, runBind, runGet]
  dsimp only
  split <;> rfl

theorem partsRun (records : List Record) (exec : Executor κ) :
    let rewound := ((setCurrent 0).runOn (clear.runOn exec).2).2
    let built := ((buildFrom 0 records).runOn rewound).2
    ((setTotal built.commands.length).runOn built).2 = exec.loadRecords records := by
  have loaded := congrArg Prod.snd (loadRecordsRuns records exec)
  simp only [loadRecords, runBind, clear, setCurrent, runModify, buildFromRuns, runGet] at loaded
  simp only [clear, setCurrent, runModify, buildFromRuns, loaded]

theorem notesRun (rejected : List Rejection) (exec : Executor κ) :
    (rejected.map (Note.report ·.message)).foldl Note.apply exec =
      gain exec [] (rejected.map Rejection.message) := by
  induction rejected generalizing exec with
  | nil => exact (gainNone exec).symm
  | cons rejection rest ih =>
    rw [List.map_cons, List.foldl_cons, Note.apply, reportRuns, ih, gainMore]
    rfl

theorem scriptRuns (parsed : ParsedScript) (exec : Executor κ) :
    (parsed.rejected.map (Note.report ·.message)).foldl Note.apply
      (exec.loadRecords parsed.script.commands) = exec.loadScript parsed := by
  simp [notesRun, gain, Executor.loadScript]

end Session

namespace Life

variable {κ : Type} [Command κ]

def begin (exec : Executor κ) : Change → Life κ
  | .loadRecords records => loading exec (.clear records [])
  | .loadScript parsed => loading exec (.ofScript parsed [])
  | .loadJson value => match ParsedScript.ofJson value with
    | .ok parsed => loading exec (.ofScript parsed [])
    | .error _ => idle exec
  | .loadFile path => match ParsedScript.load exec.context.files path with
    | .ok parsed => loading exec (.ofScript parsed [.info s!"Loaded script from: {path}"])
    | .error _ => idle exec
  | .saveFile path => idle (exec.change (.saveFile path))
  | .refit context => idle (exec.refit context)

def step : Life κ → Life κ
  | idle exec => idle exec
  | loading exec (.clear records notes) =>
    loading (Session.clear.runOn exec).2 (.rewind records notes)
  | loading exec (.rewind records notes) =>
    loading ((Session.setCurrent 0).runOn exec).2 (.build 0 records notes)
  | loading exec (.build index (record :: rest) notes) =>
    loading ((Session.build index record).runOn exec).2 (.build (index + 1) rest notes)
  | loading exec (.build _ [] notes) =>
    loading ((Session.setTotal exec.commands.length).runOn exec).2 (.note notes)
  | loading exec (.note (note :: rest)) => loading (note.apply exec) (.note rest)
  | loading exec (.note []) => idle exec
  | marked exec => running exec exec.count
  | running exec run =>
    if run.phase = .ended then idle (exec.finish run.tally) else running exec run.step

def steer (action : ControlAction) : Life κ → Life κ
  | idle exec => idle (exec.steer action)
  | loading exec left => loading (exec.steer action) left
  | marked exec => marked (exec.steer action)
  | running exec run => running exec (run.steer action)

inductive Move where
  | step
  | act (action : ControlAction)
  | change (change : Change)
  | execute

/-- A run begins with the mark, as nothing that comes before it is seen of the run. -/
def move (life : Life κ) : Move → Life κ
  | .step => life.step
  | .act action => life.steer action
  | .change change => match life with
    | idle exec => begin exec change
    | other => other
  | .execute => match life with
    | idle exec => marked exec.mark
    | other => other

def follow (life : Life κ) (moves : List Move) : Life κ := moves.foldl move life

def after (life : Life κ) (steps : Nat) : Life κ := life.follow (List.replicate steps .step)

theorem afterSucc (life : Life κ) (steps : Nat) :
    life.after (steps + 1) = life.step.after steps := rfl

theorem afterAdd (life : Life κ) (steps more : Nat) :
    life.after (steps + more) = (life.after steps).after more := by
  rw [after, ← List.replicate_append_replicate]
  exact List.foldl_append ..

/-! ### Loads -/

theorem afterBuild (records : List Record) (notes : List Note) (index : Nat) (exec : Executor κ) :
    ∃ counted, (loading exec (.build index records notes)).after records.length =
      loading ((Session.buildFrom index records).runOn exec).2 (.build counted [] notes) := by
  induction records generalizing index exec with
  | nil => exact ⟨index, rfl⟩
  | cons record rest ih =>
    rw [List.length_cons, afterSucc, Session.buildFrom, Session.runBind, Session.buildRuns]
    exact ih (index + 1) ((Session.build index record).runOn exec).2

theorem afterNotes (notes : List Note) (exec : Executor κ) :
    (loading exec (.note notes)).after (notes.length + 1) = idle (notes.foldl Note.apply exec) := by
  induction notes generalizing exec with
  | nil => rfl
  | cons note notes ih => exact ih (note.apply exec)

theorem loadEnds (exec : Executor κ) (records : List Record) (notes : List Note) :
    ∃ steps, (loading exec (.clear records notes)).after steps =
      idle (notes.foldl Note.apply (exec.loadRecords records)) := by
  let rewound := ((Session.setCurrent 0).runOn (Session.clear.runOn exec).2).2
  have begun : (loading exec (.clear records notes)).after 2 =
      loading rewound (.build 0 records notes) := rfl
  obtain ⟨counted, built⟩ := afterBuild records notes 0 rewound
  refine ⟨2 + (records.length + (notes.length + 1 + 1)), ?_⟩
  rw [afterAdd, begun, afterAdd, built, afterSucc, ← Session.partsRun records exec, ← afterNotes]
  rfl

theorem scriptEnds (exec : Executor κ) (parsed : ParsedScript) (others : List Note) :
    ∃ steps, (loading exec (.ofScript parsed others)).after steps =
      idle (others.foldl Note.apply (exec.loadScript parsed)) := by
  obtain ⟨steps, ends⟩ := loadEnds exec parsed.script.commands
    (parsed.rejected.map (.report ·.message) ++ others)
  rw [List.foldl_append, Session.scriptRuns] at ends
  exact ⟨steps, ends⟩

theorem changeEnds (exec : Executor κ) (change : Change) :
    ∃ steps, (begin exec change).after steps = idle (exec.change change) := by
  cases change with
  | loadRecords records => exact loadEnds exec records []
  | loadScript parsed => exact scriptEnds exec parsed []
  | loadJson value =>
    rw [begin, Executor.change, Executor.loadJson]
    cases ParsedScript.ofJson value with
    | ok parsed => exact scriptEnds exec parsed []
    | error => exact ⟨0, rfl⟩
  | loadFile path =>
    rw [begin, Executor.change, Executor.loadFile]
    cases ParsedScript.load exec.context.files path with
    | ok parsed => exact scriptEnds exec parsed [.info s!"Loaded script from: {path}"]
    | error => exact ⟨0, rfl⟩
  | saveFile => exact ⟨0, rfl⟩
  | refit => exact ⟨0, rfl⟩

/-! ### Runs -/

theorem afterRun (exec : Executor κ) (run : Run κ) {steps : Nat}
    (ended : (run.after steps).phase = .ended) :
    ∃ more, (running exec run).after more = idle (exec.finish (run.after steps).tally) := by
  induction steps generalizing run with
  | zero => exact ⟨1, if_pos ended⟩
  | succ steps ih =>
    by_cases already : run.phase = .ended
    · rw [Run.afterEnded already]
      exact ⟨1, if_pos already⟩
    · obtain ⟨more, ends⟩ := ih run.step ended
      refine ⟨more + 1, ?_⟩
      rw [afterSucc, step, if_neg already, ends]
      rfl

theorem afterIdle (exec : Executor κ) (steps : Nat) : (idle exec).after steps = idle exec := by
  induction steps with
  | zero => rfl
  | succ steps ih => exact ih

theorem runEnded {exec final : Executor κ} {run : Run κ} {steps : Nat}
    (ends : (running exec run).after steps = idle final) :
    ∃ last, run.Reaches last ∧ last.phase = .ended ∧ final = exec.finish last.tally := by
  induction steps generalizing run with
  | zero => cases ends
  | succ steps ih =>
    rw [afterSucc, step] at ends
    split at ends
    · rename_i ended
      rw [afterIdle] at ends
      exact ⟨run, .refl run, ended, (idle.inj ends).symm⟩
    · obtain ⟨last, reaches, ended⟩ := ih ends
      exact ⟨last, .trans ⟨1, rfl⟩ reaches, ended⟩

/-- What is computed with some number of looks is what a run that is left alone ends with. -/
theorem executeEnds (exec : Executor κ) (success : Bool) (final : Executor κ) :
    (∃ looks, exec.execute looks = some (success, final)) ↔
      ∃ steps, (marked exec.mark).after steps = idle final ∧ success = final.errors.isEmpty := by
  rw [Run.executeExact]
  constructor
  · rintro ⟨last, ⟨steps, rfl⟩, ended, rfl, rfl⟩
    obtain ⟨more, ends⟩ := afterRun exec.mark (Run.start exec) ended
    exact ⟨more + 1, ends, rfl⟩
  · rintro ⟨steps, ends, rfl⟩
    cases steps with
    | zero => cases ends
    | succ steps =>
      obtain ⟨last, reaches, ended, rfl⟩ := runEnded ends
      exact ⟨last, reaches, ended, rfl, rfl⟩

end Life

end PageScript
