import PageScript.Dashboard.Event
import PageScript.Proofs.Run.Accounting

/-! What a run tells those who follow it. Its log and the events of its sink come to the same: a
chapter for each command that was executed, and what was logged since the last of them. A chapter
holds what was logged before its command, the announcement and the entry that the command is
executed, and then all that was logged until it was over. -/
namespace PageScript

open Dashboard (RunEvent)

def LogEntry.event (entry : LogEntry) : RunEvent := .log entry.level entry.line

def Context.events (ctx : Context) : List RunEvent := ctx.notices.toList.map .ofNotice

structure Chapter (κ : Type) where
  execution : Execution κ
  before : List LogEntry
  begun : LogEntry
  during : List LogEntry

namespace Chapter

variable {κ : Type}

def entries (chapter : Chapter κ) : List LogEntry :=
  chapter.before ++ chapter.begun :: chapter.during

variable [Command κ]

def description (chapter : Chapter κ) : String := Command.describe chapter.execution.command

def events (total : Nat) (chapter : Chapter κ) : List RunEvent :=
  chapter.before.map LogEntry.event ++
    .progress chapter.execution.index total chapter.description ::
      (chapter.begun :: chapter.during).map LogEntry.event

structure Tells (total : Nat) (chapter : Chapter κ) : Prop where
  begun : chapter.begun.level = .info ∧ chapter.begun.message =
    s!"Executing [{chapter.execution.index + 1}/{total}]: {chapter.description}"
  /-- The command was given the log up to this entry. -/
  given : chapter.execution.context.log.toList.getLast? = some chapter.begun
  /-- What the command logged itself, and then what was logged about its outcome. -/
  during : ∃ own verdict, chapter.during = own ++ verdict ∧
    (Command.execute chapter.execution.command chapter.execution.context).1.log.toList =
      chapter.execution.context.log.toList ++ own ∧
    verdict.map LogEntry.said = Run.verdict
      (Command.execute chapter.execution.command chapter.execution.context).1.stopOnError
      (Command.execute chapter.execution.command chapter.execution.context).2

end Chapter

structure Chronicle (κ : Type) where
  chapters : List (Chapter κ) := []
  closing : List LogEntry := []

namespace Chronicle

variable {κ : Type}

def entries (chronicle : Chronicle κ) : List LogEntry :=
  chronicle.chapters.flatMap Chapter.entries ++ chronicle.closing

def complete (chronicle : Chronicle κ) (execution : Execution κ) (begun : LogEntry)
    (during : List LogEntry) : Chronicle κ where
  chapters := chronicle.chapters ++ [⟨execution, chronicle.closing, begun, during⟩]

variable [Command κ]

def events (total : Nat) (chronicle : Chronicle κ) : List RunEvent :=
  chronicle.chapters.flatMap (Chapter.events total) ++ chronicle.closing.map LogEntry.event

/-- The log and the events of a context, from those of an executor on. -/
structure Tells (exec : Executor κ) (executed : List (Execution κ)) (ctx : Context)
    (chronicle : Chronicle κ) : Prop where
  log : ctx.log.toList = exec.context.log.toList ++ chronicle.entries
  events : ctx.events = exec.context.events ++ chronicle.events exec.commands.length
  sink : ctx.sink = exec.context.sink
  executed : chronicle.chapters.map Chapter.execution = executed
  chapters : ∀ chapter ∈ chronicle.chapters, chapter.Tells exec.commands.length

end Chronicle

namespace Context

variable {ctx after : Context} {label : String}

theorem eventsRecorded {entries : List LogEntry} (records : ctx.Records after entries)
    (sink : ctx.sink = some label) :
    after.events = ctx.events ++ entries.map LogEntry.event := by
  have heard : ctx.heard entries = entries.map (.entry label) := by rw [Context.heard, sink]
  rw [events, records.notices, heard, List.map_append, List.map_map]
  rfl

theorem eventsAnnounced (ctx : Context) (index total : Nat) (description : String) :
    (ctx.announce index total description).events =
      ctx.events ++ [.progress index total description] := by
  simp [events, announce, meet, RunEvent.ofNotice]

end Context

namespace Chronicle.Tells

variable {κ : Type} [Command κ] {exec : Executor κ} {executed : List (Execution κ)}
  {ctx : Context} {chronicle : Chronicle κ} {label : String}

theorem start (exec : Executor κ) : Tells exec [] exec.context ({} : Chronicle κ) where
  log := (List.append_nil _).symm
  events := (List.append_nil _).symm
  sink := rfl
  executed := rfl
  chapters := List.forall_mem_nil _

/-- The command of an execution was given where the chronicle ends. -/
theorem complete (tells : Tells exec executed ctx chronicle)
    (sink : exec.context.sink = some label) {execution : Execution κ} {after : Context}
    {own verdict : List LogEntry}
    (given : execution.context =
      Run.given exec.commands.length execution.index execution.command ctx)
    (runs : execution.context.Records
      (Command.execute execution.command execution.context).1 own)
    (judged : (Command.execute execution.command execution.context).1.Records after verdict)
    (said : verdict.map LogEntry.said = Run.verdict
      (Command.execute execution.command execution.context).1.stopOnError
      (Command.execute execution.command execution.context).2) :
    ∃ begun, Tells exec (executed ++ [execution]) after
      (chronicle.complete execution begun (own ++ verdict)) := by
  let description := Command.describe execution.command
  let told := ctx.announce execution.index exec.commands.length description
  let begun := told.stamped .info
    s!"Executing [{execution.index + 1}/{exec.commands.length}]: {description}"
  have begins : told.Records execution.context [begun] := by
    rw [given]
    exact told.recordsInfo _
  have records := begins.trans (runs.trans judged)
  have heard : told.sink = some label := tells.sink.trans sink
  refine ⟨begun, ?_, ?_, ?_, ?_, ?_⟩
  · rw [records.log]
    change ctx.log.toList ++ _ = _
    rw [tells.log]
    simp [Chronicle.entries, Chronicle.complete, Chapter.entries]
  · rw [Context.eventsRecorded records heard, Context.eventsAnnounced, tells.events]
    simp [Chronicle.events, Chronicle.complete, Chapter.events, Chapter.description, description]
  · exact records.sink.trans tells.sink
  · simp [Chronicle.complete, tells.executed]
  · intro chapter member
    rcases List.mem_append.mp member with earlier | latest
    · exact tells.chapters chapter earlier
    · rw [List.mem_singleton.mp latest]
      exact {
        begun := ⟨rfl, rfl⟩
        given := by rw [begins.log, List.getLast?_concat]
        during := ⟨own, verdict, rfl, runs.log, said⟩ }

end Chronicle.Tells

namespace Run

variable {κ : Type} [Command κ] {exec : Executor κ} {run : Run κ} {command : κ} {rest : List κ}
  {label : String}

end Run

end PageScript
