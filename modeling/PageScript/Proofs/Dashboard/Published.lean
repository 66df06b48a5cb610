import PageScript.Cli.Program
import PageScript.Proofs.Load.Report
import PageScript.Proofs.Run.Chronicle
import PageScript.Proofs.Run.Ends

/-! What a rehearsal publishes on the dashboard: the events of its chronicle and then its end. The
entries of the chronicle are what was logged since the script was loaded. -/
namespace PageScript

open Dashboard (RunEvent)

/-! ### Events of one kind -/

namespace Dashboard.RunEvent

def logged? : RunEvent → Option (LogLevel × String)
  | .log level line => some (level, line)
  | _ => none

end Dashboard.RunEvent

namespace LogEntry

def published (entry : LogEntry) : LogLevel × String := (entry.level, entry.line)

theorem eventsLogged (entries : List LogEntry) :
    (entries.map event).filterMap RunEvent.logged? = entries.map published := by
  rw [List.filterMap_map, ← List.filterMap_eq_map]
  rfl

end LogEntry

namespace Chapter

variable {κ : Type} [Command κ]

theorem eventsLogged (total : Nat) (chapter : Chapter κ) :
    (chapter.events total).filterMap RunEvent.logged? =
      chapter.entries.map LogEntry.published := by
  rw [events, List.filterMap_append, List.filterMap_cons_none rfl, LogEntry.eventsLogged,
    LogEntry.eventsLogged, ← List.map_append]
  rfl

end Chapter

namespace Chronicle

variable {κ : Type} [Command κ]

theorem eventsLogged (total : Nat) (chronicle : Chronicle κ) :
    (chronicle.events total).filterMap RunEvent.logged? =
      chronicle.entries.map LogEntry.published := by
  rw [events, entries, List.filterMap_append, List.filterMap_flatMap, LogEntry.eventsLogged,
    List.map_append, List.map_flatMap]
  simp only [Chapter.eventsLogged]

end Chronicle

/-! ### From the command line to the run -/

namespace Cli

section
variable {loaded : Executor Builtin} {last : Run Builtin} {options : RunOptions}

end

end Cli

end PageScript
