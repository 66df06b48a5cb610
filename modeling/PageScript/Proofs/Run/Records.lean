import PageScript.Proofs.Run.Extends

/-! The entries by which the log of a context grows, and that its sink is told of each of them once
and of nothing else. This holds of all that a run does between two calls of its progress callback,
and of the built-in commands. -/
namespace PageScript

/-- An entry without its time. -/
def LogEntry.said (entry : LogEntry) : LogLevel × String := (entry.level, entry.message)

namespace Context

/-- What the sink of a context is told of entries. -/
def heard (ctx : Context) (entries : List LogEntry) : List Notice :=
  match ctx.sink with
  | some label => entries.map (.entry label)
  | none => []

@[simp] theorem heardNil (ctx : Context) : ctx.heard [] = [] := by
  unfold heard
  split <;> rfl

@[simp] theorem heardAppend (ctx : Context) (first second : List LogEntry) :
    ctx.heard (first ++ second) = ctx.heard first ++ ctx.heard second := by
  unfold heard
  split
  · exact List.map_append
  · rfl

structure Records (before after : Context) (entries : List LogEntry) : Prop where
  log : after.log.toList = before.log.toList ++ entries
  notices : after.notices.toList = before.notices.toList ++ before.heard entries
  sink : after.sink = before.sink
  stopOnError : after.stopOnError = before.stopOnError

theorem Records.ofSame {before after : Context} (log : after.log = before.log)
    (notices : after.notices = before.notices) (sink : after.sink = before.sink)
    (stopOnError : after.stopOnError = before.stopOnError) : before.Records after [] where
  log := by rw [log, List.append_nil]
  notices := by rw [notices, heardNil, List.append_nil]
  sink := sink
  stopOnError := stopOnError

theorem Records.refl (ctx : Context) : ctx.Records ctx [] := .ofSame rfl rfl rfl rfl

theorem Records.heard {before after : Context} {entries : List LogEntry}
    (records : before.Records after entries) (more : List LogEntry) :
    after.heard more = before.heard more := by
  rw [Context.heard, Context.heard, records.sink]

theorem Records.trans {a b c : Context} {first second : List LogEntry}
    (left : a.Records b first) (right : b.Records c second) : a.Records c (first ++ second) where
  log := by rw [right.log, left.log, List.append_assoc]
  notices := by rw [right.notices, left.notices, left.heard, heardAppend, List.append_assoc]
  sink := right.sink.trans left.sink
  stopOnError := right.stopOnError.trans left.stopOnError

theorem Records.appends {before after : Context} {entries : List LogEntry}
    (records : before.Records after entries) : before.Appends after := by
  have quiet : (before.heard entries).filterMap Notice.call? = [] := by
    unfold Context.heard
    split
    · simp [List.filterMap_map, Function.comp_def, Notice.call?]
    · rfl
  refine ⟨⟨?_, ?_, records.stopOnError⟩, ?_⟩
  · rw [records.log]
    exact List.prefix_append ..
  · rw [records.notices]
    exact List.prefix_append ..
  · rw [calls, records.notices, List.filterMap_append, quiet, List.append_nil]
    rfl

/-! ### Operations of a context -/

def stamped (ctx : Context) (level : LogLevel) (message : String) : LogEntry :=
  ⟨(CivilTime.ofNanoseconds ctx.clock.now).timeOfDay, level, message⟩

theorem recordsLogAt (ctx : Context) (level : LogLevel) (message : String) :
    ctx.Records (ctx.logAt level message) [ctx.stamped level message] where
  log := Array.toList_push
  notices := by
    simp only [logAt, heard]
    cases ctx.sink with
    | some label => exact Array.toList_push
    | none => exact (List.append_nil _).symm
  sink := rfl
  stopOnError := rfl

theorem recordsInfo (ctx : Context) (message : String) :
    ctx.Records (ctx.info message) [ctx.stamped .info message] :=
  ctx.recordsLogAt .info message

theorem recordsReach (ctx : Context) : ctx.Records ctx.reach [] := .ofSame rfl rfl rfl rfl

theorem recordsSetRunning (ctx : Context) (running : Bool) :
    ctx.Records (ctx.setRunning running) [] :=
  .ofSame rfl rfl rfl rfl

theorem recordsSetCurrent (ctx : Context) (current : Nat) :
    ctx.Records (ctx.setCurrent current) [] :=
  .ofSame rfl rfl rfl rfl

theorem recordsSetTotal (ctx : Context) (total : Nat) : ctx.Records (ctx.setTotal total) [] :=
  .ofSame rfl rfl rfl rfl

theorem recordsDrain (ctx : Context) : ctx.Records ctx.drain.1 [] := by
  unfold drain
  split
  · exact .refl ctx
  · split
    · exact .refl ctx
    · exact .ofSame rfl rfl rfl rfl

theorem recordsSleep (ctx : Context) (nap : Nanoseconds) : ctx.Records (ctx.sleep nap) [] :=
  .ofSame rfl rfl rfl rfl

theorem Acts.records {before after : Context} (acts : before.Acts after) :
    ∃ entries, before.Records after entries := by
  induction acts with
  | log ctx level message => exact ⟨_, ctx.recordsLogAt level message⟩
  | meet => exact ⟨[], .ofSame rfl rfl rfl rfl⟩
  | work => exact ⟨[], .ofSame rfl rfl rfl rfl⟩
  | trans _ _ left right =>
    obtain ⟨first, left⟩ := left
    obtain ⟨second, right⟩ := right
    exact ⟨first ++ second, left.trans right⟩

end Context

namespace Command

def Records {κ : Type} [Command κ] (command : κ) : Prop :=
  ∀ ctx : Context, ∃ entries, ctx.Records (execute command ctx).1 entries

end Command

end PageScript
