import PageScript.Command.Builtin

/-! What the built-in commands do to the context of a run, said once: they write to the log, come to
moments at which the outside may act, and work with the surface, the clock and the files. What holds
of each of these and of one after the other holds of a command. -/
namespace PageScript

namespace Context

inductive Acts : Context → Context → Prop
  | log (ctx : Context) (level : LogLevel) (message : String) : Acts ctx (ctx.logAt level message)
  | meet (ctx : Context) (moment : Moment) : Acts ctx (ctx.meet moment)
  | work (ctx : Context) (surface : Option Surface) (clock : Clock) (files : FileTree) :
      Acts ctx { ctx with surface, clock, files }
  | trans {a b c : Context} (left : Acts a b) (right : Acts b c) : Acts a c

namespace Acts

theorem refl (ctx : Context) : ctx.Acts ctx := .work ctx ctx.surface ctx.clock ctx.files

theorem info (ctx : Context) (message : String) : ctx.Acts (ctx.info message) :=
  .log ctx .info message

theorem ofOutcome {ctx after : Context} {outcome : Outcome} {result : Except ExecutionError Unit}
    (acts : ctx.Acts outcome.1) (came : outcome = (after, result)) : ctx.Acts after := by
  rw [came] at acts
  exact acts

end Acts

theorem actsDrain (ctx : Context) : ctx.Acts ctx.drain.1 := by
  unfold drain
  split
  · exact .refl ctx
  · split
    · exact .refl ctx
    · exact .trans (.work ctx _ ctx.clock ctx.files) (.meet ..)

theorem actsSleep (ctx : Context) (nap : Nanoseconds) : ctx.Acts (ctx.sleep nap) :=
  .work ctx ctx.surface _ ctx.files

theorem actsIdleIn (step remaining : Nat) (ctx : Context) :
    ctx.Acts (idleIn step remaining ctx) := by
  fun_induction idleIn step remaining ctx with
  | case1 => exact .refl _
  | case2 _ ctx _ nap ih => exact (ctx.actsDrain.trans (actsSleep ..)).trans ih

theorem actsMakeDirectory (ctx : Context) (path : String) :
    ctx.Acts (ctx.makeDirectory path).1 :=
  .work ctx ctx.surface ctx.clock _

theorem actsWriteFile (ctx : Context) (path text : String) :
    ctx.Acts (ctx.writeFile path text).1 := by
  unfold writeFile
  split
  · exact .work ctx ctx.surface ctx.clock _
  · exact .refl ctx

end Context

open Context (Acts)

namespace Navigate

theorem actsAwaitLoad (listener : ListenerId) (timeout started : Nat) (told : Option Bool)
    (ctx : Context) : ctx.Acts (awaitLoad listener timeout started told ctx).1 := by
  fun_induction awaitLoad listener timeout started told ctx with
  | case1 => exact .refl _
  | case2 ctx => exact .work ctx ctx.surface _ ctx.files
  | case3 ctx reading _ drained ih =>
    have read : ctx.Acts { ctx with clock := reading.2 } := .work ctx ctx.surface _ ctx.files
    exact ((read.trans (Context.actsDrain _)).trans (Context.actsSleep ..)).trans ih

theorem actsVisit (url : String) (surface : Surface) (ctx : Context) :
    ctx.Acts (visit url surface ctx).1 :=
  .work ctx _ ctx.clock ctx.files

theorem actsDisconnect (ctx : Context) (listener : ListenerId) :
    ctx.Acts (disconnect ctx listener) :=
  .work ctx _ ctx.clock ctx.files

theorem actsSettle (ctx : Context) : ctx.Acts (settle ctx) := by
  unfold settle
  split
  · exact .refl ctx
  · exact (Acts.info ctx _).trans (Context.actsIdleIn ..)

theorem actsLogLoad (url : String) (ctx : Context) (loaded : Except Nanoseconds Bool) :
    ctx.Acts (logLoad url ctx loaded) := by
  cases loaded <;> exact .log ..

theorem actsExecuteWaiting (command : Navigate) (surface : Surface) (ctx : Context) :
    ctx.Acts (command.executeWaiting surface ctx).1 := by
  unfold executeWaiting
  generalize surface.connect = connected
  obtain ⟨listener, surface⟩ := connected
  have visited := actsVisit command.url surface ctx
  dsimp only
  generalize visit command.url surface ctx = outcome at visited
  obtain ⟨after, e | signals⟩ := outcome
  · exact visited.trans (actsDisconnect ..)
  · exact visited.trans <| (Acts.info ..).trans <| (actsAwaitLoad ..).trans <|
      (actsDisconnect ..).trans <| (actsLogLoad ..).trans <| (actsSettle _).trans <| Acts.info ..

theorem actsExecuteAtOnce (command : Navigate) (surface : Surface) (ctx : Context) :
    ctx.Acts (command.executeAtOnce surface ctx).1 := by
  unfold executeAtOnce
  have visited := actsVisit command.url surface ctx
  generalize visit command.url surface ctx = outcome at visited
  obtain ⟨after, e | signals⟩ := outcome
  · exact visited
  · exact visited.trans (Acts.info ..)

theorem actsExecute (command : Navigate) (ctx : Context) : ctx.Acts (command.execute ctx).1 := by
  unfold execute
  split
  · exact .refl ctx
  · dsimp only
    split
    · exact (Acts.info ctx _).trans (actsExecuteWaiting ..)
    · exact (Acts.info ctx _).trans (actsExecuteAtOnce ..)

end Navigate

theorem Pause.actsExecute (command : Pause) (ctx : Context) :
    ctx.Acts (command.execute ctx).1 := by
  unfold Pause.execute
  split
  · exact ((Acts.info ctx _).trans (Context.actsIdleIn ..)).trans (Acts.info ..)
  · exact Acts.info ctx _

theorem SaveMarkup.actsExecute (command : SaveMarkup) (ctx : Context) :
    ctx.Acts (command.execute ctx).1 := by
  unfold SaveMarkup.execute
  split
  · exact .refl ctx
  split
  · exact .refl ctx
  split
  · exact (ctx.actsMakeDirectory _).ofOutcome ‹_›
  rename_i ready made
  have ready := (ctx.actsMakeDirectory _).ofOutcome made
  split
  all_goals
    rename_i wrote
    have saved := (Acts.info ..).trans ((Context.actsWriteFile ..).ofOutcome wrote)
  · exact ready.trans saved
  · exact ready.trans (saved.trans (Acts.info ..))

theorem SaveText.actsStore (output text : String) (ctx : Context) :
    ctx.Acts (store output text ctx).1 := by
  unfold store
  split
  all_goals rename_i wrote; have saved := (ctx.actsWriteFile ..).ofOutcome wrote
  · exact saved
  · exact saved.trans (Acts.info ..)

theorem SaveText.actsExecute (command : SaveText) (ctx : Context) :
    ctx.Acts (command.execute ctx).1 := by
  unfold SaveText.execute
  split
  · exact .refl ctx
  split
  · exact .refl ctx
  dsimp only
  split
  all_goals rename_i made; have ready := (ctx.actsMakeDirectory _).ofOutcome made
  · exact ready
  · exact ready.trans (actsStore ..)

theorem Builtin.actsExecute (command : Builtin) (ctx : Context) :
    ctx.Acts (Command.execute command ctx).1 := by
  cases command with
  | navigate command => exact command.actsExecute ctx
  | pause command => exact command.actsExecute ctx
  | saveMarkup command => exact command.actsExecute ctx
  | saveText command => exact command.actsExecute ctx

end PageScript
