import PageScript.Command.Basic

/-! Going to a URL, and waiting for its page to load unless told not to. The listener for the load
signal is connected before the visit begins, so that a quick signal is not missed, and is
disconnected in every case. -/
namespace PageScript

structure Navigate where
  url : String
  waitForLoad : Bool
  deriving DecidableEq, Repr

structure LoadTimeout where
  url : String
  waited : Nanoseconds
  deriving DecidableEq, Repr

def LoadTimeout.message (t : LoadTimeout) : String :=
  s!"page load timeout after {t.waited.millis}ms for {t.url}"

namespace Navigate

def make (url : String) (waitForLoad : Bool) : Except ValidationError Navigate :=
  if url.isEmpty then .error (.missing "url") else .ok ⟨url, waitForLoad⟩

def ofRecord (record : Record) : Except ValidationError Navigate := do
  match ← record.text? "url" with
  | none => .error (.missing "url")
  | some url => make url ((← record.flag? "wait_for_load").getD true)

def toRecord (command : Navigate) : Record :=
  ((Record.ofKind navigateKind).set "url" (.string command.url)).set "wait_for_load"
    (.bool command.waitForLoad)

def heard (listener : ListenerId) (before : Option Bool) (signals : List Signal) : Option Bool :=
  signals.foldl (fun told s => if s.listener = listener then some s.success else told) before

theorem drainClock (ctx : Context) : ctx.drain.1.clock = ctx.clock := by
  unfold Context.drain
  split
  · rfl
  · split <;> rfl

theorem nowAfterNap (ctx : Context) (nap : Nat) :
    ((Context.drain { ctx with clock := ctx.clock.read.2 }).1.sleep nap).clock.now =
      ctx.clock.now + ctx.clock.lag ctx.clock.readings + max nap 1 := by
  simp only [Context.sleep, Clock.sleep, drainClock, Clock.read]

def awaitLoad (listener : ListenerId) (timeout started : Nat) (told : Option Bool)
    (ctx : Context) : Context × Except Nanoseconds Bool :=
  match told with
  | some success => (ctx, .ok success)
  | none =>
    let reading := ctx.clock.read
    if timeout ≤ reading.1 - started then
      let later := reading.2.read
      ({ ctx with clock := later.2 }, .error (later.1 - started))
    else
      let drained := Context.drain { ctx with clock := reading.2 }
      awaitLoad listener timeout started (heard listener told drained.2)
        (drained.1.sleep ctx.wait.pollInterval)
termination_by timeout + started - ctx.clock.now
decreasing_by
  rename_i early
  have early : ¬timeout ≤ ctx.clock.now + ctx.clock.lag ctx.clock.readings - started := early
  rw [nowAfterNap]
  omega

def visit (url : String) (surface : Surface) (ctx : Context) :
    Context × Except ExecutionError (List Signal) :=
  let (surface, result) := surface.navigate url
  ({ ctx with surface := some surface }, result.mapError (.navigation url))

def disconnect (ctx : Context) (listener : ListenerId) : Context :=
  { ctx with surface := ctx.surface.map (·.disconnect listener) }

def settle (ctx : Context) : Context :=
  if ctx.wait.settleDelay = 0 then ctx
  else (ctx.info "Allowing render process to complete painting...").idleFor ctx.wait.settleDelay

def logLoad (url : String) (ctx : Context) : Except Nanoseconds Bool → Context
  | .ok success => ctx.info s!"Page load finished (success={Context.boolText success})"
  | .error waited => ctx.warn ((LoadTimeout.mk url waited).message ++ " - continuing anyway")

def executeWaiting (command : Navigate) (surface : Surface) (ctx : Context) : Outcome :=
  let (listener, surface) := surface.connect
  match visit command.url surface ctx with
  | (ctx, .error e) => (disconnect ctx listener, .error e)
  | (ctx, .ok signals) =>
    let ctx := ctx.info s!"Waiting for page load (max {ctx.wait.loadTimeout.millis}ms)..."
    let (ctx, loaded) :=
      awaitLoad listener ctx.wait.loadTimeout ctx.clock.now (heard listener none signals) ctx
    let ctx := settle (logLoad command.url (disconnect ctx listener) loaded)
    (ctx.info s!"URL loaded successfully: {command.url}", .ok ())

def executeAtOnce (command : Navigate) (surface : Surface) (ctx : Context) : Outcome :=
  match visit command.url surface ctx with
  | (ctx, .error e) => (ctx, .error e)
  | (ctx, .ok _) => (ctx.info s!"URL loaded successfully: {command.url}", .ok ())

def execute (command : Navigate) (ctx : Context) : Outcome :=
  match ctx.surface with
  | none => (ctx, .error .noSurface)
  | some surface =>
    let ctx := ctx.info s!"Loading URL: {command.url}"
    if command.waitForLoad then command.executeWaiting surface ctx
    else command.executeAtOnce surface ctx

end Navigate

instance : Command Navigate where
  kind _ := navigateKind
  toRecord := Navigate.toRecord
  execute := Navigate.execute

end PageScript
