import PageScript.Command.Navigate
import PageScript.Proofs.Surface.Signals

/-! What going to a URL does to the surface. It is a few calls through one handle of the stage, and
on every exit a listener that was connected is disconnected again. What is left of the listeners and
the visits is read off these calls (`Leaves`). -/
namespace PageScript.Rehearsal

def surface (now : Rehearsal) (number : Nat) (faults : Faults) : Surface :=
  ⟨now.handle number, now.stage, faults⟩

namespace History

/-- The surface of a context is the handle under a number, after a history. -/
def Shows (past : History) (number : Nat) (faults : Faults) (ctx : Context) : Prop :=
  ctx.surface = some ((after past).surface number faults)

def pollsOf (number count : Nat) : History := List.replicate count ⟨number, .processEvents⟩

/-- Only polls came after the history. -/
def Drains (past : History) (number : Nat) (faults : Faults) (ctx : Context) : Prop :=
  ∃ count, Shows (pollsOf number count ++ past) number faults ctx

section
variable {past : History} {number : Nat} {faults : Faults} {ctx : Context}

theorem connectShows (past : History) (number : Nat) (faults : Faults) :
    ((after past).surface number faults).connect =
      (connects past, (after (⟨number, .connect⟩ :: past)).surface number faults) := by
  rw [← (afterAgrees past).nextListener]
  rfl

theorem disconnectShows (shows : Shows past number faults ctx) (id : ListenerId) :
    Shows (⟨number, .disconnect id⟩ :: past) number faults (Navigate.disconnect ctx id) := by
  rw [Shows, Navigate.disconnect, shows]
  rfl

theorem visitRefused (number : Nat) (faults : Faults) {url message : String}
    (refused : refusal? past url = some message) (ctx : Context) :
    ∃ visited, Navigate.visit url ((after past).surface number faults) ctx =
        (visited, .error (.navigation url (((after past).surface number faults).error message))) ∧
      Shows (⟨number, .navigate url⟩ :: past) number faults visited := by
  have agrees := afterAgrees past
  simp only [Navigate.visit, Surface.navigate, surface, visitFails agrees refused]
  refine ⟨_, rfl, ?_⟩
  rw [Shows, after, navigateFails agrees refused]
  rfl

theorem visitReached (number : Nat) (faults : Faults) {url : String}
    (reaches : refusal? past url = none) (ctx : Context) :
    ∃ visited signals,
      Navigate.visit url ((after past).surface number faults) ctx = (visited, .ok signals) ∧
      Shows (⟨number, .navigate url⟩ :: past) number faults visited := by
  have agrees := afterAgrees past
  simp only [Navigate.visit, Surface.navigate, surface, visitReaches agrees reaches]
  refine ⟨_, _, rfl, ?_⟩
  simp only [Shows, after, navigateReaches agrees reaches, surface, setHandle, if_true]

theorem Drains.drain (drains : Drains past number faults ctx) :
    Drains past number faults ctx.drain.1 := by
  obtain ⟨count, shows⟩ := drains
  unfold Context.drain
  split
  · exact ⟨count, shows⟩
  · rw [shows]
    exact ⟨count + 1, rfl⟩

theorem Drains.idleIn (drains : Drains past number faults ctx) (step remaining : Nat) :
    Drains past number faults (Context.idleIn step remaining ctx) := by
  fun_induction Context.idleIn step remaining ctx with
  | case1 => exact drains
  | case2 _ ctx _ nap ih => exact ih drains.drain

theorem Drains.awaitLoad (drains : Drains past number faults ctx) (listener : ListenerId)
    (timeout started : Nat) (told : Option Bool) :
    Drains past number faults (Navigate.awaitLoad listener timeout started told ctx).1 := by
  fun_induction Navigate.awaitLoad listener timeout started told ctx with
  | case1 => exact drains
  | case2 => exact drains
  | case3 ctx reading _ drained ih =>
    have read : Drains past number faults { ctx with clock := reading.2 } := drains
    exact ih read.drain

theorem Drains.logLoad (drains : Drains past number faults ctx) (url : String)
    (loaded : Except Nanoseconds Bool) :
    Drains past number faults (Navigate.logLoad url ctx loaded) := by
  cases loaded <;> exact drains

theorem Drains.settle (drains : Drains past number faults ctx) :
    Drains past number faults (Navigate.settle ctx) := by
  unfold Navigate.settle
  split
  · exact drains
  · have logged : Drains past number faults
        (ctx.info "Allowing render process to complete painting...") := drains
    exact logged.idleIn _ _

/-! ### What the calls leave -/

/-- The listeners are those of before, and there is one more visit. -/
structure Leaves (past : History) (url : String) (later : History) : Prop where
  listeners : connected later = connected past
  visits : visits later = visits past ++ [url]

structure LeavesAll (past : History) (number : Nat) (url : String) (later : History) : Prop
    extends Leaves past url later where
  polls : polls later = polls past
  underway : underway later = underway past
  shown : shown later number = shown past number

theorem connectedPolls (number count : Nat) (past : History) :
    connected (pollsOf number count ++ past) = connected past := by
  induction count with
  | zero => rfl
  | succ count ih => exact ih

theorem visitsPolls (number count : Nat) (past : History) :
    visits (pollsOf number count ++ past) = visits past := by
  induction count with
  | zero => rfl
  | succ count ih => exact ih

/-- The listener of the visit is the last one, and no other has its number. -/
theorem releaseLast (past : History) :
    (connected past ++ [connects past]).filter (· ≠ connects past) = connected past := by
  have others : (connected past).filter (· ≠ connects past) = connected past :=
    List.filter_eq_self.mpr fun id member => by
      simpa using Nat.ne_of_lt (connectedBelow past id member)
  rw [List.filter_append, others]
  simp

theorem Leaves.stage {url : String} {later : History} (leaves : Leaves past url later) :
    later.after.stage.listeners = past.after.stage.listeners ∧
      later.after.stage.visits = past.after.stage.visits ++ [url] := by
  have before := past.afterAgrees
  have left := later.afterAgrees
  rw [left.listeners, leaves.listeners, before.listeners, left.visits, leaves.visits, before.visits]
  exact ⟨rfl, rfl⟩

theorem LeavesAll.handle {url : String} {later : History}
    (leaves : LeavesAll past number url later) :
    (later.after.handle number).shown = (past.after.handle number).shown ∧
      later.after.stage.pendingLoad = past.after.stage.pendingLoad ∧
      later.after.stage.polls = past.after.stage.polls := by
  have before := past.afterAgrees
  have left := later.afterAgrees
  rw [left.handle, before.handle, leaves.shown, left.pendingLoad, before.pendingLoad,
    leaves.underway, left.polls, before.polls, leaves.polls]
  exact ⟨rfl, rfl, rfl⟩

def waitedVisit (past : History) (number : Nat) (url : String) (waited settled : Nat) : History :=
  pollsOf number settled ++ ⟨number, .disconnect (connects past)⟩ ::
    (pollsOf number waited ++ [⟨number, .navigate url⟩, ⟨number, .connect⟩])

theorem waitedCalls (past : History) (number : Nat) (url : String) (waited settled : Nat) :
    waitedVisit past number url waited settled ++ past =
      pollsOf number settled ++ ⟨number, .disconnect (connects past)⟩ ::
        (pollsOf number waited ++ ⟨number, .navigate url⟩ :: ⟨number, .connect⟩ :: past) := by
  simp [waitedVisit]

theorem waitedLeaves (past : History) (number : Nat) (url : String) (waited settled : Nat) :
    Leaves past url (waitedVisit past number url waited settled ++ past) := by
  rw [waitedCalls]
  constructor
  · simp only [connectedPolls, connected, releaseLast]
  · simp only [visitsPolls, visits]

theorem refusedLeaves {url message : String} (refused : refusal? past url = some message) :
    LeavesAll past number url (⟨number, .navigate url⟩ :: past) where
  listeners := rfl
  visits := rfl
  polls := rfl
  underway := by simp only [underway, refused, reduceCtorEq, if_false]
  shown := by simp only [shown, refused, reduceCtorEq, and_false, if_false]

theorem refusedReleased {url message : String} (refused : refusal? past url = some message) :
    LeavesAll past number url (⟨number, .disconnect (connects past)⟩ ::
      ⟨number, .navigate url⟩ :: ⟨number, .connect⟩ :: past) := by
  have leaves : LeavesAll (⟨number, .connect⟩ :: past) number url _ := refusedLeaves refused
  exact { leaves with listeners := releaseLast past }

/-! ### Each way to the end -/

section
variable (command : Navigate) (number : Nat) (faults : Faults)

theorem waitingReached (reaches : refusal? past command.url = none) (ctx : Context) :
    ∃ waited settled left,
      command.executeWaiting ((after past).surface number faults) ctx = (left, .ok ()) ∧
      Shows (waitedVisit past number command.url waited settled ++ past) number faults left := by
  obtain ⟨visited, signals, made, shows⟩ := visitReached number faults
    (show refusal? (⟨number, .connect⟩ :: past) command.url = none from reaches) ctx
  simp only [Navigate.executeWaiting, connectShows, made]
  have begins : Drains _ number faults
      (visited.info s!"Waiting for page load (max {visited.wait.loadTimeout.millis}ms)...") :=
    ⟨0, shows⟩
  obtain ⟨waited, waits⟩ := begins.awaitLoad (connects past) visited.wait.loadTimeout
    visited.clock.now (Navigate.heard (connects past) none signals)
  have released : Drains _ number faults _ := ⟨0, disconnectShows waits (connects past)⟩
  obtain ⟨settled, settles⟩ := (released.logLoad command.url _).settle
  refine ⟨waited, settled, _, rfl, ?_⟩
  rw [waitedCalls]
  exact settles

theorem waitingRefused {message : String} (refused : refusal? past command.url = some message)
    (ctx : Context) : ∃ left, command.executeWaiting ((after past).surface number faults) ctx =
        (left, .error (.navigation command.url
          (((after past).surface number faults).error message))) ∧
      Shows (⟨number, .disconnect (connects past)⟩ :: ⟨number, .navigate command.url⟩ ::
        ⟨number, .connect⟩ :: past) number faults left := by
  obtain ⟨visited, made, shows⟩ := visitRefused number faults
    (show refusal? (⟨number, .connect⟩ :: past) command.url = some message from refused) ctx
  simp only [Navigate.executeWaiting, connectShows, made]
  exact ⟨_, rfl, disconnectShows shows (connects past)⟩

theorem executeReached (reaches : refusal? past command.url = none) (ctx : Context) :
    ∃ recent left,
      command.execute { ctx with surface := some ((after past).surface number faults) } =
        (left, .ok ()) ∧ Shows (recent ++ past) number faults left ∧
      Leaves past command.url (recent ++ past) := by
  simp only [Navigate.execute]
  split
  · obtain ⟨waited, settled, left, made, shows⟩ := waitingReached command number faults reaches _
    exact ⟨_, left, made, shows, waitedLeaves past number command.url waited settled⟩
  · obtain ⟨left, signals, made, shows⟩ := visitReached number faults reaches _
    rw [Navigate.executeAtOnce, made]
    exact ⟨[⟨number, .navigate command.url⟩], _, rfl, shows, rfl, rfl⟩

theorem executeRefused {message : String} (refused : refusal? past command.url = some message)
    (ctx : Context) : ∃ recent left,
      command.execute { ctx with surface := some ((after past).surface number faults) } =
        (left, .error (.navigation command.url
          (((after past).surface number faults).error message))) ∧
      Shows (recent ++ past) number faults left ∧
      LeavesAll past number command.url (recent ++ past) := by
  simp only [Navigate.execute]
  split
  · obtain ⟨left, made, shows⟩ := waitingRefused command number faults refused _
    exact ⟨[_, _, _], left, made, shows, refusedReleased refused⟩
  · obtain ⟨left, made, shows⟩ := visitRefused number faults refused _
    rw [Navigate.executeAtOnce, made]
    exact ⟨[_], left, rfl, shows, refusedLeaves refused⟩

end

end

end History

end PageScript.Rehearsal

namespace PageScript.Navigate

open Rehearsal

/-- Whatever calls were made on the stage before, the listeners are left as they were found and one
visit is added. A visit that fails shows no other page, leaves the pending load and makes no poll.
-/
theorem executeRestores (command : Navigate) (ctx : Context) :
    (∀ (past : History) (number : Nat) (faults : Faults), ∃ recent : History,
      let before := past.after.surface number faults
      let left := (recent ++ past).after.surface number faults
      let outcome := command.execute { ctx with surface := some before }
      outcome.1.surface = some left ∧
      left.stage.listeners = before.stage.listeners ∧
      left.stage.visits = before.stage.visits ++ [command.url] ∧
      match before.stage.failing.lookup command.url with
      | none => outcome.2 = .ok ()
      | some message => outcome.2 = .error (.navigation command.url (before.error message)) ∧
          left.page? = before.page? ∧ left.stage.pendingLoad = before.stage.pendingLoad ∧
          left.stage.polls = before.stage.polls) ∧
    command.execute { ctx with surface := none } =
      ({ ctx with surface := none }, .error .noSurface) := by
  refine ⟨fun past number faults => ?_, rfl⟩
  have table : (past.after.surface number faults).stage.failing.lookup command.url =
      past.refusal? command.url := past.afterAgrees.refusal command.url
  simp only [table]
  cases answer : past.refusal? command.url with
  | none =>
    obtain ⟨recent, left, made, shows, leaves⟩ :=
      History.executeReached command number faults answer ctx
    simp only [made]
    exact ⟨recent, shows, leaves.stage.1, leaves.stage.2, trivial⟩
  | some message =>
    obtain ⟨recent, left, made, shows, leaves⟩ :=
      History.executeRefused command number faults answer ctx
    simp only [made]
    exact ⟨recent, shows, leaves.stage.1, leaves.stage.2, trivial, leaves.handle⟩

end PageScript.Navigate
