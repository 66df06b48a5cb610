import PageScript.Proofs.Surface.Rehearsal

/-! Which call on the handles of a stage signals which listeners. A load is signalled at most once,
by the visit itself or by the poll that its delay names. A visit that fails changes the list of
visits only. Listeners are never numbered alike, and none is called once it is disconnected. -/
namespace PageScript.Rehearsal.History

/-! ### Listeners -/

theorem connectedBelow (past : History) : ∀ id ∈ connected past, id < connects past := by
  induction past with
  | nil => exact nofun
  | cons call past ih =>
    obtain ⟨number, operation⟩ := call
    cases operation with
    | connect =>
      intro id member
      rcases List.mem_append.mp member with earlier | last
      · exact Nat.lt_succ_of_lt (ih id earlier)
      · rw [List.mem_singleton.mp last]
        exact Nat.lt_succ_self _
    | disconnect other => exact fun id member => ih id ((List.mem_filter.mp member).1)
    | _ => exact ih

theorem connectedOrdered (past : History) : (connected past).Pairwise (· < ·) := by
  induction past with
  | nil => exact .nil
  | cons call past ih =>
    obtain ⟨number, operation⟩ := call
    cases operation with
    | connect =>
      refine List.pairwise_append.mpr ⟨ih, List.pairwise_singleton _ _, ?_⟩
      intro id earlier other last
      rw [List.mem_singleton.mp last]
      exact connectedBelow past id earlier
    | disconnect other => exact ih.filter _
    | _ => exact ih

theorem connectsGrow (recent past : History) : connects past ≤ connects (recent ++ past) := by
  induction recent with
  | nil => exact Nat.le_refl _
  | cons call recent ih =>
    obtain ⟨number, operation⟩ := call
    cases operation with
    | connect => exact Nat.le_succ_of_le ih
    | _ => exact ih

theorem staysAway {past : History} {id : ListenerId} (given : id < connects past)
    (away : id ∉ connected past) (recent : History) : id ∉ connected (recent ++ past) := by
  induction recent with
  | nil => exact away
  | cons call recent ih =>
    obtain ⟨number, operation⟩ := call
    cases operation with
    | connect =>
      intro member
      rcases List.mem_append.mp member with earlier | last
      · exact ih earlier
      · rw [List.mem_singleton.mp last] at given
        exact Nat.lt_irrefl _ (Nat.lt_of_lt_of_le given (connectsGrow recent past))
    | disconnect other => exact fun member => ih ((List.mem_filter.mp member).1)
    | _ => exact ih

/-- The numbers of the listeners that were connected, as the calls answered them. -/
def given : History → List ListenerId
  | [] => []
  | call :: past => match ((after past).perform call).2.reply with
    | .connected id => id :: given past
    | _ => given past

theorem givenRange (past : History) : given past = (List.range (connects past)).reverse := by
  induction past with
  | nil => rfl
  | cons call past ih =>
    have agrees := afterAgrees past
    obtain ⟨number, operation⟩ := call
    cases operation with
    | navigate url =>
      cases answer : refusal? past url with
      | some message => simp only [given, navigateFails agrees answer, ih, connects]
      | none => simp only [given, navigateReaches agrees answer, ih, connects]
    | connect =>
      simp only [given, Rehearsal.perform, Stage.connect, agrees.nextListener, ih, connects,
        List.range_succ, List.reverse_append, List.reverse_singleton, List.singleton_append]
    | _ => exact ih

/-! ### Signals -/

theorem signalsAgree {past : History} {now : Rehearsal} (agrees : Agrees past now) :
    now.stage.signals true = (connected past).map (⟨·, true⟩) := by
  rw [Stage.signals, agrees.listeners]

theorem firesPoll (past : History) (number : Nat) :
    Fires past ⟨number, .processEvents⟩ ↔ countdown (underway past) = some 1 := by
  simp only [Fires]
  rcases underway past with _ | ⟨load, polls⟩
  · exact iff_of_false not_false (by simp [countdown])
  · cases load with
    | never => exact iff_of_false not_false (by simp [countdown])
    | afterPolls delay =>
      simp only [countdown, Option.ite_none_right_eq_some, Option.some.injEq]
      omega

theorem countdownPositive {visit : Option (LoadBehavior × Nat)} {remaining : Nat}
    (counts : countdown visit = some remaining) : 0 < remaining := by
  match visit with
  | none => cases counts
  | some (.never, _) => cases counts
  | some (.afterPolls delay, polls) =>
    simp only [countdown, Option.ite_none_right_eq_some, Option.some.injEq] at counts
    omega

theorem pollFired {past : History} {now : Rehearsal} (agrees : Agrees past now) (number : Nat) :
    now.stage.poll.2 =
      if Fires past ⟨number, .processEvents⟩ then (connected past).map (⟨·, true⟩) else [] := by
  rw [← signalsAgree agrees]
  simp only [firesPoll, Stage.poll, agrees.pendingLoad]
  cases counts : countdown (underway past) with
  | none => rfl
  | some remaining =>
    have positive := countdownPositive counts
    simp only [Option.some.injEq]
    by_cases last : remaining = 1
    · rw [if_pos last, if_pos (by omega)]
      rfl
    · rw [if_neg last, if_neg (by omega)]

theorem performFired {past : History} {now : Rehearsal} (agrees : Agrees past now) (call : Call) :
    (now.perform call).2.fired =
      if Fires past call then (connected past).map (⟨·, true⟩) else [] := by
  obtain ⟨number, operation⟩ := call
  cases operation with
  | navigate url =>
    cases answer : refusal? past url with
    | some message => simp [navigateFails agrees answer, Fires, answer]
    | none =>
      simp only [navigateReaches agrees answer, Fires, answer, true_and]
      cases load past number with
      | never => rfl
      | afterPolls delay =>
        cases delay with
        | zero => exact signalsAgree agrees
        | succ delay => rfl
  | processEvents => exact pollFired agrees number
  | _ => rfl

/-! ### A load is signalled once -/

def loads : History → Nat
  | [] => 0
  | call :: past => match call.operation with
    | .navigate url => if refusal? past url = none then loads past + 1 else loads past
    | _ => loads past

theorem loadsGrow (call : Call) (past : History) : loads past ≤ loads (call :: past) := by
  obtain ⟨number, operation⟩ := call
  cases operation with
  | navigate url =>
    simp only [loads]
    split
    · exact Nat.le_succ _
    · exact Nat.le_refl _
  | _ => exact Nat.le_refl _

theorem loadsGrowAll (recent past : History) : loads past ≤ loads (recent ++ past) := by
  induction recent with
  | nil => exact Nat.le_refl _
  | cons call recent ih => exact Nat.le_trans ih (loadsGrow call _)

/-- No poll signals the load of the last visit any more. -/
def Settled (past : History) : Prop := countdown (underway past) = none

theorem firesSettles {past : History} {call : Call} (fires : Fires past call) :
    Settled (call :: past) := by
  obtain ⟨number, operation⟩ := call
  cases operation with
  | navigate url =>
    obtain ⟨reaches, immediate⟩ := fires
    simp only [Settled, underway, reaches, immediate, if_true]
    rfl
  | processEvents =>
    have last := (firesPoll past number).mp fires
    simp only [Settled, underway, countdownNext, last]
    rfl
  | _ => cases fires

theorem settledStays {past : History} (settled : Settled past) (call : Call)
    (same : loads (call :: past) = loads past) : Settled (call :: past) := by
  obtain ⟨number, operation⟩ := call
  cases operation with
  | navigate url =>
    simp only [loads] at same
    split at same
    · exact absurd same (Nat.succ_ne_self _)
    · rename_i fails
      simpa only [Settled, underway, if_neg fails] using settled
  | processEvents =>
    unfold Settled at settled
    simp only [Settled, underway, countdownNext, settled]
  | _ => exact settled

theorem settledStaysAll {past : History} (settled : Settled past) (recent : History)
    (same : loads (recent ++ past) = loads past) : Settled (recent ++ past) := by
  induction recent with
  | nil => exact settled
  | cons call recent ih =>
    have grown := loadsGrow call (recent ++ past)
    have begun := loadsGrowAll recent past
    rw [List.cons_append] at same
    exact settledStays (ih (by omega)) call (by omega)

theorem settledFires {past : History} (settled : Settled past) {call : Call}
    (fires : Fires past call) : loads past < loads (call :: past) := by
  obtain ⟨number, operation⟩ := call
  cases operation with
  | navigate url =>
    simp only [loads, if_pos fires.1]
    exact Nat.lt_succ_self _
  | processEvents =>
    have last := (firesPoll past number).mp fires
    rw [Settled, last] at settled
    cases settled
  | _ => cases fires

theorem firesAgain {past : History} {first later : Call} (fires : Fires past first)
    (recent : History) (again : Fires (recent ++ first :: past) later) :
    loads (first :: past) < loads (later :: (recent ++ first :: past)) := by
  have begun := loadsGrowAll recent (first :: past)
  have grown := loadsGrow later (recent ++ first :: past)
  rcases Nat.lt_or_eq_of_le begun with another | same
  · exact Nat.lt_of_lt_of_le another grown
  · have settled := settledStaysAll (firesSettles fires) recent same.symm
    exact Nat.lt_of_le_of_lt begun (settledFires settled again)

/-! ### Every call of every run -/

theorem disconnectedAway {past : History} {id : ListenerId} (member : id ∈ given past)
    (number : Nat) (recent : History) :
    id ∉ connected (recent ++ ⟨number, .disconnect id⟩ :: past) := by
  have below : id < connects (⟨number, .disconnect id⟩ :: past) := by
    rwa [givenRange, List.mem_reverse, List.mem_range] at member
  have away : id ∉ connected (⟨number, .disconnect id⟩ :: past) := by
    intro still
    simpa using (List.mem_filter.mp still).2
  exact staysAway below away recent

/-- What there is to be seen after a history, and what the next call does. -/
structure Signalled (past : History) : Prop where
  visits : (after past).stage.visits = visits past
  polls : (after past).stage.polls = polls past
  shown : ∀ number, ((after past).handle number).shown = shown past number
  fired : ∀ call, ((after past).perform call).2.fired =
    if Fires past call then (connected past).map (⟨·, true⟩) else []
  inOrder : (connected past).Pairwise (· < ·)
  once : ∀ first recent later, Fires past first → Fires (recent ++ first :: past) later →
    loads (first :: past) < loads (later :: (recent ++ first :: past))
  failed : ∀ url message, refusal? past url = some message → ∀ number,
    (after past).perform ⟨number, .navigate url⟩ =
      ({ after past with stage := { (after past).stage with
          visits := (after past).stage.visits ++ [url] } }, { reply := .refused message })
  numbered : ∀ number,
    ((after past).perform ⟨number, .connect⟩).2.reply = .connected (connects past)
  distinct : (given past).Nodup
  gone : ∀ id ∈ given past, ∀ number recent call,
    ∀ signal ∈ ((after (recent ++ ⟨number, .disconnect id⟩ :: past)).perform call).2.fired,
      signal.listener ≠ id

/-- A call signals either nobody or all the listeners of that moment, once each and in the order of
their connection, and which of the two it does is decided by the calls before it alone. -/
theorem callsSignal (past : History) : Signalled past := by
  have agrees := afterAgrees past
  refine {
    visits := agrees.visits
    polls := agrees.polls
    shown := fun number => by rw [agrees.handle]
    fired := performFired agrees
    inOrder := connectedOrdered past
    once := fun _ recent _ fires => firesAgain fires recent
    failed := fun _ _ => navigateFails agrees
    numbered := fun _ => congrArg Reply.connected agrees.nextListener
    distinct := by
      rw [givenRange, List.Nodup, List.pairwise_reverse]
      exact List.nodup_range.imp Ne.symm
    gone := ?_ }
  intro id member number recent call signal fired called
  rw [performFired (afterAgrees _)] at fired
  split at fired
  · obtain ⟨other, among, rfl⟩ := List.mem_map.mp fired
    exact disconnectedAway member number recent (called ▸ among)
  · cases fired

example : Fires [⟨1, .processEvents⟩, ⟨1, .navigate "down"⟩, ⟨0, .navigate "up"⟩,
    ⟨1, .failingOn "down" "refused"⟩, ⟨0, .withLoadDelay 2⟩] ⟨1, .processEvents⟩ := by decide

end PageScript.Rehearsal.History
