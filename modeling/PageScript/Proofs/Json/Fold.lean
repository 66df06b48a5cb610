import PageScript.Json.Shape
import PageScript.Proofs.Json.RoundTrip

/-! Reading what was written into a given shape. Where the readers of the parts give back each part,
the readers of arrays and objects give back the whole. -/
namespace PageScript.Json

/-! ### Parts of a shape -/

theorem keepWritten (indent : Indent) {value : Json} {budget : Budget} (reads : value.NumbersReadBack)
    (deep : value.depth ≤ budget) {rest : List Char} (stops : Stops rest) :
    keep budget (indent.colon.tail ++ (write indent value ++ rest)) = .ok (value.sorted, rest) := by
  rw [keep, readValueFrom (skipColon indent _)]
  refine readValueWritten value indent _ budget rest reads deep ?_ stops
  simp only [steps, List.length_append]
  omega

theorem wantStringWritten {text rest : List Char} {s : String}
    (begins : skipSpace text = skipSpace (quoted s ++ rest)) : wantString text = .ok (s, rest) := by
  rw [wantString, begins, quotedBegins, skipNothing _ (by decide)]
  exact readStringWritten s rest

/-! ### Objects -/

section
variable {σ : Type} {step : MemberReader σ}

/-- The state after the members, each of which the step reads as it was written. -/
inductive Folds (step : MemberReader σ) (indent : Indent) : σ → List (String × Json) → σ → Prop
  | done {state : σ} : Folds step indent state [] state
  | member {state next last : σ} {key : String} {value : Json} {members : List (String × Json)}
      (reads : ∀ rest, Stops rest →
        step state key (indent.colon ++ (write indent value ++ rest)) = .ok (next, rest))
      (further : Folds step indent next members last) :
      Folds step indent state ((key, value) :: members) last

theorem foldMembersStep {n : Nat} {indent outer : Indent} {text rest : List Char} {key : String}
    {state next last : σ} {members : List (String × Json)}
    (read : step state key text =
      .ok (next, writeMembers indent members ++ (outer.gap ++ '}' :: rest)))
    (further : members ≠ [] → foldMembersFrom step n next ((writeMembers indent members).tail ++
      (outer.gap ++ '}' :: rest)) = .ok (last, rest))
    (done : members = [] → next = last) :
    foldMembersFrom step (n + 1) state (indent.gap ++ (quoted key ++ text)) = .ok (last, rest) := by
  rw [foldMembersFrom, readKeyWritten, Result.okBind]
  simp only [read, Result.okBind, separatorMembers]
  cases members with
  | nil => rw [done rfl]
  | cons member members => exact further (List.cons_ne_nil _ _)

theorem foldMembersFromWritten {indent outer : Indent} {state last : σ} {rest : List Char}
    {members : List (String × Json)} (folds : Folds step indent state members last) :
    ∀ n, members.length ≤ n → members ≠ [] → foldMembersFrom step n state
      ((writeMembers indent members).tail ++ (outer.gap ++ '}' :: rest)) = .ok (last, rest) := by
  induction folds with
  | done => exact fun _ _ filled => absurd rfl filled
  | @member state next last key value members reads further ih =>
    intro n enough _
    obtain ⟨n, rfl⟩ : ∃ before, n = before + 1 := Nat.exists_eq_add_one.mpr (by
      exact Nat.lt_of_lt_of_le (Nat.succ_pos _) enough)
    have read := reads _ (stopsMembers indent outer members rest)
    simp only [writeMembers, List.cons_append, List.append_assoc, List.tail_cons]
    refine foldMembersStep read (fun filled => ?_) (fun none => ?_)
    · exact ih n (Nat.le_of_succ_le_succ enough) filled
    · subst none
      cases further
      rfl

theorem membersLength (indent : Indent) (members : List (String × Json)) :
    members.length ≤ (writeMembers indent members).length := by
  induction members with
  | nil => exact Nat.le_refl 0
  | cons member members ih =>
    simp only [writeMembers, List.length_append, List.length_cons]
    omega

theorem foldMembersWritten (indent : Indent) {state last : σ} {members : List (String × Json)}
    (folds : Folds step indent.deeper state members last) (rest : List Char) :
    ∃ text, write indent (.object members) ++ rest = '{' :: text ∧
      foldMembers step state text = .ok (last, rest) := by
  cases members with
  | nil =>
    cases folds
    exact ⟨_, rfl, rfl⟩
  | cons member members =>
    refine ⟨_, writeObject indent member members rest, ?_⟩
    have lengths := membersLength indent.deeper (member :: members)
    rw [foldMembers, membersOpened]
    refine foldMembersFromWritten folds _ ?_ (List.cons_ne_nil _ _)
    simp only [steps, List.length_append, List.length_tail, List.length_cons] at lengths ⊢
    omega

end

/-! ### Arrays -/

section
variable {α : Type} {item : Reader α}

theorem foldItemsStep {n : Nat} {indent outer : Indent} {cs rest : List Char} {x : α}
    {items : List Json} {others : List α}
    (read : item cs = .ok (x, writeItems indent items ++ (outer.gap ++ ']' :: rest)))
    (next : items ≠ [] → foldItemsFrom item n ((writeItems indent items).tail ++
      (outer.gap ++ ']' :: rest)) = .ok (others, rest))
    (last : items = [] → others = []) :
    foldItemsFrom item (n + 1) cs = .ok (x :: others, rest) := by
  rw [foldItemsFrom, read, Result.okBind]
  simp only [separatorItems, Result.okBind]
  cases items with
  | nil => rw [last rfl]
  | cons item items => simp only [next (List.cons_ne_nil _ _), Result.okBind]

variable {toJson : α → Json}

/-- The reader gives back the value of what was written, here in an array. -/
def ItemReads (item : Reader α) (toJson : α → Json) (indent : Indent) (x : α) : Prop :=
  ∀ rest, Stops rest → item (indent.gap ++ (write indent (toJson x) ++ rest)) = .ok (x, rest)

theorem foldItemsFromWritten {indent outer : Indent} (rest : List Char) {xs : List α}
    (reads : ∀ x ∈ xs, ItemReads item toJson indent x) :
    ∀ n, xs.length ≤ n → xs ≠ [] → foldItemsFrom item n
      ((writeItems indent (xs.map toJson)).tail ++ (outer.gap ++ ']' :: rest)) =
        .ok (xs, rest) := by
  induction xs with
  | nil => exact fun _ _ filled => absurd rfl filled
  | cons x xs ih =>
    obtain ⟨here, others⟩ := List.forall_mem_cons.mp reads
    intro n enough _
    obtain ⟨n, rfl⟩ : ∃ before, n = before + 1 := Nat.exists_eq_add_one.mpr
      (Nat.lt_of_lt_of_le (Nat.succ_pos _) enough)
    have read := here _ (stopsItems indent outer (xs.map toJson) rest)
    simp only [List.map_cons, writeItems, List.cons_append, List.append_assoc, List.tail_cons]
    refine foldItemsStep read (fun filled => ?_) List.map_eq_nil_iff.mp
    exact ih others n (Nat.le_of_succ_le_succ enough) (fun none => filled (by rw [none]; rfl))

theorem itemsLength (indent : Indent) (items : List Json) :
    items.length ≤ (writeItems indent items).length := by
  induction items with
  | nil => exact Nat.le_refl 0
  | cons item items ih =>
    simp only [writeItems, List.length_append, List.length_cons]
    omega

theorem wantItemsWritten (indent : Indent) {xs : List α} {text rest : List Char}
    (begins : skipSpace text = skipSpace (write indent (.array (xs.map toJson)) ++ rest))
    (numbers : ∀ x ∈ xs, (toJson x).NumbersReadBack)
    (reads : ∀ x ∈ xs, ItemReads item toJson indent.deeper x) :
    wantItems item text = .ok (xs, rest) := by
  cases xs with
  | nil =>
    rw [wantItems, begins]
    rfl
  | cons x xs =>
    have lengths := itemsLength indent.deeper ((x :: xs).map toJson)
    rw [wantItems, begins, List.map_cons, writeArray, skipNothing _ (by decide)]
    simp only [if_true]
    rw [foldItems, itemsOpened _ _ _ (numbers x List.mem_cons_self)]
    refine foldItemsFromWritten rest reads _ ?_ (List.cons_ne_nil _ _)
    simp only [steps, List.length_append, List.length_tail, List.length_cons, List.length_map,
      List.map_cons] at lengths ⊢
    omega

end

end PageScript.Json
