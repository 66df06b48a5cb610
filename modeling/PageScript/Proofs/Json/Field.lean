import PageScript.Proofs.Json.Length
import PageScript.Proofs.Json.Shaped

/-! Shapes as a grammar: strings, null, and a shape with one field, which a text holds once. The
values of the field are given by a relation, and `wantFieldExact` holds for any reader that goes by
it. -/
namespace PageScript.Json

/-! ### Strings and null -/

theorem scalarString {c : Char} {text rest : List Char} {s : String}
    (read : readScalar c text = .ok (.string s, rest)) :
    c = '"' ∧ readString text = .ok (s, rest) := by
  unfold readScalar at read
  iterate 3
    split at read
    · obtain ⟨_, -, same⟩ := Result.mapOk.mp read
      cases same
  split at read
  · rename_i quote
    obtain ⟨_, found, same⟩ := Result.mapOk.mp read
    cases same
    exact ⟨quote, found⟩
  · split at read
    · obtain ⟨_, -, same⟩ := Result.mapOk.mp read
      cases same
    · cases read

theorem scalarNull {c : Char} {text rest : List Char}
    (read : readScalar c text = .ok (.null, rest)) :
    c = 'n' ∧ readWord ['u', 'l', 'l'] text = .ok rest := by
  unfold readScalar at read
  split at read
  · rename_i first
    obtain ⟨_, found, same⟩ := Result.mapOk.mp read
    cases same
    exact ⟨first, found⟩
  · iterate 4
      split at read
      · obtain ⟨_, -, same⟩ := Result.mapOk.mp read
        cases same
    cases read

theorem wantStringExact {cs rest : List Char} {s : String} :
    wantString cs = .ok (s, rest) ↔ Spells cs (.value (.string s)) rest := by
  constructor
  · intro read
    unfold wantString at read
    split at read
    · rename_i c text begins
      split at read
      · rename_i quote
        subst quote
        refine .scalar begins (by decide) ?_
        simp only [readScalar, Char.reduceEq, if_false, if_true, read, Result.okMap]
      · cases read
    · cases read
  · intro spelled
    cases spelled with
    | scalar begins plain read =>
      obtain ⟨rfl, found⟩ := scalarString read
      simp only [wantString, begins, if_true, found]

theorem wantNullExact {cs rest : List Char} :
    wantNull cs = .ok rest ↔ Spells cs (.value .null) rest := by
  constructor
  · intro read
    unfold wantNull at read
    split at read
    · rename_i c text begins
      split at read
      · rename_i first
        subst first
        refine .scalar begins (by decide) ?_
        simp only [readScalar, if_true, read, Result.okMap]
      · cases read
    · cases read
  · intro spelled
    cases spelled with
    | scalar begins plain read =>
      obtain ⟨rfl, found⟩ := scalarNull read
      simp only [wantNull, begins, if_true, found]

theorem keyString {cs rest : List Char} {s : String} :
    readKey cs = .ok (s, rest) ↔ wantString cs = .ok (s, rest) := by
  unfold readKey wantString
  cases skipSpace cs with
  | nil => exact Iff.rfl
  | cons c text =>
    dsimp only
    split
    · exact Iff.rfl
    · exact ⟨nofun, nofun⟩

theorem separatorCloses {bracket : Char} {cs rest : List Char}
    (closed : readSeparator bracket cs = .ok (.closed rest)) : skipSpace cs = bracket :: rest := by
  unfold readSeparator at closed
  split at closed
  · cases closed
  · rename_i c text begins
    split at closed
    · cases closed
    · split at closed
      · rename_i same
        cases closed
        rw [begins, same]
      · cases closed

theorem keyOpen {cs named : List Char} {key : String} (read : readKey cs = .ok (key, named)) :
    closedAtOnce? '}' cs = none := by
  unfold readKey at read
  split at read
  · cases read
  · rename_i c text begins
    split at read
    · rename_i quote
      simp only [closedAtOnce?, begins, quote, Char.reduceEq, if_false]
    · cases read

/-! ### Grammar of a field -/

variable {α : Type} (key : String) (Stands : α → List Char → List Char → Prop)

/-- A member of an object: one of the key with its value, or one that is passed over. -/
inductive Member : List Char → Option α → List Char → Prop
  | field {cs named text rest : List Char} {x : α} (name : readKey cs = .ok (key, named))
      (colon : readColon named = .ok text) (value : Stands x text rest) : Member cs (some x) rest
  | other {cs named text rest : List Char} {otherKey : String}
      (name : readKey cs = .ok (otherKey, named)) (different : otherKey ≠ key)
      (colon : readColon named = .ok text) (passed : pass text = .ok rest) : Member cs none rest

/-- The members behind the bracket of an object, with the values of those of the key. -/
inductive Fields : List Char → List α → List Char → Prop
  | last {cs behind rest : List Char} {x : Option α} (member : Member key Stands cs x behind)
      (closed : readSeparator '}' behind = .ok (.closed rest)) : Fields cs x.toList rest
  | more {cs behind next rest : List Char} {x : Option α} {xs : List α}
      (member : Member key Stands cs x behind)
      (more : readSeparator '}' behind = .ok (.more next)) (further : Fields next xs rest) :
      Fields cs (x.toList ++ xs) rest

inductive Holds : α → List Char → List Char → Prop
  | object {cs text rest : List Char} {x : α} (begins : skipSpace cs = '{' :: text)
      (once : Fields key Stands text [x] rest) : Holds x cs rest
  | array {cs text behind rest : List Char} {x : α} (begins : skipSpace cs = '[' :: text)
      (filled : closedAtOnce? ']' text = none) (value : Stands x text behind)
      (closed : readSeparator ']' behind = .ok (.closed rest)) : Holds x cs rest

theorem foundSame {found next : Option α} (same : next.toList = found.toList) : next = found := by
  cases found <;> cases next <;> simp at same ⊢
  exact same

theorem foundJoined {found x last : Option α} {xs : List α}
    (whole : last.toList = found.toList ++ (x.toList ++ xs)) :
    (found.or x).toList = found.toList ++ x.toList := by
  cases found with
  | none => rfl
  | some first =>
    cases x with
    | none => rfl
    | some second => cases last <;> simp at whole

/-! ### Fields of a text -/

section
variable {key Stands} (functional : ∀ ⦃cs x y rest rest'⦄, Stands x cs rest →
  Stands y cs rest' → x = y ∧ rest = rest')
include functional

theorem memberUnique {cs rest rest' : List Char} {x y : Option α}
    (first : Member key Stands cs x rest) (second : Member key Stands cs y rest') :
    x = y ∧ rest = rest' := by
  cases first with
  | field name colon value =>
    cases second with
    | field name' colon' value' =>
      cases name.symm.trans name'
      cases colon.symm.trans colon'
      obtain ⟨rfl, rfl⟩ := functional value value'
      exact ⟨rfl, rfl⟩
    | other name' different _ _ =>
      cases name.symm.trans name'
      exact absurd rfl different
  | other name different colon passed =>
    cases second with
    | field name' _ _ =>
      cases name.symm.trans name'
      exact absurd rfl different
    | other name' _ colon' passed' =>
      cases name.symm.trans name'
      cases colon.symm.trans colon'
      cases passed.symm.trans passed'
      exact ⟨rfl, rfl⟩

theorem fieldsUnique {cs rest rest' : List Char} {xs ys : List α}
    (first : Fields key Stands cs xs rest) (second : Fields key Stands cs ys rest') :
    xs = ys ∧ rest = rest' := by
  induction first generalizing ys rest' with
  | last member closed =>
    cases second with
    | last member' closed' =>
      obtain ⟨rfl, rfl⟩ := memberUnique functional member member'
      cases closed.symm.trans closed'
      exact ⟨rfl, rfl⟩
    | more member' more' _ =>
      obtain ⟨-, rfl⟩ := memberUnique functional member member'
      cases closed.symm.trans more'
  | more member more further ih =>
    cases second with
    | last member' closed' =>
      obtain ⟨-, rfl⟩ := memberUnique functional member member'
      cases more.symm.trans closed'
    | more member' more' further' =>
      obtain ⟨rfl, rfl⟩ := memberUnique functional member member'
      cases more.symm.trans more'
      obtain ⟨rfl, rfl⟩ := ih further'
      exact ⟨rfl, rfl⟩

end

section
variable {key Stands} {β : Type} {Means : β → List Char → List Char → Prop} {R : α → β → Prop}
  (means : ∀ ⦃cs x rest⦄, Stands x cs rest → ∃ y, Means y cs rest ∧ R x y)
include means

theorem memberMeans {cs rest : List Char} {x : Option α} (member : Member key Stands cs x rest) :
    ∃ y : Option β, Member key Means cs y rest ∧ List.Forall₂ R x.toList y.toList := by
  cases member with
  | field name colon value =>
    obtain ⟨y, meant, related⟩ := means value
    exact ⟨some y, .field name colon meant, .cons related .nil⟩
  | other name different colon passed => exact ⟨none, .other name different colon passed, .nil⟩

theorem fieldsMeans {cs rest : List Char} {xs : List α} (fields : Fields key Stands cs xs rest) :
    ∃ ys, Fields key Means cs ys rest ∧ List.Forall₂ R xs ys := by
  induction fields with
  | last member closed =>
    obtain ⟨y, meant, related⟩ := memberMeans means member
    exact ⟨_, .last meant closed, related⟩
  | more member more further ih =>
    obtain ⟨y, meant, first⟩ := memberMeans means member
    obtain ⟨ys, others, related⟩ := ih
    exact ⟨_, .more meant more others, List.rel_append first related⟩

end

/-! ### Readers -/

section
variable {key Stands} {item : Reader α}
  (exact : ∀ {cs x rest}, item cs = .ok (x, rest) ↔ Stands x cs rest)
include exact

theorem memberExact {cs named rest : List Char} {name : String} {found next : Option α}
    (read : readKey cs = .ok (name, named)) :
    fieldMember key item found name named = .ok (next, rest) ↔
      ∃ x, Member key Stands cs x rest ∧ next.toList = found.toList ++ x.toList := by
  constructor
  · intro taken
    unfold fieldMember at taken
    split at taken
    · rename_i same
      subst same
      cases found with
      | some first => cases taken
      | none =>
        obtain ⟨text, colon, taken⟩ := Result.bindOk.mp taken
        obtain ⟨⟨x, behind⟩, value, same⟩ := Result.bindOk.mp taken
        cases same
        exact ⟨some x, .field read colon (exact.mp value), rfl⟩
    · rename_i different
      obtain ⟨text, colon, taken⟩ := Result.bindOk.mp taken
      obtain ⟨behind, passed, same⟩ := Result.bindOk.mp taken
      cases same
      exact ⟨none, .other read different colon passed, (List.append_nil _).symm⟩
  · rintro ⟨x, member, joined⟩
    cases member with
    | field name' colon value =>
      cases name'.symm.trans read
      cases found with
      | some first => cases next <;> simp at joined
      | none =>
        have same : next = some _ := foundSame joined
        simp only [fieldMember, if_true, colon, Result.okBind, exact.mpr value, same]
        rfl
    | other name' different colon passed =>
      cases name'.symm.trans read
      have same : next = found := foundSame (joined.trans (List.append_nil _))
      simp only [fieldMember, different, if_false, colon, Result.okBind, passed, same]

omit exact in
theorem memberNamed {cs rest : List Char} {x : Option α} (member : Member key Stands cs x rest) :
    ∃ name named, readKey cs = .ok (name, named) := by
  cases member with
  | field name _ _ => exact ⟨_, _, name⟩
  | other name _ _ _ => exact ⟨_, _, name⟩

omit exact in
theorem memberShorter (shrinks : ∀ {cs x rest}, Stands x cs rest → rest.length ≤ cs.length)
    {cs rest : List Char} {x : Option α} (member : Member key Stands cs x rest) :
    rest.length < cs.length := by
  cases member with
  | field name colon value =>
    exact Nat.lt_of_le_of_lt (shrinks value)
      (Nat.lt_of_lt_of_le (colonShorter colon) (keyLength name))
  | other name _ colon passed =>
    exact Nat.lt_of_le_of_lt (passedLength passed)
      (Nat.lt_of_lt_of_le (colonShorter colon) (keyLength name))

theorem foldFields {n : Nat} {cs rest : List Char} {found last : Option α}
    (read : foldMembersFrom (fieldMember key item) n found cs = .ok (last, rest)) :
    ∃ xs, Fields key Stands cs xs rest ∧ last.toList = found.toList ++ xs := by
  induction n generalizing cs found with
  | zero => cases read
  | succ n ih =>
    rw [foldMembersFrom] at read
    obtain ⟨⟨name, named⟩, key, read⟩ := Result.bindOk.mp read
    obtain ⟨⟨next, behind⟩, taken, read⟩ := Result.bindOk.mp read
    obtain ⟨separator, after, read⟩ := Result.bindOk.mp read
    obtain ⟨x, member, joined⟩ := (memberExact exact key).mp taken
    cases separator with
    | closed ends =>
      cases read
      exact ⟨_, .last member after, joined⟩
    | more next =>
      obtain ⟨xs, further, whole⟩ := ih read
      exact ⟨_, .more member after further, by rw [whole, joined, List.append_assoc]⟩

theorem fieldsFold (shrinks : ∀ {cs x rest}, Stands x cs rest → rest.length ≤ cs.length)
    {cs rest : List Char} {xs : List α} (fields : Fields key Stands cs xs rest) :
    ∀ {n found last}, cs.length < n → last.toList = found.toList ++ xs →
      foldMembersFrom (fieldMember key item) n found cs = .ok (last, rest) := by
  induction fields with
  | last member closed =>
    intro n found last enough whole
    obtain ⟨n, rfl⟩ := Nat.exists_eq_succ_of_ne_zero (Nat.ne_of_gt (Nat.zero_lt_of_lt enough))
    obtain ⟨name, named, read⟩ := memberNamed member
    have taken := (memberExact exact read).mpr ⟨_, member, whole⟩
    simp only [foldMembersFrom, read, Result.okBind, taken, closed]
  | more member more further ih =>
    intro n found last enough whole
    obtain ⟨n, rfl⟩ := Nat.exists_eq_succ_of_ne_zero (Nat.ne_of_gt (Nat.zero_lt_of_lt enough))
    obtain ⟨name, named, read⟩ := memberNamed member
    have joined := foundJoined whole
    have taken := (memberExact exact read).mpr ⟨_, member, joined⟩
    have shorter := memberShorter shrinks member
    have after := separatorShorter more
    dsimp only at after
    simp only [foldMembersFrom, read, Result.okBind, taken, more]
    exact ih (by omega) (by rw [joined, List.append_assoc]; exact whole)

theorem soleExact {cs rest : List Char} {x : α} : soleItem item cs = .ok (x, rest) ↔
    closedAtOnce? ']' cs = none ∧
      ∃ behind, Stands x cs behind ∧ readSeparator ']' behind = .ok (.closed rest) := by
  constructor
  · intro read
    unfold soleItem at read
    cases inside : closedAtOnce? ']' cs with
    | some after =>
      rw [inside] at read
      cases read
    | none =>
      rw [inside] at read
      obtain ⟨⟨y, behind⟩, value, read⟩ := Result.bindOk.mp read
      obtain ⟨separator, after, read⟩ := Result.bindOk.mp read
      cases separator with
      | closed ends =>
        cases read
        exact ⟨rfl, behind, exact.mp value, after⟩
      | more next => cases read
  · rintro ⟨filled, behind, value, closed⟩
    simp only [soleItem, filled, Option.isSome_none, Bool.false_eq_true, if_false,
      exact.mpr value, Result.okBind, closed]

omit exact in
theorem fieldsOpen {cs rest : List Char} {xs : List α} (fields : Fields key Stands cs xs rest) :
    closedAtOnce? '}' cs = none := by
  cases fields with
  | last member _ | more member _ _ =>
    obtain ⟨name, named, read⟩ := memberNamed member
    exact keyOpen read

theorem wantFieldExact (shrinks : ∀ {cs x rest}, Stands x cs rest → rest.length ≤ cs.length)
    {cs rest : List Char} {x : α} :
    wantField key item cs = .ok (x, rest) ↔ Holds key Stands x cs rest := by
  constructor
  · intro read
    unfold wantField at read
    split at read
    · cases read
    · rename_i c text begins
      split at read
      · rename_i bracket
        subst bracket
        obtain ⟨filled, behind, value, closed⟩ := (soleExact exact).mp read
        exact .array begins filled value closed
      · split at read
        · rename_i bracket
          subst bracket
          obtain ⟨⟨found, behind⟩, folded, read⟩ := Result.bindOk.mp read
          cases found with
          | none => cases read
          | some y =>
            cases read
            unfold foldMembers at folded
            split at folded
            · cases folded
            · obtain ⟨xs, fields, whole⟩ := foldFields exact folded
              cases whole
              exact .object begins fields
        · cases read
  · intro holds
    cases holds with
    | @object _ text _ _ begins once =>
      have folded : foldMembersFrom (fieldMember key item) (steps text) none text =
          .ok (some x, rest) :=
        fieldsFold exact shrinks once (by rw [steps]; omega) rfl
      simp only [wantField, begins, Char.reduceEq, if_false, if_true, foldMembers,
        fieldsOpen once, folded, Result.okBind]
    | array begins filled value closed =>
      simp only [wantField, begins, if_true]
      exact (soleExact exact).mpr ⟨filled, _, value, closed⟩

end

end PageScript.Json
