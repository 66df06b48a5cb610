import PageScript.Json.Reader
import PageScript.Proofs.Basic

/-! What a text spells. The readers go by a grammar that knows of no steps and no budget, and in it
a text spells one value, which ends at one place (`Spells.unique`). Two readers that take a value
off the same text thus take the same value. -/
namespace PageScript.Json

/-! ### Grammar -/

/-- A value that is no array and no object, from its first character on. -/
def readScalar (c : Char) (rest : List Char) : Except Fault (Taken Json) :=
  if c = 'n' then (readWord ['u', 'l', 'l'] rest).map (Json.null, ·)
  else if c = 't' then (readWord ['r', 'u', 'e'] rest).map (Json.bool true, ·)
  else if c = 'f' then (readWord ['a', 'l', 's', 'e'] rest).map (Json.bool false, ·)
  else if c = '"' then (readString rest).map fun (s, after) => (.string s, after)
  else if startsNumber c then (Number.read (c :: rest)).map fun (x, after) => (.number x, after)
  else .error .malformed

/-- A value, or what stands between the brackets of an array or object that is not empty. -/
inductive Part where
  | value (value : Json)
  | items (items : List Json)
  | members (members : List (String × Json))

inductive Spells : List Char → Part → List Char → Prop
  | scalar {cs text rest : List Char} {c : Char} {value : Json} (begins : skipSpace cs = c :: text)
      (plain : c ≠ '[' ∧ c ≠ '{') (read : readScalar c text = .ok (value, rest)) :
      Spells cs (.value value) rest
  | emptyArray {cs text rest : List Char} (begins : skipSpace cs = '[' :: text)
      (closed : closedAtOnce? ']' text = some rest) : Spells cs (.value (.array [])) rest
  | array {cs text rest : List Char} {items : List Json} (begins : skipSpace cs = '[' :: text)
      (filled : closedAtOnce? ']' text = none) (inside : Spells text (.items items) rest) :
      Spells cs (.value (.array items)) rest
  | emptyObject {cs text rest : List Char} (begins : skipSpace cs = '{' :: text)
      (closed : closedAtOnce? '}' text = some rest) : Spells cs (.value (.object [])) rest
  | object {cs text rest : List Char} {members : List (String × Json)}
      (begins : skipSpace cs = '{' :: text) (filled : closedAtOnce? '}' text = none)
      (inside : Spells text (.members members) rest) :
      Spells cs (.value (.object (Members.ofList members))) rest
  | lastItem {cs behind rest : List Char} {item : Json} (first : Spells cs (.value item) behind)
      (closed : readSeparator ']' behind = .ok (.closed rest)) : Spells cs (.items [item]) rest
  | item {cs behind text rest : List Char} {item : Json} {items : List Json}
      (first : Spells cs (.value item) behind)
      (more : readSeparator ']' behind = .ok (.more text))
      (further : Spells text (.items items) rest) : Spells cs (.items (item :: items)) rest
  | lastMember {cs named text behind rest : List Char} {key : String} {value : Json}
      (read : readKey cs = .ok (key, named)) (colon : readColon named = .ok text)
      (first : Spells text (.value value) behind)
      (closed : readSeparator '}' behind = .ok (.closed rest)) :
      Spells cs (.members [(key, value)]) rest
  | member {cs named text behind next rest : List Char} {key : String} {value : Json}
      {members : List (String × Json)}
      (read : readKey cs = .ok (key, named)) (colon : readColon named = .ok text)
      (first : Spells text (.value value) behind)
      (more : readSeparator '}' behind = .ok (.more next))
      (further : Spells next (.members members) rest) :
      Spells cs (.members ((key, value) :: members)) rest

section
variable {cs text rest : List Char} {value : Json}

theorem Spells.scalarRead {c : Char} (spelled : Spells cs (.value value) rest)
    (begins : skipSpace cs = c :: text) (plain : c ≠ '[' ∧ c ≠ '{') :
    readScalar c text = .ok (value, rest) := by
  cases spelled with
  | scalar same _ read =>
    rw [begins] at same
    cases same
    exact read
  | emptyArray same _ | array same _ _ =>
    rw [begins] at same
    exact absurd (List.cons.inj same).1 plain.1
  | emptyObject same _ | object same _ _ =>
    rw [begins] at same
    exact absurd (List.cons.inj same).1 plain.2

theorem Spells.arrayInside (spelled : Spells cs (.value value) rest)
    (begins : skipSpace cs = '[' :: text) : ∃ items, value = .array items ∧
      (closedAtOnce? ']' text = some rest ∧ items = [] ∨
        closedAtOnce? ']' text = none ∧ Spells text (.items items) rest) := by
  cases spelled with
  | scalar same plain _ =>
    rw [begins] at same
    exact absurd (List.cons.inj same).1.symm plain.1
  | emptyArray same closed =>
    rw [begins] at same
    cases same
    exact ⟨[], rfl, .inl ⟨closed, rfl⟩⟩
  | array same filled inside =>
    rw [begins] at same
    cases same
    exact ⟨_, rfl, .inr ⟨filled, inside⟩⟩
  | emptyObject same _ | object same _ _ =>
    rw [begins] at same
    exact absurd (List.cons.inj same).1 (by decide)

theorem Spells.objectInside (spelled : Spells cs (.value value) rest)
    (begins : skipSpace cs = '{' :: text) : ∃ members, value = .object (Members.ofList members) ∧
      (closedAtOnce? '}' text = some rest ∧ members = [] ∨
        closedAtOnce? '}' text = none ∧ Spells text (.members members) rest) := by
  cases spelled with
  | scalar same plain _ =>
    rw [begins] at same
    exact absurd (List.cons.inj same).1.symm plain.2
  | emptyArray same _ | array same _ _ =>
    rw [begins] at same
    exact absurd (List.cons.inj same).1 (by decide)
  | emptyObject same closed =>
    rw [begins] at same
    cases same
    exact ⟨[], rfl, .inl ⟨closed, rfl⟩⟩
  | object same filled inside =>
    rw [begins] at same
    cases same
    exact ⟨_, rfl, .inr ⟨filled, inside⟩⟩

end

def Part.sort : Part → Nat
  | .value _ => 0
  | .items _ => 1
  | .members _ => 2

theorem Spells.unique {cs rest rest' : List Char} {part part' : Part} (first : Spells cs part rest)
    (second : Spells cs part' rest') (sorts : part.sort = part'.sort) :
    part = part' ∧ rest = rest' := by
  induction first generalizing part' rest' with
  -- The first character of a value says which of these it is.
  | scalar begins plain read => cases second <;> grind [Part.sort]
  | emptyArray begins closed => cases second <;> grind [Part.sort]
  | array begins filled inside ih => cases second <;> grind [Part.sort]
  | emptyObject begins closed => cases second <;> grind [Part.sort]
  | object begins filled inside ih => cases second <;> grind [Part.sort]
  -- Of a list the first values end at one place, so the same separator follows them.
  | lastItem item closed ih =>
    cases second with
    | lastItem item' _ | item item' _ _ =>
      obtain ⟨same, rfl⟩ := ih item' rfl
      grind [Part.sort]
    | _ => cases sorts
  | item item more further ih others =>
    cases second with
    | lastItem item' _ | item item' _ _ =>
      obtain ⟨same, rfl⟩ := ih item' rfl
      grind [Part.sort]
    | _ => cases sorts
  | lastMember read colon value closed ih =>
    cases second with
    | lastMember read' colon' value' _ | member read' colon' value' _ _ =>
      cases read.symm.trans read'
      cases colon.symm.trans colon'
      obtain ⟨same, rfl⟩ := ih value' rfl
      grind [Part.sort]
    | _ => cases sorts
  | member read colon value more further ih others =>
    cases second with
    | lastMember read' colon' value' _ | member read' colon' value' _ _ =>
      cases read.symm.trans read'
      cases colon.symm.trans colon'
      obtain ⟨same, rfl⟩ := ih value' rfl
      grind [Part.sort]
    | _ => cases sorts

/-! ### Values that are kept -/

theorem readValueScalar {cs text : List Char} {c : Char} (begins : skipSpace cs = c :: text)
    (plain : c ≠ '[' ∧ c ≠ '{') (n : Nat) (budget : Budget) :
    readValue (n + 1) budget cs = readScalar c text := by
  simp only [readValue, begins, readScalar, plain.1, plain.2, if_false]

theorem readValueArray {cs text : List Char} (begins : skipSpace cs = '[' :: text) (n : Nat)
    (budget : Budget) : readValue (n + 1) (budget + 1) cs = match closedAtOnce? ']' text with
      | some after => .ok (.array [], after)
      | none => (readItems n budget text).map fun (items, after) => (.array items, after) := by
  cases inside : closedAtOnce? ']' text <;>
    simp only [readValue, begins, inside, Char.reduceEq, if_false, if_true,
      show startsNumber '[' = false by decide, Bool.false_eq_true]

theorem readValueObject {cs text : List Char} (begins : skipSpace cs = '{' :: text) (n : Nat)
    (budget : Budget) : readValue (n + 1) (budget + 1) cs = match closedAtOnce? '}' text with
      | some after => .ok (.object [], after)
      | none => (readMembers n budget text).map fun (pairs, after) =>
          (.object (Members.ofList pairs), after) := by
  cases inside : closedAtOnce? '}' text <;>
    simp only [readValue, begins, inside, Char.reduceEq, if_false, if_true,
      show startsNumber '{' = false by decide, Bool.false_eq_true]

theorem readValueNested {cs text : List Char} {c : Char} (begins : skipSpace cs = c :: text)
    (opens : c = '[' ∨ c = '{') (n : Nat) : readValue (n + 1) 0 cs = .error .malformed := by
  rcases opens with rfl | rfl <;>
    simp only [readValue, begins, Char.reduceEq, if_false, if_true,
      show startsNumber '[' = false by decide, show startsNumber '{' = false by decide,
      Bool.false_eq_true]

section
variable {n : Nat} (values : ∀ budget cs value rest,
  readValue n budget cs = .ok (value, rest) → Spells cs (.value value) rest)
include values

theorem itemsSpell (others : ∀ budget cs items rest,
    readItems n budget cs = .ok (items, rest) → Spells cs (.items items) rest) {budget : Budget}
    {cs rest : List Char} {items : List Json}
    (read : readItems (n + 1) budget cs = .ok (items, rest)) : Spells cs (.items items) rest := by
  rw [readItems] at read
  obtain ⟨⟨item, behind⟩, first, read⟩ := Result.bindOk.mp read
  obtain ⟨separator, after, read⟩ := Result.bindOk.mp read
  cases separator with
  | closed next =>
    cases read
    exact .lastItem (values _ _ _ _ first) after
  | more next =>
    obtain ⟨⟨items, rest⟩, further, read⟩ := Result.bindOk.mp read
    cases read
    exact .item (values _ _ _ _ first) after (others _ _ _ _ further)

theorem membersSpell (others : ∀ budget cs members rest,
    readMembers n budget cs = .ok (members, rest) → Spells cs (.members members) rest)
    {budget : Budget} {cs rest : List Char} {members : List (String × Json)}
    (read : readMembers (n + 1) budget cs = .ok (members, rest)) :
    Spells cs (.members members) rest := by
  rw [readMembers] at read
  obtain ⟨⟨key, named⟩, name, read⟩ := Result.bindOk.mp read
  obtain ⟨text, colon, read⟩ := Result.bindOk.mp read
  obtain ⟨⟨value, behind⟩, first, read⟩ := Result.bindOk.mp read
  obtain ⟨separator, after, read⟩ := Result.bindOk.mp read
  cases separator with
  | closed next =>
    cases read
    exact .lastMember name colon (values _ _ _ _ first) after
  | more next =>
    obtain ⟨⟨members, rest⟩, further, read⟩ := Result.bindOk.mp read
    cases read
    exact .member name colon (values _ _ _ _ first) after (others _ _ _ _ further)

end

theorem valueSpells {n : Nat} (inItems : ∀ budget cs items rest,
    readItems n budget cs = .ok (items, rest) → Spells cs (.items items) rest)
    (inMembers : ∀ budget cs members rest,
      readMembers n budget cs = .ok (members, rest) → Spells cs (.members members) rest)
    {budget : Budget} {cs rest : List Char} {value : Json}
    (read : readValue (n + 1) budget cs = .ok (value, rest)) : Spells cs (.value value) rest := by
  cases begins : skipSpace cs with
  | nil =>
    simp only [readValue, begins] at read
    cases read
  | cons c text =>
    by_cases opens : c = '[' ∨ c = '{'
    · cases budget with
      | zero =>
        rw [readValueNested begins opens] at read
        cases read
      | succ budget =>
        rcases opens with rfl | rfl
        · rw [readValueArray begins] at read
          split at read
          · cases read
            exact .emptyArray begins ‹_›
          · obtain ⟨⟨items, after⟩, inside, same⟩ := Result.mapOk.mp read
            cases same
            exact .array begins ‹_› (inItems _ _ _ _ inside)
        · rw [readValueObject begins] at read
          split at read
          · cases read
            exact .emptyObject begins ‹_›
          · obtain ⟨⟨members, after⟩, inside, same⟩ := Result.mapOk.mp read
            cases same
            exact .object begins ‹_› (inMembers _ _ _ _ inside)
    · have plain := not_or.mp opens
      rw [readValueScalar begins plain] at read
      exact .scalar begins plain read

theorem readersSpell (n : Nat) :
    (∀ budget cs value rest,
      readValue n budget cs = .ok (value, rest) → Spells cs (.value value) rest) ∧
    (∀ budget cs items rest,
      readItems n budget cs = .ok (items, rest) → Spells cs (.items items) rest) ∧
    (∀ budget cs members rest,
      readMembers n budget cs = .ok (members, rest) → Spells cs (.members members) rest) := by
  induction n with
  | zero => exact ⟨nofun, nofun, nofun⟩
  | succ n ih =>
    obtain ⟨values, inItems, inMembers⟩ := ih
    exact ⟨fun _ _ _ _ => valueSpells inItems inMembers, fun _ _ _ _ => itemsSpell values inItems,
      fun _ _ _ _ => membersSpell values inMembers⟩

end PageScript.Json
