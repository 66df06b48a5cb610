import PageScript.Dashboard.Gateway
import PageScript.Proofs.Json.Field
import PageScript.Proofs.Json.Grammar

/-! Which bodies of control requests name an action. What is read is held to a grammar of them: an
object with the action once, whatever its other members are, or an array of the action alone. -/
namespace PageScript

open Json

/-! ### Actions -/

def ControlAction.word : ControlAction → String
  | .pause => "pause"
  | .resume => "resume"
  | .stop => "stop"

namespace Dashboard

theorem actionOfWord {word : String} {action : ControlAction} :
    actionOf? word = some action ↔ word = action.word := by
  constructor
  · intro known
    unfold actionOf? at known
    split at known
    · cases known
      assumption
    · split at known
      · cases known
        assumption
      · split at known
        · cases known
          assumption
        · cases known
  · rintro rfl
    cases action <;> rfl

/-- A text that names an action: its word, or an object with the word as its key and null. -/
inductive Names : ControlAction → List Char → List Char → Prop
  | word {action : ControlAction} {cs rest : List Char}
      (spelled : Spells cs (.value (.string action.word)) rest) : Names action cs rest
  | key {action : ControlAction} {cs text rest : List Char} (begins : skipSpace cs = '{' :: text)
      (sole : Spells text (.members [(action.word, .null)]) rest) : Names action cs rest

theorem wordActionExact {cs rest : List Char} {action : ControlAction} :
    readWordAction cs = .ok (action, rest) ↔ Spells cs (.value (.string action.word)) rest := by
  rw [← wantStringExact]
  constructor
  · intro read
    obtain ⟨⟨word, behind⟩, string, read⟩ := Result.bindOk.mp read
    dsimp only at read
    split at read
    · rename_i known
      cases read
      rw [string, actionOfWord.mp known]
    · cases read
  · intro string
    simp only [readWordAction, string, Result.okBind, actionOfWord.mpr rfl]

theorem keyActionExact {cs rest : List Char} {action : ControlAction} :
    readKeyAction cs = .ok (action, rest) ↔ Spells cs (.members [(action.word, .null)]) rest := by
  constructor
  · intro read
    obtain ⟨⟨named, behind⟩, word, read⟩ := Result.bindOk.mp read
    obtain ⟨text, colon, read⟩ := Result.bindOk.mp read
    obtain ⟨after, null, read⟩ := Result.bindOk.mp read
    have key := keyString.mpr (wantStringExact.mpr (wordActionExact.mp word))
    split at read
    · cases read
    · rename_i c text begins
      split at read
      · rename_i bracket
        cases read
        refine .lastMember key colon (wantNullExact.mp null) ?_
        simp only [readSeparator, begins, bracket, Char.reduceEq, if_false, if_true]
      · cases read
  · intro spelled
    cases spelled with
    | lastMember key colon null closed =>
      have word := wordActionExact.mpr (wantStringExact.mp (keyString.mp key))
      simp only [readKeyAction, word, Result.okBind, colon, wantNullExact.mpr null,
        separatorCloses closed, if_true]
    | member _ _ _ _ further => cases further

theorem wordActionFrom {cs text : List Char} (begins : skipSpace cs = '"' :: text) :
    readWordAction ('"' :: text) = readWordAction cs := by
  have same : wantString ('"' :: text) = wantString cs := by
    simp only [wantString, begins]
    rfl
  rw [readWordAction, readWordAction, same]

theorem actionExact {cs rest : List Char} {action : ControlAction} :
    readAction cs = .ok (action, rest) ↔ Names action cs rest := by
  constructor
  · intro read
    unfold readAction at read
    split at read
    · cases read
    · rename_i c text begins
      split at read
      · rename_i quote
        subst quote
        rw [wordActionFrom begins] at read
        exact .word (wordActionExact.mp read)
      · split at read
        · rename_i bracket
          subst bracket
          exact .key begins (keyActionExact.mp read)
        · cases read
  · intro names
    cases names with
    | word spelled =>
      have read := wordActionExact.mpr spelled
      cases spelled with
      | scalar begins plain string =>
        obtain ⟨rfl, -⟩ := scalarString string
        simp only [readAction, begins, if_true, wordActionFrom begins, read]
    | key begins sole =>
      simp only [readAction, begins, Char.reduceEq, if_false, if_true, keyActionExact.mpr sole]

theorem actionLength {cs rest : List Char} {action : ControlAction} (names : Names action cs rest) :
    rest.length ≤ cs.length := by
  cases names with
  | word spelled => exact wantStringLength (wantStringExact.mpr spelled)
  | key begins sole =>
    cases sole with
    | lastMember key colon null closed =>
      have first := skipSpaceShorter begins
      have named := keyLength key
      have mark := colonShorter colon
      have value := wantNullLength (wantNullExact.mpr null)
      have after := separatorShorter closed
      dsimp only at after
      omega
    | member _ _ _ _ further => cases further

/-! ### Bodies -/

/-- The text of a body with one action. -/
def Body (action : ControlAction) (cs : List Char) : Prop :=
  ∃ rest, Holds actionKey Names action cs rest ∧ skipSpace rest = []

theorem payloadExact {body : String} {action : ControlAction} :
    readPayload body = .ok action ↔ Body action body.toList := by
  have field {rest : List Char} : wantField actionKey readAction body.toList = .ok (action, rest) ↔
      Holds actionKey Names action body.toList rest := wantFieldExact actionExact actionLength
  constructor
  · intro read
    obtain ⟨⟨found, rest⟩, taken, read⟩ := Result.bindOk.mp read
    obtain ⟨_, finished, same⟩ := Result.bindOk.mp read
    cases same
    refine ⟨rest, field.mp taken, ?_⟩
    unfold finish at finished
    split at finished
    · rename_i blank
      exact List.isEmpty_iff.mp blank
    · cases finished
  · rintro ⟨rest, holds, blank⟩
    simp only [readPayload, readField, field.mpr holds, Result.okBind, finish, blank,
      List.isEmpty_nil, if_true]

/-- A value that names an action. -/
def Named (action : ControlAction) (value : Json) : Prop :=
  value = .string action.word ∨ value = .object [(action.word, .null)]

theorem namesValue {cs rest : List Char} {action : ControlAction} (names : Names action cs rest) :
    ∃ value, Spells cs (.value value) rest ∧ Named action value := by
  cases names with
  | word spelled => exact ⟨_, spelled, .inl rfl⟩
  | key begins sole =>
    rename_i text
    have filled : closedAtOnce? '}' text = none := by
      cases sole with
      | lastMember key _ _ _ => exact keyOpen key
      | member key _ _ _ _ => exact keyOpen key
    exact ⟨_, .object begins filled sole, .inr rfl⟩

/-- Of the members of an object, just one is the action, and its value names it. -/
theorem bodyValues {action : ControlAction} {cs text rest : List Char} {values : List Json}
    (body : Body action cs) (begins : skipSpace cs = '{' :: text)
    (fields : Fields actionKey (fun value cs rest => Spells cs (.value value) rest) text values
      rest) : ∃ value, values = [value] ∧ Named action value := by
  obtain ⟨after, holds, -⟩ := body
  cases holds with
  | object begins' once =>
    cases begins.symm.trans begins'
    obtain ⟨found, meant, related⟩ := fieldsMeans (fun _ _ _ names => namesValue names) once
    have unique ⦃cs : List Char⦄ ⦃x y : Json⦄ ⦃rest rest' : List Char⦄
        (first : Spells cs (.value x) rest) (second : Spells cs (.value y) rest') :
        x = y ∧ rest = rest' := by
      obtain ⟨same, ends⟩ := first.unique second rfl
      cases same
      exact ⟨rfl, ends⟩
    obtain ⟨rfl, -⟩ := fieldsUnique unique fields meant
    cases related with
    | cons named others =>
      cases others
      exact ⟨_, rfl, named⟩
  | array begins' _ _ _ =>
    rw [begins] at begins'
    exact absurd (List.cons.inj begins').1 (by decide)

end Dashboard

end PageScript
