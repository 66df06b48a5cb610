import Mathlib.Data.List.Forall2
import PageScript.Json.Shape
import PageScript.Proofs.Json.Members
import PageScript.Proofs.Json.Passing

/-! Readers of a shape held to what the text spells. Where the readers of the parts agree with the
values that are spelled there, so do those of arrays and objects (`Agrees`). The members of an
object are taken one after the other (`Walks`), repeated keys included, of which the value has the
last. -/
namespace PageScript.Json

/-! ### Values and arrays -/

section
variable {α : Type} {item : Reader α} {Stands : α → Json → Prop}

/-- The reader takes off a text what spells the value there, and what it makes of that stands for
the value. -/
def Agrees (reader : Reader α) (Stands : α → Json → Prop) : Prop :=
  ∀ ⦃cs x after value rest⦄, reader cs = .ok (x, after) → Spells cs (.value value) rest →
    after = rest ∧ Stands x value

theorem keepAgrees (budget : Budget) : Agrees (keep budget) Eq := by
  intro cs x after value rest read spelled
  obtain ⟨same, ends⟩ := ((readersSpell _).1 _ _ _ _ read).unique spelled rfl
  cases same
  exact ⟨ends, rfl⟩

theorem wantStringAgrees : Agrees wantString fun s value => value = .string s := by
  intro cs s after value rest read spelled
  simp only [wantString] at read
  split at read
  · rename_i c text begins
    split at read
    · rename_i quote
      subst quote
      have found := spelled.scalarRead begins (by decide)
      simp only [readScalar, Char.reduceEq, if_false, if_true, read, Result.okMap] at found
      cases found
      exact ⟨rfl, rfl⟩
    · cases read
  · cases read

theorem foldItemsFromAgrees (agrees : Agrees item Stands) {n : Nat} {cs after rest : List Char}
    {xs : List α} {items : List Json} (read : foldItemsFrom item n cs = .ok (xs, after))
    (spelled : Spells cs (.items items) rest) : after = rest ∧ List.Forall₂ Stands xs items := by
  induction n generalizing cs xs items with
  | zero => cases read
  | succ n ih =>
    rw [foldItemsFrom] at read
    obtain ⟨⟨x, behind⟩, first, read⟩ := Result.bindOk.mp read
    obtain ⟨separator, next, read⟩ := Result.bindOk.mp read
    cases spelled with
    | lastItem value closed =>
      obtain ⟨rfl, stands⟩ := agrees first value
      cases closed.symm.trans next
      cases read
      exact ⟨rfl, .cons stands .nil⟩
    | item value more further =>
      obtain ⟨rfl, stands⟩ := agrees first value
      cases more.symm.trans next
      obtain ⟨⟨others, last⟩, following, read⟩ := Result.bindOk.mp read
      cases read
      exact (ih following further).imp_right (.cons stands)

theorem wantItemsAgrees (agrees : Agrees item Stands) : Agrees (wantItems item) fun xs value =>
    ∃ items, value = .array items ∧ List.Forall₂ Stands xs items := by
  intro cs xs after value rest read spelled
  simp only [wantItems] at read
  split at read
  · rename_i c text begins
    split at read
    · rename_i bracket
      subst bracket
      rw [foldItems] at read
      obtain ⟨items, rfl, ⟨closed, rfl⟩ | ⟨filled, inside⟩⟩ := spelled.arrayInside begins
      · rw [closed] at read
        cases read
        exact ⟨rfl, [], rfl, .nil⟩
      · rw [filled] at read
        obtain ⟨ends, stand⟩ := foldItemsFromAgrees agrees read inside
        exact ⟨ends, items, rfl, stand⟩
    · cases read
  · cases read

end

/-! ### Objects -/

section
variable {σ : Type} {step : MemberReader σ} {Takes : σ → String → Json → σ → Prop}

def MemberAgrees (step : MemberReader σ) (Takes : σ → String → Json → σ → Prop) : Prop :=
  ∀ ⦃state key cs next after text value rest⦄, step state key cs = .ok (next, after) →
    readColon cs = .ok text → Spells text (.value value) rest →
    after = rest ∧ Takes state key value next

inductive Walks (Takes : σ → String → Json → σ → Prop) : σ → List (String × Json) → σ → Prop
  | done {state : σ} : Walks Takes state [] state
  | member {state next last : σ} {key : String} {value : Json} {members : List (String × Json)}
      (takes : Takes state key value next) (further : Walks Takes next members last) :
      Walks Takes state ((key, value) :: members) last

theorem foldMembersFromAgrees (agrees : MemberAgrees step Takes) {n : Nat}
    {cs after rest : List Char} {state last : σ} {members : List (String × Json)}
    (read : foldMembersFrom step n state cs = .ok (last, after))
    (spelled : Spells cs (.members members) rest) :
    after = rest ∧ Walks Takes state members last := by
  induction n generalizing cs state members with
  | zero => cases read
  | succ n ih =>
    rw [foldMembersFrom] at read
    obtain ⟨⟨key, named⟩, name, read⟩ := Result.bindOk.mp read
    obtain ⟨⟨next, behind⟩, first, read⟩ := Result.bindOk.mp read
    obtain ⟨separator, after, read⟩ := Result.bindOk.mp read
    cases spelled with
    | lastMember name' colon value closed =>
      cases name'.symm.trans name
      obtain ⟨rfl, takes⟩ := agrees first colon value
      cases closed.symm.trans after
      cases read
      exact ⟨rfl, .member takes .done⟩
    | member name' colon value more further =>
      cases name'.symm.trans name
      obtain ⟨rfl, takes⟩ := agrees first colon value
      cases more.symm.trans after
      exact (ih read further).imp_right (.member takes)

theorem foldMembersAgrees (agrees : MemberAgrees step Takes) {cs text after rest : List Char}
    {state last : σ} {value : Json} (read : foldMembers step state text = .ok (last, after))
    (begins : skipSpace cs = '{' :: text) (spelled : Spells cs (.value value) rest) :
    after = rest ∧
      ∃ members, value = .object (Members.ofList members) ∧ Walks Takes state members last := by
  rw [foldMembers] at read
  obtain ⟨members, rfl, ⟨closed, rfl⟩ | ⟨filled, inside⟩⟩ := spelled.objectInside begins
  · rw [closed] at read
    cases read
    exact ⟨rfl, [], rfl, .done⟩
  · rw [filled] at read
    obtain ⟨ends, walks⟩ := foldMembersFromAgrees agrees read inside
    exact ⟨ends, members, rfl, walks⟩

/-! ### Fields that stand once -/

variable {α : Type} {Stands : α → Json → Prop} {field : σ → Option α} {key : String}

theorem onceTaken (found : Option α) (reader : Reader α) (put : α → σ) {cs text after : List Char}
    {next : σ} (read : (do
      if found.isSome then .error .mistyped
      let (x, rest) ← reader (← readColon cs)
      .ok (put x, rest) : Except Fault (Taken σ)) = .ok (next, after)) (colon : readColon cs = .ok text) :
    found = none ∧ ∃ x, reader text = .ok (x, after) ∧ next = put x := by
  split at read
  · cases read
  · rename_i fresh
    rw [colon, Result.okBind] at read
    obtain ⟨⟨x, behind⟩, first, same⟩ := Result.bindOk.mp read
    cases same
    exact ⟨by simpa using fresh, x, first, rfl⟩

/-- A field before and after the values of its key are taken, of which there may be one. -/
inductive TakenOnce (Stands : α → Json → Prop) : Option α → List Json → Option α → Prop
  | kept {found : Option α} : TakenOnce Stands found [] found
  | put {x : α} {value : Json} (stands : Stands x value) : TakenOnce Stands none [value] (some x)

theorem Walks.takenOnce {start last : σ} {members : List (String × Json)}
    (walks : Walks Takes start members last)
    (puts : ∀ {state value next}, Takes state key value next →
      field state = none ∧ ∃ x, Stands x value ∧ field next = some x)
    (keeps : ∀ {state name value next}, name ≠ key → Takes state name value next →
      field next = field state) :
    TakenOnce Stands (field start) (Members.under members key) (field last) := by
  induction walks with
  | done => exact .kept
  | @member state next last name value members takes further ih =>
    rw [Members.underCons]
    split
    · rename_i here
      subst here
      obtain ⟨empty, x, stands, full⟩ := puts takes
      rw [full] at ih
      rw [empty]
      generalize Members.under members name = values at ih
      generalize field last = final at ih
      cases ih
      exact .put stands
    · rename_i different
      rw [← keeps different takes]
      exact ih

end

end PageScript.Json
