import PageScript.Json.Numeral
import PageScript.Proofs.Json.Members

/-! Values within a value: what holds of all of them, how deep they stand in one another, and the
value with the members of its objects in order. -/
namespace PageScript.Json

def Number.ReadsBack (n : Number) : Prop := Number.read n.write = .ok (n, [])

mutual

def Everywhere (p : Json → Prop) : Json → Prop
  | .array items => p (.array items) ∧ EverywhereItems p items
  | .object members => p (.object members) ∧ EverywhereMembers p members
  | value => p value

def EverywhereItems (p : Json → Prop) : List Json → Prop
  | [] => True
  | item :: items => Everywhere p item ∧ EverywhereItems p items

def EverywhereMembers (p : Json → Prop) : List (String × Json) → Prop
  | [] => True
  | (_, value) :: members => Everywhere p value ∧ EverywhereMembers p members

end

mutual

def everywhereDecidable (p : Json → Prop) [DecidablePred p] :
    ∀ value, Decidable (Everywhere p value)
  | .array items =>
    have := everywhereItemsDecidable p items
    inferInstanceAs (Decidable (p (.array items) ∧ EverywhereItems p items))
  | .object members =>
    have := everywhereMembersDecidable p members
    inferInstanceAs (Decidable (p (.object members) ∧ EverywhereMembers p members))
  | .null => inferInstanceAs (Decidable (p .null))
  | .bool value => inferInstanceAs (Decidable (p (.bool value)))
  | .number n => inferInstanceAs (Decidable (p (.number n)))
  | .string s => inferInstanceAs (Decidable (p (.string s)))

def everywhereItemsDecidable (p : Json → Prop) [DecidablePred p] :
    ∀ items, Decidable (EverywhereItems p items)
  | [] => inferInstanceAs (Decidable True)
  | item :: items =>
    have := everywhereDecidable p item
    have := everywhereItemsDecidable p items
    inferInstanceAs (Decidable (Everywhere p item ∧ EverywhereItems p items))

def everywhereMembersDecidable (p : Json → Prop) [DecidablePred p] :
    ∀ members, Decidable (EverywhereMembers p members)
  | [] => inferInstanceAs (Decidable True)
  | (_, value) :: members =>
    have := everywhereDecidable p value
    have := everywhereMembersDecidable p members
    inferInstanceAs (Decidable (Everywhere p value ∧ EverywhereMembers p members))

end

instance (p : Json → Prop) [DecidablePred p] : DecidablePred (Everywhere p) := everywhereDecidable p

def MembersInOrder : Json → Prop
  | .object members => Members.Ordered members
  | _ => True

def ReadsBackIfNumber : Json → Prop
  | .number n => n.ReadsBack
  | _ => True

instance (n : Number) : Decidable n.ReadsBack :=
  decidable_of_iff ((Number.read n.write).toOption = some (n, [])) (by
    unfold Number.ReadsBack
    cases Number.read n.write <;> simp [Except.toOption])

instance : DecidablePred MembersInOrder
  | .object members => inferInstanceAs (Decidable (Members.Ordered members))
  | .null | .bool _ | .number _ | .string _ | .array _ => isTrue trivial

instance : DecidablePred ReadsBackIfNumber
  | .number n => inferInstanceAs (Decidable n.ReadsBack)
  | .null | .bool _ | .string _ | .array _ | .object _ => isTrue trivial

abbrev InOrder : Json → Prop := Everywhere MembersInOrder

abbrev NumbersReadBack : Json → Prop := Everywhere ReadsBackIfNumber

mutual

/-- How many arrays and objects stand in one another at most. -/
def depth : Json → Nat
  | .array items => depthItems items + 1
  | .object members => depthMembers members + 1
  | _ => 0

def depthItems : List Json → Nat
  | [] => 0
  | item :: items => max (depth item) (depthItems items)

def depthMembers : List (String × Json) → Nat
  | [] => 0
  | (_, value) :: members => max (depth value) (depthMembers members)

end

theorem everywhereInsert {p : Json → Prop} {members : Members} (all : EverywhereMembers p members)
    (key : String) {value : Json} (here : Everywhere p value) :
    EverywhereMembers p (members.insert key value) := by
  induction members with
  | nil => exact ⟨here, trivial⟩
  | cons first rest ih =>
    rw [Members.insert]
    split
    · exact ⟨here, all⟩
    · split
      · exact ⟨here, all.2⟩
      · exact ⟨all.1, ih all.2⟩

theorem everywhereErase {p : Json → Prop} {members : Members} (all : EverywhereMembers p members)
    (key : String) : EverywhereMembers p (members.erase key) := by
  induction members with
  | nil => trivial
  | cons first rest ih =>
    rw [Members.erase, List.filter_cons]
    split
    · exact ⟨all.1, ih all.2⟩
    · exact ih all.2

theorem everywhereFound {p : Json → Prop} {members : Members} (all : EverywhereMembers p members)
    {key : String} {value : Json} (found : members.get? key = some value) : Everywhere p value := by
  induction members with
  | nil => cases found
  | cons first rest ih =>
    rw [Members.getCons] at found
    split at found
    · cases found
      exact all.1
    · exact ih all.2 found

theorem depthInsert (members : Members) (key : String) (value : Json) :
    depthMembers (members.insert key value) ≤ max (depth value) (depthMembers members) := by
  induction members with
  | nil => exact Nat.le_refl _
  | cons first rest ih =>
    rw [Members.insert]
    split
    · exact Nat.le_refl _
    · split <;> simp only [depthMembers] <;> omega

mutual

def sorted : Json → Json
  | .array items => .array (sortedItems items)
  | .object members => .object (Members.ofList (sortedMembers members))
  | value => value

def sortedItems : List Json → List Json
  | [] => []
  | item :: items => sorted item :: sortedItems items

def sortedMembers : List (String × Json) → List (String × Json)
  | [] => []
  | (key, value) :: members => (key, sorted value) :: sortedMembers members

end

mutual

theorem sortedSame : ∀ value : Json, value.InOrder → value.sorted = value
  | .null, _ | .bool _, _ | .number _, _ | .string _, _ => rfl
  | .array items, ordered => congrArg Json.array (sortedItemsSame items ordered.2)
  | .object members, ordered => by
    rw [sorted, sortedMembersSame members ordered.2, Members.ofListSame ordered.1]

theorem sortedItemsSame : ∀ items : List Json,
    EverywhereItems MembersInOrder items → sortedItems items = items
  | [], _ => rfl
  | item :: items, ordered => by
    rw [sortedItems, sortedSame item ordered.1, sortedItemsSame items ordered.2]

theorem sortedMembersSame : ∀ members : List (String × Json),
    EverywhereMembers MembersInOrder members → sortedMembers members = members
  | [], _ => rfl
  | (key, value) :: members, ordered => by
    rw [sortedMembers, sortedSame value ordered.1, sortedMembersSame members ordered.2]

end

end PageScript.Json
