import PageScript.Json.Value
import PageScript.Proofs.Basic

/-! Members of an object: what is found under a key after members are put in or taken out, and their
order. Members in order are determined by what is found under each key. -/
namespace PageScript.Json.Members

theorem getCons (key other : String) (value : Json) (members : Members) :
    Members.get? ((key, value) :: members) other =
      if other = key then some value else members.get? other :=
  Lookup.lookupCons key other value members

@[simp] theorem getInsert (members : Members) (key other : String) (value : Json) :
    (members.insert key value).get? other =
      if other = key then some value else members.get? other := by
  induction members with
  | nil => exact getCons key other value []
  | cons first rest ih =>
    obtain ⟨k, v⟩ := first
    rw [insert]
    split
    · exact getCons key other value _
    · split
      · rename_i same
        subst same
        rw [getCons, getCons]
        split <;> rfl
      · rename_i different
        rw [getCons, getCons, ih]
        split
        · rename_i here
          subst here
          rw [if_neg (Ne.symm different)]
        · rfl

theorem getErase (members : Members) (key other : String) :
    (members.erase key).get? other = if other = key then none else members.get? other :=
  Lookup.lookupErased members key other

/-! ### Order -/

def Ordered (members : Members) : Prop := members.Pairwise fun a b => a.1 < b.1

instance (members : Members) : Decidable (Ordered members) := by
  unfold Ordered; infer_instance

theorem memInsert {members : Members} {key : String} {value : Json} {pair : String × Json}
    (member : pair ∈ members.insert key value) : pair = (key, value) ∨ pair ∈ members := by
  induction members with
  | nil => exact .inl (List.mem_singleton.mp member)
  | cons first rest ih =>
    obtain ⟨k, v⟩ := first
    rw [insert] at member
    split at member
    · exact List.mem_cons.mp member
    · split at member
      · rcases List.mem_cons.mp member with here | later
        · exact .inl here
        · exact .inr (List.mem_cons_of_mem _ later)
      · rcases List.mem_cons.mp member with here | later
        · exact .inr (here ▸ List.mem_cons_self)
        · exact (ih later).imp_right (List.mem_cons_of_mem _)

theorem insertOrdered {members : Members} (ordered : members.Ordered) (key : String)
    (value : Json) : (members.insert key value).Ordered := by
  induction members with
  | nil => exact List.pairwise_singleton _ _
  | cons first rest ih =>
    obtain ⟨k, v⟩ := first
    obtain ⟨above, below⟩ := List.pairwise_cons.mp ordered
    rw [insert]
    split
    · rename_i before
      refine List.pairwise_cons.mpr ⟨fun pair member => ?_, ordered⟩
      rcases List.mem_cons.mp member with rfl | later
      · exact before
      · exact String.lt_trans before (above pair later)
    · rename_i notBefore
      split
      · rename_i same
        subst same
        exact List.pairwise_cons.mpr ⟨above, below⟩
      · rename_i different
        have after : k < key := by
          rcases Std.lt_trichotomy key k with less | equal | greater
          · exact absurd less notBefore
          · exact absurd equal different
          · exact greater
        refine List.pairwise_cons.mpr ⟨fun pair member => ?_, ih below⟩
        rcases memInsert member with rfl | later
        · exact after
        · exact above pair later

theorem eraseOrdered {members : Members} (ordered : members.Ordered) (key : String) :
    (members.erase key).Ordered :=
  List.Pairwise.sublist List.filter_sublist ordered

theorem getBefore {members : Members} {key : String} (above : ∀ pair ∈ members, key < pair.1) :
    members.get? key = none := by
  rw [get?, List.lookup_eq_none_iff]
  intro pair member
  have less := above pair member
  have different : key ≠ pair.1 := by
    intro same
    rw [same] at less
    exact String.lt_irrefl _ less
  simpa using different

theorem orderedSame {first second : Members} (left : first.Ordered) (right : second.Ordered)
    (same : ∀ key, first.get? key = second.get? key) : first = second := by
  induction first generalizing second with
  | nil =>
    cases second with
    | nil => rfl
    | cons pair rest =>
      have found := same pair.1
      rw [getCons, if_pos rfl] at found
      cases found
  | cons pair rest ih =>
    obtain ⟨key, value⟩ := pair
    cases second with
    | nil =>
      have found := same key
      rw [getCons, if_pos rfl] at found
      cases found
    | cons other others =>
      obtain ⟨otherKey, otherValue⟩ := other
      obtain ⟨above, below⟩ := List.pairwise_cons.mp left
      obtain ⟨otherAbove, otherBelow⟩ := List.pairwise_cons.mp right
      -- The least key of each is found in the other, so they are the same key.
      have keys : key = otherKey := by
        rcases Std.lt_trichotomy key otherKey with less | equal | greater
        · have found := same key
          rw [getCons, if_pos rfl, getBefore fun pair member => ?_] at found
          · cases found
          · rcases List.mem_cons.mp member with rfl | later
            · exact less
            · exact String.lt_trans less (otherAbove pair later)
        · exact equal
        · have found := same otherKey
          rw [getCons otherKey, if_pos rfl, getBefore fun pair member => ?_] at found
          · cases found
          · rcases List.mem_cons.mp member with rfl | later
            · exact greater
            · exact String.lt_trans greater (above pair later)
      subst keys
      have values : value = otherValue := by
        have found := same key
        rw [getCons, getCons, if_pos rfl, if_pos rfl] at found
        exact Option.some.inj found
      subst values
      rw [ih below otherBelow fun wanted => ?_]
      by_cases here : wanted = key
      · rw [here, getBefore above, getBefore otherAbove]
      · have found := same wanted
        rwa [getCons, getCons, if_neg here, if_neg here] at found

/-! ### Pairs put in one after the other -/

theorem putOrdered {members : Members} (ordered : members.Ordered)
    (pairs : List (String × Json)) :
    (pairs.foldl (fun members (key, value) => members.insert key value) members).Ordered := by
  induction pairs generalizing members with
  | nil => exact ordered
  | cons pair pairs ih => exact ih (insertOrdered ordered pair.1 pair.2)

theorem ofListOrdered (pairs : List (String × Json)) : (ofList pairs).Ordered :=
  putOrdered List.Pairwise.nil pairs

theorem getPut (members : Members) {pairs : List (String × Json)}
    (distinct : (pairs.map Prod.fst).Nodup) (key : String) :
    Members.get? (pairs.foldl (fun members (key, value) => members.insert key value) members) key =
      (Members.get? pairs key).or (members.get? key) := by
  induction pairs generalizing members with
  | nil => rfl
  | cons pair pairs ih =>
    obtain ⟨k, v⟩ := pair
    obtain ⟨fresh, others⟩ := List.nodup_cons.mp distinct
    rw [List.foldl_cons, ih _ others, getInsert, getCons]
    split
    · rename_i here
      subst here
      have missing : Members.get? pairs key = none := by
        rw [get?, List.lookup_eq_none_iff]
        intro pair member
        have different : key ≠ pair.1 := by
          rintro rfl
          exact fresh (List.mem_map.mpr ⟨pair, member, rfl⟩)
        simpa using different
      rw [missing]
      rfl
    · rfl

theorem Ordered.distinct {members : Members} (ordered : members.Ordered) :
    (members.map Prod.fst).Nodup := by
  rw [List.Nodup, List.pairwise_map]
  refine List.Pairwise.imp (fun {a b} less same => ?_) ordered
  rw [same] at less
  exact String.lt_irrefl _ less

theorem getOfList {pairs : List (String × Json)} (distinct : (pairs.map Prod.fst).Nodup)
    (key : String) : (ofList pairs).get? key = Members.get? pairs key := by
  rw [ofList, getPut [] distinct]
  exact Option.or_none

theorem ofListSame {members : Members} (ordered : members.Ordered) : ofList members = members :=
  orderedSame (ofListOrdered members) ordered (getOfList ordered.distinct)

/-- A key put first goes to its place, and the others stay as they are. -/
theorem eraseFirst {members : Members} (ordered : members.Ordered) {key : String} (value : Json)
    (fresh : members.get? key = none) :
    (ofList ((key, value) :: members)).erase key = members := by
  have distinct : (((key, value) :: members).map Prod.fst).Nodup := by
    refine List.nodup_cons.mpr ⟨?_, ordered.distinct⟩
    intro member
    obtain ⟨pair, inside, same⟩ := List.mem_map.mp member
    rw [get?, List.lookup_eq_none_iff] at fresh
    have different := fresh pair inside
    simp [same] at different
  refine orderedSame (eraseOrdered (ofListOrdered _) key) ordered fun wanted => ?_
  rw [getErase, getOfList distinct, getCons]
  split
  · rename_i here
    rw [here, fresh]
  · rfl

/-- A member taken out and put first stands in its place again once the members are in order. -/
theorem eraseAgain {members : Members} (ordered : members.Ordered) {key : String}
    {value : Json} (found : members.get? key = some value) :
    Members.ofList ((key, value) :: members.erase key) = members := by
  have distinct : (((key, value) :: members.erase key).map Prod.fst).Nodup := by
    refine List.nodup_cons.mpr ⟨fun member => ?_, (eraseOrdered ordered key).distinct⟩
    obtain ⟨pair, inside, same⟩ := List.mem_map.mp member
    simpa [same] using (List.mem_filter.mp inside).2
  refine orderedSame (ofListOrdered _) ordered fun wanted => ?_
  rw [getOfList distinct, getCons, getErase]
  split
  · rename_i here
    rw [here, found]
  · rfl

/-! ### Repeated keys -/

/-- The values of a key, in the order of the text. -/
def under (members : List (String × Json)) (key : String) : List Json :=
  (members.filter (·.1 = key)).map Prod.snd

theorem underCons (name : String) (value : Json) (members : List (String × Json)) (key : String) :
    under ((name, value) :: members) key =
      if name = key then value :: under members key else under members key := by
  rw [under, List.filter_cons]
  by_cases here : name = key
  · simp [here, under]
  · simp [here, under]

theorem putLast (start : Members) (members : List (String × Json)) (key : String) :
    Members.get? (members.foldl (fun members (key, value) => members.insert key value) start) key =
      (under members key).getLast?.or (start.get? key) := by
  induction members generalizing start with
  | nil => rfl
  | cons first rest ih =>
    obtain ⟨name, value⟩ := first
    rw [List.foldl_cons, ih, getInsert, underCons]
    by_cases here : name = key
    · rw [if_pos here.symm, if_pos here, List.getLast?_cons]
      cases (under rest key).getLast? <;> rfl
    · rw [if_neg (Ne.symm here), if_neg here]

theorem getLast (members : List (String × Json)) (key : String) :
    (ofList members).get? key = (under members key).getLast? := by
  rw [ofList, putLast]
  exact Option.or_none

theorem eraseOfList (members : List (String × Json)) (key : String) :
    (ofList members).erase key = ofList (members.filter (·.1 ≠ key)) := by
  refine orderedSame (eraseOrdered (ofListOrdered _) key) (ofListOrdered _) fun wanted => ?_
  rw [getErase, getLast, getLast, under, under, List.filter_filter]
  split
  · rename_i here
    subst here
    rw [List.filter_eq_nil_iff.mpr (by simp)]
    rfl
  · rename_i different
    congr 3
    funext pair
    by_cases here : pair.1 = wanted
    · simp [here, different]
    · simp [here]

end PageScript.Json.Members
