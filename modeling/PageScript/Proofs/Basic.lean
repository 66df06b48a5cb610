/-! Results that may be faults, taken apart: what a chain of readings gives it gives by each of
them. Lists of pairs without a key. -/
namespace PageScript.Result

variable {ε α β : Type}

@[simp] theorem okBind (a : α) (f : α → Except ε β) : (Except.ok a >>= f) = f a := rfl

@[simp] theorem okMap (a : α) (f : α → β) : (Except.ok a : Except ε α).map f = .ok (f a) := rfl

theorem bindOk {x : Except ε α} {f : α → Except ε β} {b : β} :
    (x >>= f) = .ok b ↔ ∃ a, x = .ok a ∧ f a = .ok b := by
  cases x with
  | error e => exact ⟨nofun, nofun⟩
  | ok a =>
    constructor
    · intro next
      exact ⟨a, rfl, next⟩
    · rintro ⟨_, ⟨⟩, next⟩
      exact next

theorem mapOk {x : Except ε α} {f : α → β} {b : β} :
    x.map f = .ok b ↔ ∃ a, x = .ok a ∧ f a = b := by
  cases x with
  | error e => exact ⟨nofun, nofun⟩
  | ok a =>
    constructor
    · intro same
      exact ⟨a, rfl, Except.ok.inj same⟩
    · rintro ⟨_, ⟨⟩, rfl⟩
      rfl

theorem mapErrorOk {ε' : Type} {x : Except ε α} {f : ε → ε'} {a : α} :
    x.mapError f = .ok a ↔ x = .ok a := by
  cases x with
  | error e => exact ⟨nofun, nofun⟩
  | ok b => exact ⟨fun same => congrArg _ (Except.ok.inj same), fun same => congrArg _ (Except.ok.inj same)⟩

theorem toOptionSome {x : Except ε α} {f : α → β} {b : β} :
    x.toOption.map f = some b ↔ ∃ a, x = .ok a ∧ f a = b := by
  cases x with
  | error e => exact ⟨nofun, nofun⟩
  | ok a =>
    constructor
    · intro same
      exact ⟨a, rfl, Option.some.inj same⟩
    · rintro ⟨_, ⟨⟩, rfl⟩
      rfl

end PageScript.Result

namespace PageScript.Lookup

variable {α β : Type} [BEq α] [LawfulBEq α] [DecidableEq α]

theorem lookupCons (key other : α) (value : β) (entries : List (α × β)) :
    ((key, value) :: entries).lookup other =
      if other = key then some value else entries.lookup other := by
  rw [List.lookup_cons]
  split
  · rename_i here
    rw [if_pos (beq_iff_eq.mp here)]
  · rename_i elsewhere
    rw [if_neg (beq_eq_false_iff_ne.mp elsewhere)]

theorem lookupErased (entries : List (α × β)) (key other : α) :
    (entries.filter (·.1 ≠ key)).lookup other =
      if other = key then none else entries.lookup other := by
  induction entries with
  | nil => simp
  | cons first rest ih =>
    obtain ⟨k, v⟩ := first
    rw [List.filter_cons, lookupCons]
    by_cases gone : k = key
    · subst gone
      simp only [ne_eq, not_true, decide_false, Bool.false_eq_true, if_false, ih]
      split <;> rfl
    · simp only [ne_eq, gone, not_false_eq_true, decide_true, if_true, lookupCons, ih]
      split
      · rename_i here
        rw [if_neg (here ▸ gone)]
      · rfl

end PageScript.Lookup
