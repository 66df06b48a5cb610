import Mathlib.Data.List.DropRight
import PageScript.Proofs.Basic
import PageScript.Proofs.Text.Bytes
import PageScript.Registry

/-! A table of factories over its lifetime. Each change does one of two things to a name
(`getAfter`): it drops what stands there, or offers a factory, which is taken if none stands there.
So the factory of a name is the first that was offered since the name was last dropped. -/
namespace PageScript.Registry

variable {κ : Type}

/-! ### Entries in order -/

section
variable {name : String} {factory : Factory κ} {entries : List (String × Factory κ)}

theorem lookupInsert (fresh : entries.lookup name = none) (other : String) :
    (insertSorted name factory entries).lookup other =
      if other = name then some factory else entries.lookup other := by
  induction entries with
  | nil => exact Lookup.lookupCons name other factory []
  | cons first rest ih =>
    obtain ⟨k, f⟩ := first
    rw [List.lookup_cons] at fresh
    split at fresh
    · cases fresh
    rename_i different
    have different : name ≠ k := beq_eq_false_iff_ne.mp different
    rw [insertSorted]
    split
    · exact Lookup.lookupCons name other factory _
    · rw [Lookup.lookupCons, Lookup.lookupCons, ih fresh]
      split
      · rename_i here
        rw [if_neg (here ▸ different.symm)]
      · rfl

theorem memInsert {entry : String × Factory κ} :
    entry ∈ insertSorted name factory entries ↔ entry = (name, factory) ∨ entry ∈ entries := by
  induction entries with
  | nil => simp [insertSorted]
  | cons first rest ih =>
    rw [insertSorted]
    split
    · exact List.mem_cons
    · rw [List.mem_cons, List.mem_cons, ih]
      exact or_left_comm

theorem lookupMember : (entries.lookup name).isSome = true ↔ name ∈ entries.map (·.1) := by
  rw [← Option.ne_none_iff_isSome, ne_eq, List.lookup_eq_none_iff]
  simp

end

/-- Names stand in increasing order. -/
def Ordered (registry : Registry κ) : Prop := registry.factories.Pairwise fun a b => a.1 < b.1

theorem insertOrdered {name : String} {factory : Factory κ} {entries : List (String × Factory κ)}
    (ordered : entries.Pairwise fun a b => a.1 < b.1) (fresh : entries.lookup name = none) :
    (insertSorted name factory entries).Pairwise fun a b => a.1 < b.1 := by
  induction entries with
  | nil => exact List.pairwise_singleton _ _
  | cons first rest ih =>
    obtain ⟨above, below⟩ := List.pairwise_cons.mp ordered
    rw [List.lookup_cons] at fresh
    split at fresh
    · cases fresh
    rename_i different
    rw [insertSorted]
    split
    · rename_i before
      refine List.pairwise_cons.mpr ⟨fun entry member => ?_, ordered⟩
      rcases List.mem_cons.mp member with rfl | later
      · exact before
      · exact String.lt_trans before (above entry later)
    · rename_i notBefore
      have after : first.1 < name := by
        rcases Std.lt_trichotomy name first.1 with less | equal | greater
        · exact absurd less notBefore
        · exact absurd equal (beq_eq_false_iff_ne.mp different)
        · exact greater
      refine List.pairwise_cons.mpr ⟨fun entry member => ?_, ih below fresh⟩
      rcases memInsert.mp member with rfl | later
      · exact after
      · exact above entry later

theorem increasingNames {registry : Registry κ} (ordered : registry.Ordered) :
    (registry.names.map Text.bytes).Pairwise (· < ·) := by
  rw [names, List.map_map, List.pairwise_map]
  exact ordered.imp Text.bytesLess

/-! ### One registration -/

section
variable {registry : Registry κ} {name : String} {factory : Factory κ}

theorem containsMember : registry.contains name = true ↔ name ∈ registry.names := lookupMember

theorem absentMember : registry.contains name = false ↔ name ∉ registry.names := by
  rw [← containsMember, Bool.not_eq_true]

theorem memberGet : name ∈ registry.names ↔ ∃ factory, registry.get? name = some factory := by
  rw [← containsMember, contains, Option.isSome_iff_exists]

theorem absentGet : registry.contains name = false ↔ registry.get? name = none := by
  rw [contains, Option.isSome_eq_false_iff, Option.isNone_iff_eq_none]

theorem registerPresent (present : registry.contains name = true) :
    registry.register name factory = .error (.duplicate name) := if_pos present

theorem registerAbsent (absent : registry.contains name = false) :
    registry.register name factory = .ok ⟨insertSorted name factory registry.factories⟩ := by
  rw [register, absent]
  rfl

theorem registerError {error : RegistryError} :
    registry.register name factory = .error error ↔
      error = .duplicate name ∧ registry.contains name = true := by
  cases known : registry.contains name with
  | true => rw [registerPresent known, Except.error.injEq, and_iff_left rfl, eq_comm]
  | false =>
    rw [registerAbsent known]
    exact ⟨nofun, nofun⟩

theorem registerOk {next : Registry κ} :
    registry.register name factory = .ok next ↔
      registry.contains name = false ∧ next = registry.registerMissing name factory := by
  cases known : registry.contains name with
  | true =>
    rw [registerPresent known]
    exact ⟨nofun, nofun⟩
  | false =>
    rw [registerMissing, registerAbsent known, Except.ok.injEq, and_iff_right rfl, eq_comm]

theorem missingPresent (present : registry.contains name = true) :
    registry.registerMissing name factory = registry := by
  rw [registerMissing, registerPresent present]

theorem missingAbsent (absent : registry.contains name = false) :
    registry.registerMissing name factory = ⟨insertSorted name factory registry.factories⟩ := by
  rw [registerMissing, registerAbsent absent]

theorem orderedMissing (ordered : registry.Ordered) :
    (registry.registerMissing name factory).Ordered := by
  cases known : registry.contains name with
  | true =>
    rw [missingPresent known]
    exact ordered
  | false =>
    rw [missingAbsent known]
    exact insertOrdered ordered (absentGet.mp known)

end

theorem getMissing (registry : Registry κ) (name : String) (factory : Factory κ) (other : String) :
    (registry.registerMissing name factory).get? other =
      (registry.get? other).or (if other = name then some factory else none) := by
  cases known : registry.contains name with
  | true =>
    obtain ⟨held, present⟩ := Option.isSome_iff_exists.mp known
    rw [missingPresent known]
    split
    · rename_i same
      rw [same, present, Option.some_or]
    · rw [Option.or_none]
  | false =>
    rw [missingAbsent known, get?, lookupInsert (absentGet.mp known)]
    split
    · rename_i same
      rw [same, absentGet.mp known, Option.none_or]
    · rw [Option.or_none, get?]

theorem unregisterAbsent {registry : Registry κ} {name : String}
    (absent : registry.contains name = false) : registry.unregister name = (false, registry) := by
  have kept : registry.factories.filter (·.1 ≠ name) = registry.factories := by
    rw [List.filter_eq_self]
    intro entry member
    have different := List.lookup_eq_none_iff.mp (absentGet.mp absent) entry member
    exact decide_eq_true (bne_iff_ne.mp different).symm
  rw [unregister, absent, kept]

theorem createUnknown {registry : Registry κ} {name asked : String} {record : Record}
    {available : List String} :
    registry.create name record = .error (.unknownCommand asked available) ↔
      registry.contains name = false ∧ asked = name ∧ available = registry.names := by
  rw [absentGet, create]
  cases held : registry.get? name with
  | none => simp [eq_comm]
  | some factory => cases made : factory record <;> simp [Except.mapError, made]

/-! ### Changes -/

inductive Change (κ : Type) where
  | register (name : String) (factory : Factory κ)
  | unregister (name : String)
  | registerBuiltins

namespace Change

def drops (name : String) : Change κ → Bool
  | .unregister other => name = other
  | _ => false

/-- The changes since a name was last dropped. -/
def since (name : String) (changes : List (Change κ)) : List (Change κ) :=
  changes.rtakeWhile fun change => !change.drops name

theorem sinceDropped {change : Change κ} {name : String} (dropped : change.drops name = true)
    (changes : List (Change κ)) : since name (changes ++ [change]) = [] := by
  rw [since, List.rtakeWhile_concat_neg]
  simp [dropped]

theorem sinceKept {change : Change κ} {name : String} (kept : change.drops name = false)
    (changes : List (Change κ)) :
    since name (changes ++ [change]) = since name changes ++ [change] := by
  rw [since, List.rtakeWhile_concat_pos, since]
  simp [kept]

end Change

variable [HasBuiltins κ]

def after (registry : Registry κ) : Change κ → Registry κ
  | .register name factory => registry.registerMissing name factory
  | .unregister name => (registry.unregister name).2
  | .registerBuiltins => registry.registerBuiltins

def afterAll (registry : Registry κ) (changes : List (Change κ)) : Registry κ :=
  changes.foldl after registry

def builtin? (name : String) : Option (Factory κ) :=
  (Builtin.factories.lookup name).map fun factory record =>
    (factory record).map HasBuiltins.ofBuiltin

def Change.offer? (name : String) : Change κ → Option (Factory κ)
  | .register other factory => if name = other then some factory else none
  | .unregister _ => none
  | .registerBuiltins => builtin? name

theorem getBuiltins (registry : Registry κ) (name : String) :
    registry.registerBuiltins.get? name = (registry.get? name).or (builtin? name) := by
  rw [registerBuiltins, builtin?]
  generalize Builtin.factories = rows
  induction rows generalizing registry with
  | nil => rw [List.foldl_nil, List.lookup_nil, Option.map_none, Option.or_none]
  | cons row rows ih =>
    rw [List.foldl_cons, ih, getMissing, Option.or_assoc, List.lookup_cons]
    split
    · rename_i same
      rw [beq_iff_eq.mpr same]
      rfl
    · rename_i different
      rw [beq_eq_false_iff_ne.mpr different, Option.none_or]

theorem getAfter (registry : Registry κ) (change : Change κ) (name : String) :
    (registry.after change).get? name =
      if change.drops name then none else (registry.get? name).or (change.offer? name) := by
  cases change with
  | register other factory => exact getMissing registry other factory name
  | unregister other =>
    rw [Change.drops, Change.offer?, Option.or_none]
    simp only [decide_eq_true_eq]
    exact Lookup.lookupErased registry.factories other name
  | registerBuiltins => exact getBuiltins registry name

theorem orderedAfter {registry : Registry κ} (ordered : registry.Ordered) (change : Change κ) :
    (registry.after change).Ordered := by
  cases change with
  | register name factory => exact orderedMissing ordered
  | unregister name => exact ordered.filter _
  | registerBuiltins =>
    rw [after, registerBuiltins]
    generalize Builtin.factories = rows
    exact List.foldlRecOn rows _ ordered fun _ earlier _ _ => orderedMissing earlier

/-! ### Runs -/

theorem afterSnoc (changes : List (Change κ)) (change : Change κ) :
    (empty.afterAll (changes ++ [change]) : Registry κ) = (empty.afterAll changes).after change :=
  List.foldl_append

theorem orderedAll (changes : List (Change κ)) : (empty.afterAll changes).Ordered :=
  List.foldlRecOn changes after List.Pairwise.nil fun _ ordered change _ =>
    orderedAfter ordered change

theorem getAll (changes : List (Change κ)) (name : String) :
    (empty.afterAll changes).get? name = (Change.since name changes).findSome? (·.offer? name) := by
  induction changes using List.reverseRecOn with
  | nil => rfl
  | append_singleton changes change ih =>
    rw [afterSnoc, getAfter, ih]
    cases dropped : change.drops name with
    | true =>
      rw [Change.sinceDropped dropped]
      rfl
    | false =>
      rw [Change.sinceKept dropped, List.findSome?_append, List.findSome?_singleton]
      rfl

theorem offerKeeps {change : Change κ} {name : String} {factory : Factory κ}
    (offered : change.offer? name = some factory) : change.drops name = false := by
  cases change with
  | unregister other => cases offered
  | register | registerBuiltins => rfl

/-- The change from which a name has its factory: it found the name free, and none has dropped it
since. -/
structure Origin (changes : List (Change κ)) (name : String) (factory : Factory κ)
    (earlier : List (Change κ)) (change : Change κ) (later : List (Change κ)) : Prop where
  split : changes = earlier ++ change :: later
  free : (empty.afterAll earlier).contains name = false
  offered : change.offer? name = some factory
  kept : ∀ next ∈ later, next.drops name = false

theorem getOrigin {changes : List (Change κ)} {name : String} {factory : Factory κ} :
    (empty.afterAll changes).get? name = some factory ↔
      ∃ earlier change later, Origin changes name factory earlier change later := by
  constructor
  · intro held
    induction changes using List.reverseRecOn with
    | nil => cases held
    | append_singleton changes last ih =>
      rw [afterSnoc, getAfter] at held
      split at held
      · cases held
      rename_i stays
      rcases Option.or_eq_some_iff.mp held with before | ⟨fresh, offered⟩
      · obtain ⟨earlier, change, later, origin⟩ := ih before
        refine ⟨earlier, change, later ++ [last], ?_, origin.free, origin.offered, ?_⟩
        · rw [origin.split, List.append_assoc, List.cons_append]
        · intro next member
          rcases List.mem_append.mp member with old | new
          · exact origin.kept next old
          · rw [List.mem_singleton.mp new]
            exact Bool.eq_false_iff.mpr stays
      · exact ⟨changes, last, [], rfl, absentGet.mpr fresh, offered, nofun⟩
  · rintro ⟨earlier, change, later, rfl, free, offered, kept⟩
    rw [← List.singleton_append, ← List.append_assoc]
    induction later using List.reverseRecOn with
    | nil =>
      rw [List.append_nil, afterSnoc, getAfter, offerKeeps offered, absentGet.mp free, offered]
      rfl
    | append_singleton later last ih =>
      have held := ih fun next member => kept next (List.mem_append_left _ member)
      have stays := kept last (List.mem_append_right _ List.mem_cons_self)
      rw [← List.append_assoc, afterSnoc, getAfter, stays, held]
      rfl

theorem builtinMember (name : String) :
    (∃ factory : Factory κ, builtin? name = some factory) ↔
      name ∈ [navigateKind, pauseKind, saveMarkupKind, saveTextKind] := by
  have kinds : Builtin.factories.map (·.1) =
      [navigateKind, pauseKind, saveMarkupKind, saveTextKind] := rfl
  rw [← Option.isSome_iff_exists, builtin?, Option.isSome_map, ← kinds]
  exact lookupMember

/-- What holds of the table to which changes of the empty one have led. -/
structure Reached (changes : List (Change κ)) (registry : Registry κ) : Prop where
  increasing : (registry.names.map Text.bytes).Pairwise (· < ·)
  counted : registry.names.length = registry.size
  contained (name : String) : name ∈ registry.names ↔ registry.contains name = true
  held (name : String) : name ∈ registry.names ↔ ∃ factory, registry.get? name = some factory
  known (name : String) (record : Record) : name ∈ registry.names ↔
    ∀ asked available, registry.create name record ≠ .error (.unknownCommand asked available)
  unknown {name asked : String} {record : Record} {available : List String} :
    registry.create name record = .error (.unknownCommand asked available) →
      asked = name ∧ available = registry.names
  created {name : String} {factory : Factory κ} (record : Record) :
    registry.get? name = some factory →
      registry.create name record = (factory record).mapError (.invalid name)
  duplicate (name : String) (factory : Factory κ) (error : RegistryError) :
    registry.register name factory = .error error ↔
      error = .duplicate name ∧ name ∈ registry.names
  accepted (name : String) (factory : Factory κ) (next : Registry κ) :
    registry.register name factory = .ok next ↔
      name ∉ registry.names ∧ next = registry.after (.register name factory)
  refused {name : String} (factory : Factory κ) :
    name ∈ registry.names → registry.after (.register name factory) = registry
  stepped (change : Change κ) (name : String) : (registry.after change).get? name =
    if change.drops name then none else (registry.get? name).or (change.offer? name)
  first (name : String) :
    registry.get? name = (Change.since name changes).findSome? (·.offer? name)
  origin (name : String) (factory : Factory κ) : registry.get? name = some factory ↔
    ∃ earlier change later, Origin changes name factory earlier change later
  removed (name : String) : (registry.unregister name).1 = true ↔ name ∈ registry.names
  untouched {name : String} : name ∉ registry.names → registry.unregister name = (false, registry)
  kept {name : String} {factory : Factory κ} : registry.get? name = some factory →
    registry.registerBuiltins.get? name = some factory
  filled {name : String} : name ∉ registry.names →
    registry.registerBuiltins.get? name = builtin? name
  builtins (name : String) : name ∈ registry.registerBuiltins.names ↔
    name ∈ registry.names ∨ name ∈ [navigateKind, pauseKind, saveMarkupKind, saveTextKind]

theorem builtinNames (registry : Registry κ) (name : String) :
    name ∈ registry.registerBuiltins.names ↔
      name ∈ registry.names ∨ name ∈ [navigateKind, pauseKind, saveMarkupKind, saveTextKind] := by
  rw [memberGet, memberGet, ← @builtinMember κ, getBuiltins]
  cases registry.get? name <;> simp

theorem changesReach (changes : List (Change κ)) : Reached changes (empty.afterAll changes) where
  increasing := increasingNames (orderedAll changes)
  counted := List.length_map _
  contained _ := containsMember.symm
  held _ := memberGet
  known name record := by
    rw [← containsMember]
    constructor
    · intro present asked available refused
      rw [(createUnknown.mp refused).1] at present
      cases present
    · intro known
      by_contra absent
      exact known _ _ (createUnknown.mpr ⟨Bool.eq_false_iff.mpr absent, rfl, rfl⟩)
  unknown refused := (createUnknown.mp refused).2
  created record held := by rw [create, held]
  duplicate _ _ _ := by rw [registerError, containsMember]
  accepted _ _ _ := by rw [registerOk, absentMember, after]
  refused _ present := missingPresent (containsMember.mpr present)
  stepped := getAfter _
  first := getAll changes
  origin _ _ := getOrigin
  removed _ := containsMember
  untouched absent := unregisterAbsent (absentMember.mpr absent)
  kept held := by rw [getBuiltins, held, Option.some_or]
  filled absent := by rw [getBuiltins, absentGet.mp (absentMember.mpr absent), Option.none_or]
  builtins := builtinNames _

end PageScript.Registry
