import Mathlib.Algebra.Group.Nat.Defs
import PageScript.Proofs.Json.Fold
import PageScript.Script.Load
import PageScript.Script.Text

/-! Scripts read back from their own text, both as structured syntax and as plain JSON. What the
text needs for that is said of the script: its records have a kind that no parameter hides, its
numbers read back and its nesting is within what a reader takes. -/
namespace PageScript

open Json

/-! ### Records -/

namespace Record

structure Writable (record : Record) : Prop where
  named : record.kind ≠ ""
  fresh : ∀ pair ∈ record.params, pair.1 ≠ kindKey
  ordered : (Json.object record.params).InOrder

instance (record : Record) : Decidable record.Writable :=
  decidable_of_iff (record.kind ≠ "" ∧ (∀ pair ∈ record.params, pair.1 ≠ kindKey) ∧
    (Json.object record.params).InOrder) ⟨fun ⟨a, b, c⟩ => ⟨a, b, c⟩, fun ⟨a, b, c⟩ => ⟨a, b, c⟩⟩

theorem Writable.sorted {record : Record} (writable : record.Writable) :
    record.toJson.sorted =
      .object (Members.ofList ((kindKey, .string record.kind) :: record.params)) := by
  rw [toJson, Json.sorted, sortedMembers, sortedMembersSame record.params writable.ordered.2]
  rfl

theorem Writable.missing {record : Record} (writable : record.Writable) :
    Members.get? record.params kindKey = none := by
  rw [Members.get?, List.lookup_eq_none_iff]
  intro pair member
  simpa using (writable.fresh pair member).symm

theorem Writable.distinct {record : Record} (writable : record.Writable) :
    (((kindKey, Json.string record.kind) :: record.params).map Prod.fst).Nodup := by
  refine List.nodup_cons.mpr ⟨fun member => ?_, Members.Ordered.distinct writable.ordered.1⟩
  obtain ⟨pair, inside, same⟩ := List.mem_map.mp member
  exact writable.fresh pair inside same

theorem Writable.entry {record : Record} (writable : record.Writable) :
    StructuredScript.readEntry record.toJson.sorted = .ok record := by
  have found : Members.get? (Members.ofList ((kindKey, .string record.kind) :: record.params))
      kindKey = some (.string record.kind) := by
    rw [Members.getOfList writable.distinct, Members.getCons, if_pos rfl]
  have filled : record.kind.isEmpty = false := by
    simpa [String.isEmpty_iff] using writable.named
  rw [writable.sorted, StructuredScript.readEntry, found]
  simp only [filled, Bool.false_eq_true, if_false,
    Members.eraseFirst writable.ordered.1 _ writable.missing]

theorem foldParams (indent : Indent) {budget : Budget} (kind : Option String)
    (before : List (String × Json)) {params : Members} (fresh : ∀ pair ∈ params, pair.1 ≠ kindKey)
    (ordered : EverywhereMembers MembersInOrder params)
    (numbers : EverywhereMembers ReadsBackIfNumber params) (deep : depthMembers params ≤ budget) :
    Folds (readMember budget) indent ⟨kind, before⟩ params ⟨kind, before ++ params⟩ := by
  induction params generalizing before with
  | nil =>
    rw [List.append_nil]
    exact .done
  | cons pair params ih =>
    obtain ⟨key, value⟩ := pair
    obtain ⟨different, others⟩ := List.forall_mem_cons.mp fresh
    obtain ⟨here, below⟩ := Nat.max_le.mp deep
    have further := ih (before ++ [(key, value)]) others ordered.2 numbers.2 below
    rw [List.append_assoc] at further
    refine .member (fun rest stops => ?_) further
    rw [readMember, if_neg different, readColonWritten, Result.okBind,
      keepWritten indent numbers.1 here stops, sortedSame value ordered.1]
    rfl

theorem readFromWritten {record : Record} (writable : record.Writable) {budget : Budget}
    (numbers : record.toJson.NumbersReadBack) (deep : record.toJson.depth ≤ budget)
    (indent : Indent) : ItemReads (readFrom budget) toJson indent record := by
  intro rest _
  have below : depthMembers record.params ≤ budget - 1 := by
    simp only [toJson, depth, depthMembers] at deep
    omega
  have params := foldParams indent.deeper (some record.kind) [] writable.fresh
    writable.ordered.2 numbers.2.2 below
  have folds : Folds (readMember (budget - 1)) indent.deeper {}
      ((kindKey, .string record.kind) :: record.params) ⟨some record.kind, record.params⟩ := by
    refine .member (fun rest _ => ?_) params
    rw [readMember, if_pos rfl]
    simp only [Option.isSome_none, Bool.false_eq_true, if_false]
    rw [readColonWritten, Result.okBind, write, wantStringWritten (skipColon indent.deeper _)]
    rfl
  obtain ⟨text, written, found⟩ := foldMembersWritten indent folds rest
  rw [readFrom, skipGap, toJson, written, skipNothing _ (by decide)]
  simp only [ne_eq, not_true, if_false, found, Result.okBind, ofParts,
    Members.ofListSame writable.ordered.1]

end Record

/-! ### Scripts -/

namespace Script

structure Writable (script : Script) : Prop where
  records : ∀ record ∈ script.commands, record.Writable
  numbers : script.toJson.NumbersReadBack
  shallow : script.toJson.depth ≤ 127

instance (script : Script) : Decidable script.Writable :=
  decidable_of_iff ((∀ record ∈ script.commands, record.Writable) ∧ script.toJson.NumbersReadBack ∧
    script.toJson.depth ≤ 127) ⟨fun ⟨a, b, c⟩ => ⟨a, b, c⟩, fun ⟨a, b, c⟩ => ⟨a, b, c⟩⟩

section
variable {script : Script}

theorem recordNumbers {records : List Record}
    (numbers : EverywhereItems ReadsBackIfNumber (records.map Record.toJson)) :
    ∀ record ∈ records, record.toJson.NumbersReadBack := by
  induction records with
  | nil => exact nofun
  | cons first records ih => exact List.forall_mem_cons.mpr ⟨numbers.1, ih numbers.2⟩

theorem recordDepths {budget : Budget} {records : List Record}
    (deep : depthItems (records.map Record.toJson) ≤ budget) :
    ∀ record ∈ records, record.toJson.depth ≤ budget := by
  induction records with
  | nil => exact nofun
  | cons first records ih =>
    obtain ⟨here, below⟩ := Nat.max_le.mp deep
    exact List.forall_mem_cons.mpr ⟨here, ih below⟩

theorem Writable.recordReads (writable : script.Writable) (indent : Indent) :
    ∀ record ∈ script.commands,
      ItemReads (Record.readFrom (fullBudget - 2)) Record.toJson indent record := by
  have shallow := writable.shallow
  simp only [toJson, depth, depthMembers] at shallow
  have deep : depthItems (script.commands.map Record.toJson) ≤ fullBudget - 2 := by
    unfold fullBudget
    omega
  intro record member
  exact Record.readFromWritten (writable.records record member)
    (recordNumbers writable.numbers.2.2.1.2 record member) (recordDepths deep record member) indent

theorem readWritten (writable : script.Writable) (indent : Indent) :
    Script.read (String.ofList (write indent script.toJson)) = .ok script := by
  have commands : Folds readMember indent.deeper ⟨some script.version, none⟩
      [(commandsKey, .array (script.commands.map Record.toJson))]
      ⟨some script.version, some script.commands⟩ := by
    refine .member (fun rest _ => ?_) .done
    rw [readMember, if_neg (by decide), if_pos rfl]
    simp only [Option.isSome_none, Bool.false_eq_true, if_false]
    rw [readColonWritten, Result.okBind, readCommands,
      wantItemsWritten indent.deeper (skipColon indent.deeper _)
        (recordNumbers writable.numbers.2.2.1.2) (writable.recordReads indent.deeper.deeper)]
    rfl
  have folds : Folds readMember indent.deeper {}
      [(versionKey, .string script.version),
        (commandsKey, .array (script.commands.map Record.toJson))]
      ⟨some script.version, some script.commands⟩ := by
    refine .member (fun rest _ => ?_) commands
    rw [readMember, if_pos rfl]
    simp only [Option.isSome_none, Bool.false_eq_true, if_false]
    rw [readColonWritten, Result.okBind, write, wantStringWritten (skipColon indent.deeper _)]
    rfl
  obtain ⟨text, written, found⟩ := foldMembersWritten indent folds []
  rw [List.append_nil] at written
  rw [Script.read, String.toList_ofList, toJson, written, readFrom, skipNothing _ (by decide)]
  simp only [Char.reduceEq, if_false, if_true, found, Result.okBind]
  rfl

theorem entriesWritten {records : List Record} (writable : ∀ record ∈ records, record.Writable)
    (index : Nat) :
    StructuredScript.readEntries index (sortedItems (records.map Record.toJson)) =
      (records, []) := by
  induction records generalizing index with
  | nil => rfl
  | cons record records ih =>
    obtain ⟨here, others⟩ := List.forall_mem_cons.mp writable
    simp only [List.map_cons, sortedItems, StructuredScript.readEntries, ih others, here.entry]

theorem ofJsonSorted (writable : ∀ record ∈ script.commands, record.Writable) :
    StructuredScript.ofJson script.toJson.sorted = .ok (.ofScript script) := by
  have distinct : ([(versionKey, Json.string script.version), (commandsKey,
      .array (sortedItems (script.commands.map Record.toJson)))].map Prod.fst).Nodup := by
    simp [versionKey, commandsKey]
  have version := Members.getOfList distinct versionKey
  have commands := Members.getOfList distinct commandsKey
  rw [Members.getCons, if_pos rfl] at version
  rw [Members.getCons, if_neg (by decide), Members.getCons, if_pos rfl] at commands
  simp only [toJson, sorted, sortedMembers, StructuredScript.ofJson, commands,
    entriesWritten writable, StructuredScript.versionOf, version, Option.bind_some, string?,
    Option.getD_some]
  rfl

theorem parseWritten (writable : script.Writable) :
    ParsedScript.parse .structured script.pretty = .ok (.ofScript script) :=
  Result.bindOk.mpr ⟨script.toJson.sorted,
    Result.mapErrorOk.mpr (Json.readWritten (some 0) writable.numbers writable.shallow),
    Result.mapErrorOk.mpr (ofJsonSorted writable.records)⟩

end

end Script

end PageScript
