import PageScript.Proofs.Script.RoundTrip

/-! What the structured syntax makes of a document. A record is written as the entry that it was
read from, and an entry is rejected for exactly one fault (`refusedExact`). Records and rejections
share out the places of the list, both in the order of the list (`Partition`). -/
namespace PageScript

namespace StructuredScript

open Json

/-! ### Entries -/

/-- What keeps an entry from being a record. -/
inductive Refused : Json → EntryFault → Prop
  | notObject {entry : Json} (shape : entry.object? = none) : Refused entry (.notObject entry)
  | absent {members : Members} (found : members.get? Record.kindKey = none) :
      Refused (.object members) .kindMissing
  | null {members : Members} (found : members.get? Record.kindKey = some .null) :
      Refused (.object members) .kindMissing
  | empty {members : Members} (found : members.get? Record.kindKey = some (.string "")) :
      Refused (.object members) (.kindNotText (.string ""))
  | notText {members : Members} {kind : Json} (found : members.get? Record.kindKey = some kind)
      (present : kind.isNull = false) (shape : kind.string? = none) :
      Refused (.object members) (.kindNotText kind)

theorem refusedExact (entry : Json) (fault : EntryFault) :
    readEntry entry = .error fault ↔ Refused entry fault := by
  constructor
  · intro read
    cases entry with
    | object members =>
      simp only [readEntry] at read
      split at read
      · cases read
        exact .absent ‹_›
      · cases read
        exact .null ‹_›
      · rename_i kind found
        split at read
        · rename_i empty
          cases read
          rw [String.isEmpty_iff.mp empty] at found ⊢
          exact .empty found
        · cases read
      · rename_i kind present notText found
        cases read
        exact .notText found (by cases kind <;> first | rfl | exact absurd rfl present) (by
          cases kind <;> first | rfl | exact absurd rfl (notText _))
    | _ =>
      cases read
      exact .notObject rfl
  · intro refused
    cases refused with
    | notObject shape => cases entry <;> first | rfl | cases shape
    | absent found => simp only [readEntry, found]
    | null found => simp only [readEntry, found]
    | empty found =>
      simp only [readEntry, found]
      rfl
    | @notText _ kind found present shape =>
      simp only [readEntry, found]
      cases kind with
      | null => cases present
      | string _ => cases shape
      | _ => rfl

theorem entryWritten {entry : Json} (genuine : entry.InOrder) {record : Record}
    (read : readEntry entry = .ok record) : record.Writable ∧ record.toJson.sorted = entry := by
  cases entry with
  | object members =>
    simp only [readEntry] at read
    split at read
    · cases read
    · cases read
    · rename_i kind found
      split at read
      · cases read
      · rename_i filled
        cases read
        have writable : Record.Writable ⟨kind, Members.erase members Record.kindKey⟩ := {
          named := by simpa [String.isEmpty_iff] using filled
          fresh := fun pair member => by simpa using (List.mem_filter.mp member).2
          ordered := ⟨Members.eraseOrdered genuine.1 _, everywhereErase genuine.2 _⟩ }
        refine ⟨writable, ?_⟩
        rw [writable.sorted, Members.eraseAgain genuine.1 found]
    · cases read
  | _ => cases read

/-! ### Lists of entries -/

/-- The records of some entries with the places that they stand at, and the rejections, the first
entry having the place `start`. -/
inductive Sifted : Nat → List Json → List (Nat × Record) → List Rejection → Prop
  | nil {start : Nat} : Sifted start [] [] []
  | kept {start : Nat} {rest : List Json} {kept : List (Nat × Record)} {rejected : List Rejection}
      {record : Record} (writable : record.Writable)
      (further : Sifted (start + 1) rest kept rejected) :
      Sifted start (record.toJson.sorted :: rest) ((start, record) :: kept) rejected
  | refused {start : Nat} {entry : Json} {rest : List Json} {kept : List (Nat × Record)}
      {rejected : List Rejection} {fault : EntryFault} (refused : Refused entry fault)
      (further : Sifted (start + 1) rest kept rejected) :
      Sifted start (entry :: rest) kept (⟨start, fault⟩ :: rejected)

theorem readEntriesSifted {entries : List Json} (genuine : EverywhereItems MembersInOrder entries)
    (start : Nat) : ∃ kept, (readEntries start entries).1 = kept.map Prod.snd ∧
      Sifted start entries kept (readEntries start entries).2 := by
  induction entries generalizing start with
  | nil => exact ⟨[], rfl, .nil⟩
  | cons entry rest ih =>
    obtain ⟨kept, records, further⟩ := ih genuine.2 (start + 1)
    simp only [readEntries]
    cases read : readEntry entry with
    | ok record =>
      obtain ⟨writable, same⟩ := entryWritten genuine.1 read
      subst same
      exact ⟨(start, record) :: kept, congrArg (record :: ·) records, .kept writable further⟩
    | error fault => exact ⟨kept, records, .refused ((refusedExact entry fault).mp read) further⟩

section
variable {start : Nat} {entries : List Json} {kept : List (Nat × Record)}
  {rejected : List Rejection}

theorem Sifted.complete (sifted : Sifted start entries kept rejected) :
    (kept.map Prod.fst ++ rejected.map Rejection.index).Perm
      (List.range' start entries.length) := by
  induction sifted with
  | nil => exact .refl _
  | kept writable further ih => exact ih.cons _
  | refused refused further ih => exact List.perm_middle.trans (ih.cons _)

theorem Sifted.later (sifted : Sifted start entries kept rejected) :
    (∀ place ∈ kept.map Prod.fst, start ≤ place) ∧
      ∀ place ∈ rejected.map Rejection.index, start ≤ place := by
  have inside {place : Nat} (member : place ∈ kept.map Prod.fst ++ rejected.map Rejection.index) :
      start ≤ place := (List.mem_range'_1.mp (sifted.complete.subset member)).1
  exact ⟨fun place member => inside (List.mem_append_left _ member),
    fun place member => inside (List.mem_append_right _ member)⟩

theorem Sifted.increasing (sifted : Sifted start entries kept rejected) :
    (kept.map Prod.fst).Pairwise (· < ·) ∧ (rejected.map Rejection.index).Pairwise (· < ·) := by
  induction sifted with
  | nil => exact ⟨.nil, .nil⟩
  | kept writable further ih => exact ⟨List.pairwise_cons.mpr ⟨further.later.1, ih.1⟩, ih.2⟩
  | refused refused further ih => exact ⟨ih.1, List.pairwise_cons.mpr ⟨further.later.2, ih.2⟩⟩

theorem Sifted.source (sifted : Sifted start entries kept rejected) :
    ∀ pair ∈ kept, pair.2.Writable ∧ (pair.2.toJson.sorted, pair.1) ∈ entries.zipIdx start := by
  induction sifted with
  | nil => exact nofun
  | kept writable further ih =>
    refine List.forall_mem_cons.mpr ⟨⟨writable, List.mem_cons_self⟩, fun pair member => ?_⟩
    exact (ih pair member).imp_right (List.mem_cons_of_mem _)
  | refused refused further ih =>
    exact fun pair member => (ih pair member).imp_right (List.mem_cons_of_mem _)

theorem Sifted.fresh (sifted : Sifted (start + 1) entries kept rejected) (fault : EntryFault) :
    ⟨start, fault⟩ ∉ rejected := fun member =>
  Nat.lt_irrefl start (sifted.later.2 start (List.mem_map.mpr ⟨_, member, rfl⟩))

theorem Sifted.refusals (sifted : Sifted start entries kept rejected) :
    ∀ entry place, (entry, place) ∈ entries.zipIdx start →
      ∀ fault, ⟨place, fault⟩ ∈ rejected ↔ Refused entry fault := by
  induction sifted with
  | nil => exact nofun
  | kept writable further ih =>
    intro entry place member fault
    rcases List.mem_cons.mp member with here | later
    · cases here
      -- The entry is what its record is written as, and that reads back.
      refine iff_of_false (further.fresh fault) fun refused => ?_
      have read := (refusedExact _ fault).mpr refused
      rw [writable.entry] at read
      cases read
    · exact ih entry place later fault
  | @refused start first rest kept rejected found refused further ih =>
    intro entry place member fault
    rcases List.mem_cons.mp member with here | later
    · cases here
      constructor
      · intro listed
        rcases List.mem_cons.mp listed with same | listed
        · cases same
          exact refused
        · exact absurd listed (further.fresh fault)
      · intro again
        have read := (refusedExact _ found).mpr refused
        rw [(refusedExact _ fault).mpr again] at read
        cases read
        exact List.mem_cons_self
    · rw [← ih entry place later fault, List.mem_cons, or_iff_right]
      intro same
      cases same
      have above := (List.mem_zipIdx later).1
      exact Nat.lt_irrefl _ above

end

/-- The places of a list of entries shared out between records and rejections. -/
structure Partition (entries : List Json) (kept : List (Nat × Record))
    (rejected : List Rejection) : Prop where
  complete : (kept.map Prod.fst ++ rejected.map Rejection.index).Perm (List.range entries.length)
  recordsInOrder : (kept.map Prod.fst).Pairwise (· < ·)
  rejectedInOrder : (rejected.map Rejection.index).Pairwise (· < ·)
  writable : ∀ pair ∈ kept, pair.2.Writable
  source : ∀ pair ∈ kept, entries[pair.1]? = some pair.2.toJson.sorted
  refusals : ∀ entry place, entries[place]? = some entry →
    ∀ fault, ⟨place, fault⟩ ∈ rejected ↔ Refused entry fault

theorem Sifted.partition {entries : List Json} {kept : List (Nat × Record)}
    {rejected : List Rejection} (sifted : Sifted 0 entries kept rejected) :
    Partition entries kept rejected where
  complete := by simpa [List.range_eq_range'] using sifted.complete
  recordsInOrder := sifted.increasing.1
  rejectedInOrder := sifted.increasing.2
  writable := fun pair member => (sifted.source pair member).1
  source := fun pair member => List.mem_zipIdx_iff_getElem?.mp (sifted.source pair member).2
  refusals := fun entry place found =>
    sifted.refusals entry place (List.mem_zipIdx_iff_getElem?.mpr found)

/-! ### Documents -/

inductive Misshapen : Json → ShapeFault → Prop
  | notObject {value : Json} (shape : value.object? = none) : Misshapen value .notObject
  | commandsMissing {members : Members} (found : members.get? Script.commandsKey = none) :
      Misshapen (.object members) .commandsMissing
  | commandsNotList {members : Members} {commands : Json}
      (found : members.get? Script.commandsKey = some commands) (shape : commands.array? = none) :
      Misshapen (.object members) .commandsNotList

theorem misshapenExact (value : Json) (fault : ShapeFault) :
    ofJson value = .error fault ↔ Misshapen value fault := by
  constructor
  · intro read
    cases value with
    | object members =>
      simp only [ofJson] at read
      split at read
      · cases read
        exact .commandsMissing ‹_›
      · cases read
      · rename_i commands notList found
        cases read
        refine .commandsNotList found ?_
        cases commands with
        | array entries => exact absurd rfl (notList entries)
        | _ => rfl
    | _ =>
      cases read
      exact .notObject rfl
  · intro misshapen
    cases misshapen with
    | notObject shape =>
      cases value with
      | object _ => cases shape
      | _ => rfl
    | commandsMissing found => simp only [ofJson, found]
    | @commandsNotList _ commands found shape =>
      simp only [ofJson, found]
      cases commands with
      | array _ => cases shape
      | _ => rfl

theorem documentPartitions {value : Json} (genuine : value.InOrder) {parsed : ParsedScript}
    (read : ofJson value = .ok parsed) :
    ∃ (members : Members) (entries : List Json) (kept : List (Nat × Record)),
      value = .object members ∧ Members.get? members Script.commandsKey = some (.array entries) ∧
      parsed.script.commands = kept.map Prod.snd ∧ Partition entries kept parsed.rejected ∧
      parsed.script.version = match Members.get? members Script.versionKey with
        | some (.string written) => written
        | _ => Script.defaultVersion := by
  cases value with
  | object members =>
    simp only [ofJson] at read
    split at read
    · cases read
    · rename_i entries found
      cases read
      have inside : EverywhereItems MembersInOrder entries :=
        (everywhereFound genuine.2 found).2
      obtain ⟨kept, records, sifted⟩ := readEntriesSifted inside 0
      refine ⟨members, entries, kept, rfl, found, records, sifted.partition, ?_⟩
      simp only [versionOf]
      cases Members.get? members Script.versionKey with
      | none => rfl
      | some written => cases written <;> rfl
    · cases read
  | _ => cases read

end StructuredScript

open Json StructuredScript in
theorem ParsedScript.ofJsonPartitions (value : Json) (genuine : value.InOrder) :
    (∀ error, ofJson value = .error error ↔ ∃ fault, error = .shape fault ∧ Misshapen value fault) ∧
    ∀ parsed, ofJson value = .ok parsed →
      ∃ (members : Members) (entries : List Json) (kept : List (Nat × Record)),
        value = .object members ∧ Members.get? members Script.commandsKey = some (.array entries) ∧
        parsed.script.commands = kept.map Prod.snd ∧ Partition entries kept parsed.rejected ∧
        parsed.script.version = match Members.get? members Script.versionKey with
          | some (.string written) => written
          | _ => Script.defaultVersion := by
  constructor
  · intro error
    rw [ofJson]
    cases read : StructuredScript.ofJson value with
    | ok parsed =>
      refine iff_of_false nofun ?_
      rintro ⟨fault, -, misshapen⟩
      rw [(misshapenExact value fault).mpr misshapen] at read
      cases read
    | error found =>
      constructor
      · rintro ⟨⟩
        exact ⟨found, rfl, (misshapenExact value found).mp read⟩
      · rintro ⟨fault, rfl, misshapen⟩
        cases read.symm.trans ((misshapenExact value fault).mpr misshapen)
        rfl
  · intro parsed read
    exact documentPartitions genuine (Result.mapErrorOk.mp read)

theorem ParsedScript.ofJsonPartitionsMixed :
    let entries : List Json := [.array [], .object [("command", .string "wait"), ("x", .null)],
      .object [("command", .null)], .object [("command", .string "")], .object [],
      .object [("Command", .bool true), ("command", .number (.whole 1))],
      .object [("", .object [("command", .null)]), ("command", .string "wait")]]
    let value : Json := .object [("commands", .array entries), ("version", .ofNat 2)]
    let records : List Record :=
      [⟨"wait", [("x", .null)]⟩, ⟨"wait", [("", .object [("command", .null)])]⟩]
    let rejected : List Rejection := [⟨0, .notObject (.array [])⟩, ⟨2, .kindMissing⟩,
      ⟨3, .kindNotText (.string "")⟩, ⟨4, .kindMissing⟩, ⟨5, .kindNotText (.number (.whole 1))⟩]
    value.InOrder ∧ ParsedScript.ofJson value = .ok ⟨⟨"1.0", records⟩, rejected⟩ ∧
      ∃ kept, records = kept.map Prod.snd ∧ StructuredScript.Partition entries kept rejected := by
  intro entries value records rejected
  have genuine : value.InOrder := by decide +kernel
  have read : ParsedScript.ofJson value = .ok ⟨⟨"1.0", records⟩, rejected⟩ := rfl
  obtain ⟨_, listed, kept, same, found, split, partition, -⟩ :=
    (ParsedScript.ofJsonPartitions value genuine).2 _ read
  obtain rfl := Json.object.inj same
  obtain rfl : entries = listed := Json.array.inj (Option.some.inj found)
  exact ⟨genuine, read, kept, split, partition⟩

end PageScript
