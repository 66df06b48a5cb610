import PageScript.Proofs.Json.Shaped
import PageScript.Script.Load
import PageScript.Script.Text

/-! A script read off its text at once, and the structured syntax read from the value that the text
spells. The one takes no member twice and every command as a record; the other has the last of
repeated members, and no record without a kind. Where both succeed, they differ by those only. -/
namespace PageScript

open Json

/-! ### Records -/

namespace Record

/-- What the structured syntax makes of the entry that the record was read from. -/
def Stands (record : Record) (entry : Json) : Prop :=
  StructuredScript.readEntry entry =
    if record.kind = "" then .error (.kindNotText (.string "")) else .ok record

inductive Takes : Parts → String → Json → Parts → Prop
  | kind {parts : Parts} {kind : String} (fresh : parts.kind = none) :
      Takes parts kindKey (.string kind) { parts with kind := some kind }
  | param {parts : Parts} {key : String} {value : Json} (different : key ≠ kindKey) :
      Takes parts key value { parts with params := parts.params ++ [(key, value)] }

theorem readMemberAgrees (budget : Budget) : MemberAgrees (readMember budget) Takes := by
  intro parts key cs next after text value rest read colon spelled
  rw [readMember] at read
  split at read
  · rename_i here
    subst here
    obtain ⟨fresh, kind, first, rfl⟩ :=
      onceTaken parts.kind wantString (fun kind => { parts with kind := some kind }) read colon
    obtain ⟨rfl, rfl⟩ := wantStringAgrees first spelled
    exact ⟨rfl, .kind fresh⟩
  · rename_i different
    rw [colon, Result.okBind] at read
    obtain ⟨⟨kept, behind⟩, first, read⟩ := Result.bindOk.mp read
    cases read
    obtain ⟨rfl, rfl⟩ := keepAgrees _ first spelled
    exact ⟨rfl, .param different⟩

theorem walksParams {start last : Parts} {members : List (String × Json)}
    (walks : Walks Takes start members last) :
    last.params = start.params ++ members.filter (·.1 ≠ kindKey) := by
  induction walks with
  | done => simp
  | member takes further ih =>
    cases takes with
    | kind fresh => simpa using ih
    | param different =>
      rw [ih, List.filter_cons, if_pos (by simpa using different), List.append_assoc]
      rfl

theorem walksKind {start last : Parts} {members : List (String × Json)}
    (walks : Walks Takes start members last) :
    TakenOnce (fun kind value => value = .string kind) start.kind (Members.under members kindKey)
      last.kind := by
  refine walks.takenOnce (fun takes => ?_) (fun different takes => ?_)
  · cases takes with
    | kind fresh => exact ⟨fresh, _, rfl, rfl⟩
    | param different => exact absurd rfl different
  · cases takes with
    | kind fresh => exact absurd rfl different
    | param _ => rfl

theorem walksStands {parts : Parts} {members : List (String × Json)}
    (walks : Walks Takes {} members parts) {record : Record} (made : ofParts parts = .ok record) :
    record.Stands (.object (Members.ofList members)) := by
  have once := walksKind walks
  have params := walksParams walks
  obtain ⟨kind, written⟩ := parts
  simp only [List.nil_append] at once params
  subst params
  -- The kind was taken once, so the last value of its key is the one that was taken.
  generalize found : Members.under members kindKey = values at once
  cases once with
  | kept => cases made
  | put stands =>
    subst stands
    cases made
    have last : Members.get? (Members.ofList members) kindKey = some (.string _) :=
      (Members.getLast members kindKey).trans (congrArg List.getLast? found)
    simp only [Stands, StructuredScript.readEntry, last, String.isEmpty_iff,
      Members.eraseOfList]
    split
    · rename_i empty
      rw [empty]
    · rfl

theorem readFromAgrees (budget : Budget) : Agrees (readFrom budget) Stands := by
  intro cs record after value rest read spelled
  simp only [readFrom] at read
  split at read
  · cases read
  · rename_i c text begins
    split at read
    · cases read
    · rename_i bracket
      obtain rfl := not_not.mp bracket
      obtain ⟨⟨parts, behind⟩, found, read⟩ := Result.bindOk.mp read
      obtain ⟨made, isMade, read⟩ := Result.bindOk.mp read
      cases read
      obtain ⟨rfl, members, rfl, walks⟩ :=
        foldMembersAgrees (readMemberAgrees _) found begins spelled
      exact ⟨rfl, walksStands walks isMade⟩

end Record

/-! ### Lists of records -/

theorem entriesStand {records : List Record} {entries : List Json}
    (stand : List.Forall₂ Record.Stands records entries) (start : Nat) :
    StructuredScript.readEntries start entries = (records.filter (·.kind ≠ ""),
      ((records.zipIdx start).filter (·.1.kind = "")).map fun (_, place) =>
        ⟨place, .kindNotText (.string "")⟩) := by
  induction stand generalizing start with
  | nil => rfl
  | @cons record entry records entries first others ih =>
    rw [StructuredScript.readEntries, ih, List.zipIdx_cons, List.filter_cons, List.filter_cons,
      first]
    by_cases empty : record.kind = "" <;> simp [empty]

/-! ### Scripts -/

namespace Script

inductive Takes : Parts → String → Json → Parts → Prop
  | version {parts : Parts} {version : String} (fresh : parts.version = none) :
      Takes parts versionKey (.string version) { parts with version := some version }
  | commands {parts : Parts} {records : List Record} {entries : List Json}
      (fresh : parts.commands = none) (stand : List.Forall₂ Record.Stands records entries) :
      Takes parts commandsKey (.array entries) { parts with commands := some records }
  | other {parts : Parts} {key : String} {value : Json}
      (different : key ≠ versionKey ∧ key ≠ commandsKey) : Takes parts key value parts

theorem readMemberAgrees : MemberAgrees readMember Takes := by
  intro parts key cs next after text value rest read colon spelled
  rw [readMember] at read
  split at read
  · rename_i here
    subst here
    obtain ⟨fresh, version, first, rfl⟩ := onceTaken parts.version wantString
      (fun version => { parts with version := some version }) read colon
    obtain ⟨rfl, rfl⟩ := wantStringAgrees first spelled
    exact ⟨rfl, .version fresh⟩
  · rename_i notVersion
    split at read
    · rename_i here
      subst here
      obtain ⟨fresh, records, first, rfl⟩ := onceTaken parts.commands readCommands
        (fun records => { parts with commands := some records }) read colon
      obtain ⟨rfl, entries, rfl, stand⟩ := wantItemsAgrees (Record.readFromAgrees _) first spelled
      exact ⟨rfl, .commands fresh stand⟩
    · rename_i notCommands
      rw [colon, Result.okBind] at read
      obtain ⟨behind, passed, read⟩ := Result.bindOk.mp read
      cases read
      exact ⟨spelled.passed passed, .other ⟨notVersion, notCommands⟩⟩

section
variable {start last : Parts} {members : List (String × Json)}
  (walks : Walks Takes start members last)
include walks

theorem walksVersion : TakenOnce (fun version value => value = .string version) start.version
    (Members.under members versionKey) last.version := by
  refine walks.takenOnce (fun takes => ?_) (fun different takes => ?_)
  · generalize same : versionKey = key at takes
    cases takes with
    | version fresh => exact ⟨fresh, _, rfl, rfl⟩
    | commands fresh stand => exact absurd same (by decide)
    | other different => exact absurd same.symm different.1
  · cases takes with
    | version fresh => exact absurd rfl different
    | commands fresh stand => rfl
    | other _ => rfl

theorem walksCommands : TakenOnce
    (fun records value => ∃ entries, value = .array entries ∧
      List.Forall₂ Record.Stands records entries)
    start.commands (Members.under members commandsKey) last.commands := by
  refine walks.takenOnce (fun takes => ?_) (fun different takes => ?_)
  · generalize same : commandsKey = key at takes
    cases takes with
    | version fresh => exact absurd same (by decide)
    | commands fresh stand => exact ⟨fresh, _, ⟨_, rfl, stand⟩, rfl⟩
    | other different => exact absurd same.symm different.2
  · cases takes with
    | version fresh => rfl
    | commands fresh stand => exact absurd rfl different
    | other _ => rfl

end

/-- The structured syntax has the script without the records that have no kind, and rejects these
under their places. -/
structure Sifts (script : Script) (parsed : ParsedScript) : Prop where
  version : parsed.script.version = script.version
  commands : parsed.script.commands = script.commands.filter (·.kind ≠ "")
  rejected : parsed.rejected = (script.commands.zipIdx.filter (·.1.kind = "")).map
    fun (_, place) => ⟨place, .kindNotText (.string "")⟩

theorem walksSift {parts : Parts} {members : List (String × Json)}
    (walks : Walks Takes {} members parts) {script : Script} (made : ofParts parts = .ok script)
    {parsed : ParsedScript}
    (structured : StructuredScript.ofJson (.object (Members.ofList members)) = .ok parsed) :
    script.Sifts parsed := by
  have version := walksVersion walks
  have commands := walksCommands walks
  obtain ⟨written, records⟩ := parts
  simp only at version commands
  simp only [StructuredScript.ofJson, StructuredScript.versionOf, Members.getLast] at structured
  generalize Members.under members commandsKey = commandValues at commands structured
  generalize Members.under members versionKey = versionValues at version structured
  cases commands with
  | kept => cases made
  | put stands =>
    obtain ⟨entries, rfl, stand⟩ := stands
    cases made
    simp only [List.getLast?_singleton, entriesStand stand 0] at structured
    cases structured
    refine ⟨?_, rfl, rfl⟩
    cases version with
    | kept => rfl
    | put isString =>
      subst isString
      rfl

theorem readFromSifts {cs after rest : List Char} {script : Script} {value : Json}
    (read : readFrom cs = .ok (script, after)) (spelled : Spells cs (.value value) rest)
    {parsed : ParsedScript} (structured : StructuredScript.ofJson value = .ok parsed) :
    script.Sifts parsed := by
  simp only [readFrom] at read
  split at read
  · cases read
  · rename_i c text begins
    split at read
    · rename_i bracket
      subst bracket
      obtain ⟨items, rfl, -⟩ := spelled.arrayInside begins
      cases structured
    · split at read
      · rename_i bracket
        subst bracket
        obtain ⟨⟨parts, behind⟩, found, read⟩ := Result.bindOk.mp read
        obtain ⟨made, isMade, read⟩ := Result.bindOk.mp read
        cases read
        obtain ⟨rfl, members, rfl, walks⟩ :=
          foldMembersAgrees readMemberAgrees found begins spelled
        exact walksSift walks isMade structured
      · cases read

theorem Sifts.whole {script : Script} {parsed : ParsedScript} (sifts : script.Sifts parsed)
    (filled : ∀ record ∈ script.commands, record.kind ≠ "") : parsed = .ofScript script := by
  have all : script.commands.filter (·.kind ≠ "") = script.commands :=
    List.filter_eq_self.mpr (by simpa using filled)
  have none : script.commands.zipIdx.filter (·.1.kind = "") = [] := by
    refine List.filter_eq_nil_iff.mpr fun pair member => ?_
    simpa using filled pair.1 (List.fst_mem_of_mem_zipIdx member)
  obtain ⟨⟨version, commands⟩, rejected⟩ := parsed
  obtain ⟨rfl, rfl, rfl⟩ := sifts
  simp only [all, none, List.map_nil]
  rfl

theorem readersAgree (text : String) (script : Script) (parsed : ParsedScript)
    (plain : Script.read text = .ok script)
    (structured : ParsedScript.parse .structured text = .ok parsed) :
    script.Sifts parsed ∧
      ((∀ record ∈ script.commands, record.kind ≠ "") → parsed = .ofScript script) := by
  obtain ⟨⟨whole, after⟩, taken, plain⟩ := Result.bindOk.mp plain
  obtain ⟨-, -, plain⟩ := Result.bindOk.mp plain
  cases plain
  obtain ⟨value, valueRead, made⟩ := Result.bindOk.mp structured
  obtain ⟨⟨same, rest⟩, kept, valueRead⟩ := Result.bindOk.mp (Result.mapErrorOk.mp valueRead)
  obtain ⟨-, -, valueRead⟩ := Result.bindOk.mp valueRead
  cases valueRead
  have sifts := readFromSifts taken ((readersSpell _).1 _ _ _ _ kept) (Result.mapErrorOk.mp made)
  exact ⟨sifts, sifts.whole⟩

theorem readersAgreeRepeated :
    let sifted := "\x7b\"x\": [1e9], \"commands\": [\x7b\"b\": 1, \"command\": \"wait\"," ++
      "\"b\": []\x7d, \x7b\"command\": \"\"\x7d], \"x\": \"\\ud83d\\ude00\"\x7d"
    let whole :=
      "\x7b\"version\": \"2\", \"commands\": [\x7b\"\": null, \"command\": \"wait\"\x7d]\x7d"
    (∃ script parsed, Script.read sifted = .ok script ∧
      ParsedScript.parse .structured sifted = .ok parsed ∧
      script.commands.map Record.kind = ["wait", ""] ∧ script.Sifts parsed) ∧
    ∃ script, Script.read whole = .ok script ∧ script.commands.map Record.kind = ["wait"] ∧
      ParsedScript.parse .structured whole = .ok (.ofScript script) := by
  intro sifted whole
  have siftedKinds : (Script.read sifted).toOption.map (·.commands.map Record.kind) =
      some ["wait", ""] := by decide +kernel
  have siftedPlaces : (ParsedScript.parse .structured sifted).toOption.map
      (·.rejected.map Rejection.index) = some [1] := by decide +kernel
  have wholeKinds : (Script.read whole).toOption.map (·.commands.map Record.kind) =
      some ["wait"] := by decide +kernel
  have wholePlaces : (ParsedScript.parse .structured whole).toOption.map
      (·.rejected.map Rejection.index) = some [] := by decide +kernel
  constructor
  · obtain ⟨script, plain, kinds⟩ := Result.toOptionSome.mp siftedKinds
    obtain ⟨parsed, structured, -⟩ := Result.toOptionSome.mp siftedPlaces
    exact ⟨script, parsed, plain, structured, kinds, (readersAgree _ _ _ plain structured).1⟩
  · obtain ⟨script, plain, kinds⟩ := Result.toOptionSome.mp wholeKinds
    obtain ⟨parsed, structured, -⟩ := Result.toOptionSome.mp wholePlaces
    obtain rfl := (readersAgree _ _ _ plain structured).2 fun record member => by
      have inside := List.mem_map_of_mem (f := Record.kind) member
      rw [kinds, List.mem_singleton] at inside
      rw [inside]
      decide
    exact ⟨script, plain, kinds, structured⟩

end Script

end PageScript
