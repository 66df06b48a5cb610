import Mathlib.Data.List.Basic
import Std.Data.String.ToNat
import PageScript.Run.Executor

/-! Numbers in the reports of a load. Entries that are no records are reported under their places in
the list of the document; records that cannot be built are numbered among the records only. `placed`
are the reports under the places, `numbered` those that a load makes. -/
namespace PageScript

structure LoadReport where
  index : Nat
  reason : String
  deriving DecidableEq, Repr

namespace LoadReport

def text (report : LoadReport) : String := loadErrorText report.index report.reason

theorem digitsEnd {a b : List Char} {x y : List Char} (left : ∀ c ∈ a, c ≠ ':')
    (right : ∀ c ∈ b, c ≠ ':') (same : a ++ ':' :: x = b ++ ':' :: y) : a = b ∧ x = y := by
  induction a generalizing b with
  | nil =>
    cases b with
    | nil => exact ⟨rfl, (List.cons.inj same).2⟩
    | cons c b => exact absurd (List.cons.inj same).1.symm (right c List.mem_cons_self)
  | cons c a ih =>
    cases b with
    | nil => exact absurd (List.cons.inj same).1 (left c List.mem_cons_self)
    | cons d b =>
      obtain ⟨rfl, tails⟩ := List.cons.inj same
      obtain ⟨rfl, rest⟩ := ih (fun e member => left e (List.mem_cons_of_mem _ member))
        (fun e member => right e (List.mem_cons_of_mem _ member)) tails
      exact ⟨rfl, rest⟩

theorem digitsNoColon (n : Nat) : ∀ c ∈ (Nat.repr n).toList, c ≠ ':' := by
  intro c member isColon
  rw [Nat.toList_repr] at member
  have digit := Nat.isDigit_of_mem_toDigits (by decide) (by decide) member
  rw [isColon] at digit
  simp at digit

theorem textChars (report : LoadReport) : report.text.toList = "Error loading command ".toList ++
    ((Nat.repr report.index).toList ++ ':' :: ' ' :: report.reason.toList) := by
  have colon : ": ".toList = [':', ' '] := rfl
  have parts : report.text.toList = "Error loading command ".toList ++
      ((Nat.repr report.index).toList ++ (": ".toList ++ report.reason.toList)) := by
    unfold text loadErrorText
    rw [String.toList_append, String.toList_append, String.toList_append, List.append_assoc,
      List.append_assoc]
    rfl
  rw [parts, colon]
  rfl

theorem textInjective {first second : LoadReport} (same : first.text = second.text) :
    first = second := by
  have chars := congrArg String.toList same
  rw [textChars, textChars] at chars
  obtain ⟨digits, reasons⟩ := digitsEnd (digitsNoColon first.index) (digitsNoColon second.index)
    (List.append_cancel_left chars)
  have index := Nat.repr_injective (String.toList_injective digits)
  have reason := String.toList_injective (List.cons.inj reasons).2
  cases first
  cases second
  cases index
  cases reason
  rfl

end LoadReport

/-! ### Entries with a fault -/

namespace StructuredScript

variable {κ : Type}

def malformed? (entry : Json) : Option String :=
  match StructuredScript.readEntry entry with
  | .ok _ => none
  | .error fault => some fault.message

def unbuildable? (registry : Registry κ) (entry : Json) : Option String :=
  match StructuredScript.readEntry entry with
  | .ok record => match registry.build record with
    | .ok _ => none
    | .error e => some e.message
  | .error _ => none

def report? (fault? : Json → Option String) (number : Nat → Nat) (entry : Json × Nat) :
    Option LoadReport :=
  (fault? entry.1).map fun reason => ⟨number entry.2, reason⟩

def recordsBefore (entries : List Json) (place : Nat) : Nat :=
  (entries.take place).countP fun entry => (malformed? entry).isNone

def placed (registry : Registry κ) (entries : List Json) : List LoadReport :=
  entries.zipIdx.filterMap (report? (unbuildable? registry) id) ++
    entries.zipIdx.filterMap (report? malformed? id)

def numbered (registry : Registry κ) (entries : List Json) : List LoadReport :=
  entries.zipIdx.filterMap (report? (unbuildable? registry) (recordsBefore entries)) ++
    entries.zipIdx.filterMap (report? malformed? id)

/-- What stands before an entry that cannot be built is a record. -/
def Orderly (registry : Registry κ) (entries : List Json) : Prop :=
  ∀ place entry, entries[place]? = some entry → (unbuildable? registry entry).isSome →
    ∀ earlier ∈ entries.take place, malformed? earlier = none

theorem rejectedReports (entries : List Json) (start : Nat) :
    (StructuredScript.readEntries start entries).2.map Rejection.message =
      ((entries.zipIdx start).filterMap (report? malformed? id)).map LoadReport.text := by
  induction entries generalizing start with
  | nil => rfl
  | cons entry rest ih =>
    have further := ih (start + 1)
    simp only [StructuredScript.readEntries, List.zipIdx_cons, List.filterMap_cons, report?,
      malformed?]
    cases StructuredScript.readEntry entry with
    | ok record => exact further
    | error fault => exact congrArg (_ :: ·) further

theorem recordsBeforeNext (entry : Json) (rest : List Json) (place : Nat) :
    recordsBefore (entry :: rest) (place + 1) =
      recordsBefore rest place + if (malformed? entry).isNone then 1 else 0 := by
  rw [recordsBefore, List.take_succ_cons, List.countP_cons, recordsBefore]

theorem numbersGoOn (fault? : Json → Option String) (entry : Json) (rest : List Json)
    (count start : Nat) :
    (rest.zipIdx (start + 1)).filterMap
        (report? fault? fun place => count + recordsBefore (entry :: rest) (place - start)) =
      (rest.zipIdx (start + 1)).filterMap (report? fault? fun place =>
        (count + if (malformed? entry).isNone then 1 else 0) +
          recordsBefore rest (place - (start + 1))) := by
  apply List.filterMap_congr
  intro pair member
  have later := List.le_snd_of_mem_zipIdx member
  obtain ⟨offset, there⟩ := Nat.exists_eq_add_of_le later
  have first : pair.2 - start = offset + 1 := by omega
  have second : pair.2 - (start + 1) = offset := by omega
  simp only [report?, first, second, recordsBeforeNext]
  rw [Nat.add_comm (recordsBefore rest offset), Nat.add_assoc]

theorem unbuiltReports (registry : Registry κ) (entries : List Json) (count start : Nat) :
    (Executor.buildAll registry count (StructuredScript.readEntries start entries).1).2 =
      ((entries.zipIdx start).filterMap (report? (unbuildable? registry) fun place =>
        count + recordsBefore entries (place - start))).map LoadReport.text := by
  induction entries generalizing count start with
  | nil => rfl
  | cons entry rest ih =>
    have here : recordsBefore (entry :: rest) (start - start) = 0 := by
      rw [Nat.sub_self]
      rfl
    rw [List.zipIdx_cons, List.filterMap_cons, numbersGoOn]
    simp only [StructuredScript.readEntries, report?, here, unbuildable?]
    cases read : StructuredScript.readEntry entry with
    | error fault =>
      have one : (malformed? entry).isNone = false := by simp [malformed?, read]
      rw [if_neg (by simp [one])]
      exact ih count (start + 1)
    | ok record =>
      have one : (malformed? entry).isNone = true := by simp [malformed?, read]
      have further := ih (count + 1) (start + 1)
      rw [if_pos one]
      simp only [Executor.buildAll]
      cases registry.build record with
      | ok command => exact further
      | error e => exact congrArg (_ :: ·) further

/-! ### Numbers and places -/

theorem filterMapSame {α β : Type} {f g : α → Option β} {l : List α}
    (both : ∀ x ∈ l, (f x).isSome = (g x).isSome) :
    l.filterMap f = l.filterMap g ↔ ∀ x ∈ l, f x = g x := by
  constructor
  · intro same
    induction l with
    | nil => simp
    | cons x l ih =>
      have head := both x List.mem_cons_self
      have tail := fun y member => both y (List.mem_cons_of_mem _ member)
      rw [List.filterMap_cons, List.filterMap_cons] at same
      cases atF : f x with
      | none =>
        cases atG : g x with
        | none =>
          simp only [atF, atG] at same
          simpa [atF, atG] using ih tail same
        | some b => simp [atF, atG] at head
      | some a =>
        cases atG : g x with
        | none => simp [atF, atG] at head
        | some b =>
          simp only [atF, atG, List.cons.injEq] at same
          obtain ⟨rfl, others⟩ := same
          simpa [atF, atG] using ih tail others
  · exact List.filterMap_congr

theorem recordsBeforeAll (entries : List Json) {place : Nat} (inside : place ≤ entries.length) :
    recordsBefore entries place = place ↔
      ∀ earlier ∈ entries.take place, malformed? earlier = none := by
  have length : (entries.take place).length = place := by
    rw [List.length_take, Nat.min_eq_left inside]
  rw [recordsBefore]
  conv => lhs; rhs; rw [← length]
  rw [List.countP_eq_length]
  simp

theorem numberedPlaced (registry : Registry κ) (entries : List Json) :
    numbered registry entries = placed registry entries ↔ Orderly registry entries := by
  rw [numbered, placed, List.append_left_inj, filterMapSame (by simp [report?])]
  constructor
  · intro same place entry here fails
    have inside : place < entries.length := (List.getElem?_eq_some_iff.mp here).1
    have number := same (entry, place) (List.mk_mem_zipIdx_iff_getElem?.mpr here)
    obtain ⟨reason, because⟩ := Option.isSome_iff_exists.mp fails
    simp only [report?, because, Option.map_some, Option.some.injEq, LoadReport.mk.injEq, and_true,
      id] at number
    exact (recordsBeforeAll entries (Nat.le_of_lt inside)).mp number
  · rintro orderly ⟨entry, place⟩ member
    have here := List.mk_mem_zipIdx_iff_getElem?.mp member
    have inside : place < entries.length := (List.getElem?_eq_some_iff.mp here).1
    simp only [report?]
    cases because : unbuildable? registry entry with
    | none => rfl
    | some reason =>
      have number := (recordsBeforeAll entries (Nat.le_of_lt inside)).mpr
        (orderly place entry here (by simp [because]))
      rw [number]
      rfl

theorem reportPlaces (fault? : Json → Option String) (entries : List Json) (start : Nat) :
    (((entries.zipIdx start).filterMap (report? fault? id)).map LoadReport.index).Sublist
      ((entries.zipIdx start).map Prod.snd) := by
  induction entries generalizing start with
  | nil => exact List.nil_sublist _
  | cons entry rest ih =>
    have further := ih (start + 1)
    rw [List.zipIdx_cons, List.filterMap_cons, List.map_cons]
    simp only [report?]
    cases fault? entry with
    | none => exact further.cons start
    | some reason => exact further.cons_cons start

theorem reportEntry {fault? : Json → Option String} {entries : List Json} {place : Nat}
    (member : place ∈ (entries.zipIdx.filterMap (report? fault? id)).map LoadReport.index) :
    ∃ entry, entries[place]? = some entry ∧ (fault? entry).isSome := by
  obtain ⟨report, reported, rfl⟩ := List.mem_map.mp member
  obtain ⟨⟨entry, place⟩, there, found⟩ := List.mem_filterMap.mp reported
  simp only [report?, Option.map_eq_some_iff] at found
  obtain ⟨reason, because, rfl⟩ := found
  exact ⟨entry, List.mk_mem_zipIdx_iff_getElem?.mp there, by simp [because]⟩

theorem placedDistinct (registry : Registry κ) (entries : List Json) :
    ((placed registry entries).map LoadReport.index).Nodup := by
  have places : (entries.zipIdx.map Prod.snd).Nodup := by
    rw [List.zipIdx_map_snd]
    exact List.nodup_range'
  rw [placed, List.map_append, List.nodup_append]
  refine ⟨(reportPlaces ..).nodup places, (reportPlaces ..).nodup places, ?_⟩
  rintro place unbuilt other rejected rfl
  obtain ⟨entry, here, fails⟩ := reportEntry unbuilt
  obtain ⟨same, there, faulty⟩ := reportEntry rejected
  rw [here] at there
  cases there
  cases read : StructuredScript.readEntry entry with
  | ok record => simp [malformed?, read] at faulty
  | error fault => simp [unbuildable?, read] at fails

end StructuredScript

namespace Executor

variable {κ : Type}

open StructuredScript

theorem loadJsonReports (exec : Executor κ) (members : Json.Members) (entries : List Json)
    (listed : members.get? Script.commandsKey = some (.array entries)) :
    ∃ parsed, ParsedScript.ofJson (.object members) = .ok parsed ∧
      exec.loadJson (.object members) = .ok (exec.loadScript parsed) ∧
      (exec.loadScript parsed).loadErrors =
        (numbered exec.registry entries).map LoadReport.text := by
  have read : ParsedScript.ofJson (.object members) =
      .ok ⟨⟨StructuredScript.versionOf members, (StructuredScript.readEntries 0 entries).1⟩,
        (StructuredScript.readEntries 0 entries).2⟩ := by
    simp only [ParsedScript.ofJson, StructuredScript.ofJson, listed]
    rfl
  refine ⟨_, read, by rw [loadJson, read]; rfl, ?_⟩
  have unbuilt := unbuiltReports exec.registry entries 0 0
  simp only [Nat.zero_add, Nat.sub_zero] at unbuilt
  rw [numbered, List.map_append, ← rejectedReports, ← unbuilt]
  rfl

/-- The numbers are the places exactly if no entry that is no record stands before a record that
cannot be built, and then no two of them are the same. -/
theorem loadJsonPlaces (exec : Executor κ) (members : Json.Members) (entries : List Json)
    (listed : members.get? Script.commandsKey = some (.array entries)) :
    ∃ parsed, ParsedScript.ofJson (.object members) = .ok parsed ∧
      exec.loadJson (.object members) = .ok (exec.loadScript parsed) ∧
      (exec.loadScript parsed).loadErrors = (numbered exec.registry entries).map LoadReport.text ∧
      ((exec.loadScript parsed).loadErrors = (placed exec.registry entries).map LoadReport.text ↔
        Orderly exec.registry entries) ∧
      (Orderly exec.registry entries →
        ((numbered exec.registry entries).map LoadReport.index).Nodup) := by
  obtain ⟨parsed, read, loaded, reports⟩ := exec.loadJsonReports members entries listed
  refine ⟨parsed, read, loaded, reports, ?_, ?_⟩
  · rw [reports, List.map_inj_right fun _ _ => LoadReport.textInjective]
    exact numberedPlaced exec.registry entries
  · intro orderly
    rw [(numberedPlaced exec.registry entries).mpr orderly]
    exact placedDistinct exec.registry entries

theorem loadJsonPlacesOrderly :
    let exec : Executor Builtin := ofRegistry .empty {}
    let entries := [.object [(Record.kindKey, .string "teleport")], .string "x"]
    let members := [(Script.commandsKey, .array entries)]
    Json.Members.get? members Script.commandsKey = some (.array entries) ∧
      ∃ parsed, exec.loadJson (.object members) = .ok (exec.loadScript parsed) ∧
        (exec.loadScript parsed).loadErrors =
          (placed exec.registry entries).map LoadReport.text := by
  intro exec entries members
  obtain ⟨parsed, -, loaded, -, precise, -⟩ := loadJsonPlaces exec members entries rfl
  refine ⟨rfl, parsed, loaded, precise.mpr ?_⟩
  intro place entry here fails earlier member
  match place with
  | 0 => cases member
  | 1 =>
    cases here
    cases fails
  | n + 2 => cases here

theorem loadJsonMisplaces :
    let exec : Executor Builtin := ofRegistry .empty {}
    let entries := [.string "x", .object [(Record.kindKey, .string "teleport")]]
    ∃ loaded, exec.loadJson (.object [(Script.commandsKey, .array entries)]) = .ok loaded ∧
      loaded.loadErrors ≠ (placed exec.registry entries).map LoadReport.text ∧
      loaded.loadErrors = (numbered exec.registry entries).map LoadReport.text ∧
      (numbered exec.registry entries).map LoadReport.index = [0, 0] ∧
      (placed exec.registry entries).map LoadReport.index = [1, 0] := by
  intro exec entries
  obtain ⟨parsed, -, loaded, reports⟩ :=
    exec.loadJsonReports [(Script.commandsKey, .array entries)] entries rfl
  have wrong : (numbered exec.registry entries).map LoadReport.index = [0, 0] := rfl
  have right : (placed exec.registry entries).map LoadReport.index = [1, 0] := rfl
  refine ⟨exec.loadScript parsed, loaded, ?_, reports, wrong, right⟩
  rw [reports]
  intro same
  have texts := (List.map_inj_right fun _ _ => LoadReport.textInjective).mp same
  rw [texts, right] at wrong
  cases wrong

end Executor

end PageScript
