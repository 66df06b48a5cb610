import PageScript.Proofs.Command.Tag
import PageScript.Proofs.Json.Members
import PageScript.Proofs.Basic
import PageScript.Registry

/-! Commands and the records that they are written as. A factory is canonical if a command that it
builds is of its kind, and is built again, the same in every part, from its own record. The factory
of each built-in command comes down to a constructor on the values of its fields (`ofToRecord`), and
this constructor leaves a command as it is that was made by it (`made`). -/
namespace PageScript

/-! ### Parameters of a record -/

namespace Record

variable (record : Record) (key other : String)

theorem getSet {value : Json} (present : value.isNull = false) :
    (record.set key value).get? key = some value := by
  rw [get?, set, Json.Members.getInsert, if_pos rfl]
  simp [present]

theorem getSetOther (value : Json) (different : other ≠ key) :
    (record.set key value).get? other = record.get? other := by
  rw [get?, set, Json.Members.getInsert, if_neg different, get?]

@[simp] theorem textSet (text : String) :
    (record.set key (.string text)).text? key = .ok (some text) := by
  rw [text?, getSet record key rfl]

@[simp] theorem flagSet (flag : Bool) :
    (record.set key (.bool flag)).flag? key = .ok (some flag) := by
  rw [flag?, getSet record key rfl]

@[simp] theorem numberSet (x : Double) :
    (record.set key (.number (.double x))).number? key = .ok (some x) := by
  rw [number?, getSet record key rfl]
  rfl

@[simp] theorem textSetOther (value : Json) (different : other ≠ key) :
    (record.set key value).text? other = record.text? other := by
  rw [text?, getSetOther record key other value different, text?]

@[simp] theorem textKind (kind : String) : (ofKind kind).text? key = .ok none := rfl

end Record

/-! ### Factories -/

structure Canonical {κ : Type} [Command κ] (name : String) (factory : Factory κ) : Prop where
  kind : ∀ {record command}, factory record = .ok command → Command.kind command = name
  named : ∀ {record command}, factory record = .ok command → (Command.toRecord command).kind = name
  again : ∀ {record command}, factory record = .ok command →
    factory (Command.toRecord command) = .ok command

theorem Canonical.wrap {α κ : Type} [Command α] [Command κ] {name : String} {factory : Factory α}
    (canonical : Canonical name factory) (wrap : α → κ)
    (kind : ∀ command, Command.kind (wrap command) = Command.kind command)
    (record : ∀ command, Command.toRecord (wrap command) = Command.toRecord command) :
    Canonical name fun record => (factory record).map wrap where
  kind := by
    intro _ _ built
    obtain ⟨command, read, rfl⟩ := Result.mapOk.mp built
    rw [kind, canonical.kind read]
  named := by
    intro _ _ built
    obtain ⟨command, read, rfl⟩ := Result.mapOk.mp built
    rw [record, canonical.named read]
  again := by
    intro _ _ built
    obtain ⟨command, read, rfl⟩ := Result.mapOk.mp built
    rw [record, canonical.again read, Result.okMap]

/-! ### Built-in commands -/

namespace Navigate

theorem made {url : String} {waitForLoad : Bool} {command : Navigate}
    (built : make url waitForLoad = .ok command) :
    make command.url command.waitForLoad = .ok command := by
  unfold make at built
  split at built
  · cases built
  · rename_i filled
    cases built
    exact if_neg filled

theorem ofRecordMade {record : Record} {command : Navigate}
    (built : ofRecord record = .ok command) :
    make command.url command.waitForLoad = .ok command := by
  obtain ⟨found, -, made⟩ := Result.bindOk.mp built
  cases found with
  | none => cases made
  | some url =>
    obtain ⟨flag, -, made⟩ := Result.bindOk.mp made
    exact Navigate.made made

theorem ofToRecord (command : Navigate) :
    ofRecord command.toRecord = make command.url command.waitForLoad := by
  simp [ofRecord, toRecord]

theorem canonical : Canonical navigateKind ofRecord where
  kind _ := rfl
  named _ := rfl
  again built := (ofToRecord _).trans (ofRecordMade built)

end Navigate

namespace Pause

theorem made {seconds : Double} {command : Pause} (built : make seconds = .ok command) :
    make command.seconds = .ok command := by
  have same := built
  unfold make at same
  split at same
  · cases same
  · split at same
    · cases same
    · cases same
      exact built

theorem ofRecordMade {record : Record} {command : Pause} (built : ofRecord record = .ok command) :
    make command.seconds = .ok command := by
  obtain ⟨found, -, made⟩ := Result.bindOk.mp built
  cases found with
  | none => cases made
  | some seconds => exact Pause.made made

theorem ofToRecord (command : Pause) : ofRecord command.toRecord = make command.seconds := by
  simp [ofRecord, toRecord]

theorem canonical : Canonical pauseKind ofRecord where
  kind _ := rfl
  named _ := rfl
  again built := (ofToRecord _).trans (ofRecordMade built)

end Pause

namespace SaveMarkup

theorem made (filename path : String) :
    make (make filename path).filename (make filename path).path = make filename path := by
  have filled (text fallback : String) (some : fallback.isEmpty = false) :
      (if text.isEmpty then fallback else text).isEmpty = false := by
    split
    · exact some
    · rename_i other
      exact Bool.eq_false_iff.mpr other
  simp only [make, filled _ _ (show defaultFilename.isEmpty = false by decide),
    filled _ _ (show defaultPath.isEmpty = false by decide), Bool.false_eq_true, if_false]

theorem ofRecordMade {record : Record} {command : SaveMarkup}
    (built : ofRecord record = .ok command) : make command.filename command.path = command := by
  obtain ⟨filename, -, made⟩ := Result.bindOk.mp built
  obtain ⟨path, -, made⟩ := Result.bindOk.mp made
  rw [← Except.ok.inj made]
  exact SaveMarkup.made (filename.getD defaultFilename) (path.getD defaultPath)

theorem ofToRecord (command : SaveMarkup) :
    ofRecord command.toRecord = .ok (make command.filename command.path) := by
  simp [ofRecord, toRecord]

theorem canonical : Canonical saveMarkupKind ofRecord where
  kind _ := rfl
  named _ := rfl
  again built := (ofToRecord _).trans (congrArg _ (ofRecordMade built))

end SaveMarkup

namespace SaveText

theorem made (tag folder : Option String) :
    make (make tag folder).tag (make tag folder).folder = make tag folder := by
  have tags : (tag.bind sanitizeTag).bind sanitizeTag = tag.bind sanitizeTag := by
    cases kept : tag.bind sanitizeTag with
    | none => rfl
    | some clean =>
      obtain ⟨raw, -, sanitized⟩ := Option.bind_eq_some_iff.mp kept
      rw [Option.bind_some, sanitizeAgain sanitized]
  have folders : (folder.filter (!·.isEmpty)).filter (!·.isEmpty) = folder.filter (!·.isEmpty) := by
    simp [Option.filter_filter]
  simp only [make, tags, folders]

theorem ofRecordMade {record : Record} {command : SaveText}
    (built : ofRecord record = .ok command) : make command.tag command.folder = command := by
  obtain ⟨tag, -, made⟩ := Result.bindOk.mp built
  obtain ⟨folder, -, made⟩ := Result.bindOk.mp made
  rw [← Except.ok.inj made]
  exact SaveText.made tag folder

theorem ofToRecord (command : SaveText) :
    ofRecord command.toRecord = .ok (make command.tag command.folder) := by
  cases command with
  | mk tag folder => cases tag <;> cases folder <;> simp [ofRecord, toRecord]

theorem kindToRecord (command : SaveText) : command.toRecord.kind = saveTextKind := by
  cases command with
  | mk tag folder => cases tag <;> cases folder <;> rfl

theorem canonical : Canonical saveTextKind ofRecord where
  kind _ := rfl
  named _ := kindToRecord _
  again built := (ofToRecord _).trans (congrArg _ (ofRecordMade built))

end SaveText

theorem Builtin.factoriesCanonical : ∀ entry ∈ Builtin.factories, Canonical entry.1 entry.2 := by
  intro entry member
  simp only [Builtin.factories, List.mem_cons, List.not_mem_nil, or_false] at member
  rcases member with rfl | rfl | rfl | rfl
  · exact Navigate.canonical.wrap Builtin.navigate (fun _ => rfl) (fun _ => rfl)
  · exact Pause.canonical.wrap Builtin.pause (fun _ => rfl) (fun _ => rfl)
  · exact SaveMarkup.canonical.wrap Builtin.saveMarkup (fun _ => rfl) (fun _ => rfl)
  · exact SaveText.canonical.wrap Builtin.saveText (fun _ => rfl) (fun _ => rfl)

/-! ### Registries -/

namespace Registry

section
variable {κ : Type} {registry : Registry κ} {record : Record} {command : κ}

theorem buildFactory (built : registry.build record = .ok command) :
    ∃ factory, registry.get? record.kind = some factory ∧ factory record = .ok command := by
  unfold build create at built
  cases found : registry.get? record.kind with
  | none => simp [found] at built
  | some factory =>
    rw [found] at built
    exact ⟨factory, rfl, Result.mapErrorOk.mp built⟩

theorem getMember {name : String} {factory : Factory κ} (found : registry.get? name = some factory) :
    (name, factory) ∈ registry.factories := by
  obtain ⟨before, after, parts, -⟩ := List.lookup_eq_some_iff.mp found
  rw [parts]
  exact List.mem_append_right _ List.mem_cons_self

variable [Command κ]

/-- The record that the command built from a record is written as. -/
def rewrite (registry : Registry κ) (record : Record) : Except RegistryError Record :=
  (registry.build record).map Command.toRecord

theorem buildCanonical (canonical : ∀ entry ∈ registry.factories, Canonical entry.1 entry.2)
    (built : registry.build record = .ok command) :
    Command.kind command = record.kind ∧ (Command.toRecord command).kind = record.kind ∧
      registry.build (Command.toRecord command) = .ok command := by
  obtain ⟨factory, found, read⟩ := buildFactory built
  have here : Canonical record.kind factory := canonical _ (getMember found)
  refine ⟨here.kind read, here.named read, ?_⟩
  rw [build, create, here.named read, found]
  exact Result.mapErrorOk.mpr (here.again read)

theorem rewriteCanonical (canonical : ∀ entry ∈ registry.factories, Canonical entry.1 entry.2)
    (record : Record) : registry.rewrite record >>= registry.rewrite = registry.rewrite record := by
  cases built : registry.build record with
  | error e =>
    rw [rewrite, built]
    rfl
  | ok command =>
    rw [rewrite, built, Result.okMap, Result.okBind, rewrite, (buildCanonical canonical built).2.2,
      Result.okMap]

end

theorem builtinsFactories : (builtins : Registry Builtin).factories =
    Builtin.factories.map fun (name, factory) =>
      (name, fun record => (factory record).map HasBuiltins.ofBuiltin) := rfl

theorem builtinsEntries :
    ∀ entry ∈ (builtins : Registry Builtin).factories, Canonical entry.1 entry.2 := by
  intro entry member
  rw [builtinsFactories] at member
  obtain ⟨original, inside, rfl⟩ := List.mem_map.mp member
  exact (Builtin.factoriesCanonical original inside).wrap _ (fun _ => rfl) (fun _ => rfl)

/-- A built-in command is built again from its record, so writing the record of a command once more
changes nothing. -/
theorem builtinsCanonical (record : Record) (command : Builtin)
    (built : builtins.build record = .ok command) :
    let registry : Registry Builtin := builtins
    Command.kind command = record.kind ∧ (Command.toRecord command).kind = record.kind ∧
      registry.build (Command.toRecord command) = .ok command ∧
      registry.rewrite record >>= registry.rewrite = registry.rewrite record := by
  obtain ⟨kind, named, again⟩ := buildCanonical builtinsEntries built
  exact ⟨kind, named, again, rewriteCanonical builtinsEntries record⟩

theorem builtinsCanonicalTag :
    let record : Record := ⟨saveTextKind, [("folder", .string ""), ("tag", .string " _a é-b!__ ")]⟩
    let command : Builtin := .saveText ⟨some "a_éb", none⟩
    builtins.build record = .ok command ∧ Command.kind command = record.kind ∧
      builtins.build (Command.toRecord command) = .ok command := by
  intro record command
  have built : builtins.build record = .ok command := by decide +kernel
  obtain ⟨kind, -, again, -⟩ := builtinsCanonical record command built
  exact ⟨built, kind, again⟩

end Registry

end PageScript
