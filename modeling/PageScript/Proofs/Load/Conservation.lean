import PageScript.Proofs.Basic
import PageScript.Proofs.Load.Session

/-! What a load keeps of a document. Every entry is either a command that was built or a load error;
nothing is left of what was loaded before, and a document that cannot be read changes nothing. -/
namespace PageScript

/-- The entries of a document in their order: a record, or what keeps an entry from being one. -/
abbrev Source := List (Except EntryFault Record)

namespace Source

variable {κ : Type}

def records (source : Source) : List Record := source.filterMap Except.toOption

def commands (registry : Registry κ) (source : Source) : List κ :=
  source.filterMap fun entry => entry.toOption.bind fun record => (registry.build record).toOption

def unbuilt? (registry : Registry κ) (record : Record × Nat) : Option String :=
  match registry.build record.1 with
  | .ok _ => none
  | .error e => some (loadErrorText record.2 e.message)

def rejected? (entry : Except EntryFault Record × Nat) : Option String :=
  match entry.1 with
  | .ok _ => none
  | .error fault => some (loadErrorText entry.2 fault.message)

def reports (registry : Registry κ) (source : Source) : List String :=
  source.records.zipIdx.filterMap (unbuilt? registry) ++ source.zipIdx.filterMap rejected?

theorem keptOrTold {α β γ : Type} (kept : α → Option β) (told : α × Nat → Option γ)
    (either : ∀ a n, (told (a, n)).isSome = (kept a).isNone) (all : List α) (start : Nat) :
    (all.filterMap kept).length + ((all.zipIdx start).filterMap told).length = all.length := by
  induction all generalizing start with
  | nil => rfl
  | cons a rest ih =>
    have further := ih (start + 1)
    have here := either a start
    rw [List.zipIdx_cons, List.filterMap_cons, List.filterMap_cons, List.length_cons]
    cases isKept : kept a with
    | none =>
      obtain ⟨text, isTold⟩ := Option.isSome_iff_exists.mp (here.trans (by rw [isKept]; rfl))
      simp only [isTold, List.length_cons]
      omega
    | some b =>
      have isTold : told (a, start) = none := by simpa [isKept] using here
      simp only [isTold, List.length_cons]
      omega

theorem commandsRecords (registry : Registry κ) (source : Source) :
    source.commands registry =
      source.records.filterMap fun record => (registry.build record).toOption := by
  rw [commands, records, List.filterMap_filterMap]

theorem conserved (registry : Registry κ) (source : Source) :
    (source.commands registry).length + (source.reports registry).length = source.length := by
  have built := keptOrTold (fun record => (registry.build record).toOption) (unbuilt? registry)
    (fun record n => by
      unfold unbuilt?
      cases registry.build record <;> rfl) source.records 0
  have read := keptOrTold Except.toOption rejected? (fun entry n => by cases entry <;> rfl) source 0
  rw [commandsRecords, reports, List.length_append]
  change source.records.length + _ = _ at read
  omega

/-! ### Documents -/

/-- An object with a list of commands, whose elements are the entries. -/
inductive Listed : Json → Source → Prop
  | object {members : Json.Members} {entries : List Json}
      (found : members.get? Script.commandsKey = some (.array entries)) :
      Listed (.object members) (entries.map StructuredScript.readEntry)

inductive Held (files : FileTree) (path : String) : Source → Prop
  | structured {text : String} {value : Json} {source : Source}
      (format : ScriptFormat.ofPath path = .structured) (found : files.readText path = .ok text)
      (read : Json.read text = .ok value) (listed : Listed value source) : Held files path source
  | lines {text : String} {script : Script} (format : ScriptFormat.ofPath path = .lines)
      (found : files.readText path = .ok text) (parsed : LineScript.parse text = .ok script) :
      Held files path (script.commands.map Except.ok)

/-- A script that was read holds the entries of a document. -/
structure Parses (parsed : ParsedScript) (source : Source) : Prop where
  records : parsed.script.commands = source.records
  rejected : parsed.rejected.map Rejection.message = source.zipIdx.filterMap rejected?

theorem readEntriesSplit (index : Nat) (entries : List Json) :
    (StructuredScript.readEntries index entries).1 =
        records (entries.map StructuredScript.readEntry) ∧
      (StructuredScript.readEntries index entries).2.map Rejection.message =
        ((entries.map StructuredScript.readEntry).zipIdx index).filterMap rejected? := by
  induction entries generalizing index with
  | nil => exact ⟨rfl, rfl⟩
  | cons entry rest ih =>
    obtain ⟨read, rejected⟩ := ih (index + 1)
    rw [List.map_cons, records, List.filterMap_cons, List.zipIdx_cons, List.filterMap_cons]
    simp only [StructuredScript.readEntries]
    cases StructuredScript.readEntry entry with
    | ok record => exact ⟨congrArg (record :: ·) read, rejected⟩
    | error fault => exact ⟨read, congrArg (loadErrorText index fault.message :: ·) rejected⟩

theorem recordsOk (records : List Record) : Source.records (records.map Except.ok) = records := by
  induction records with
  | nil => rfl
  | cons record rest ih => exact congrArg (record :: ·) ih

theorem parsesScript (script : Script) :
    Parses (.ofScript script) (script.commands.map Except.ok) where
  records := (recordsOk script.commands).symm
  rejected := by
    symm
    rw [ParsedScript.ofScript, List.map_nil, List.filterMap_eq_nil_iff]
    rintro ⟨entry, index⟩ member
    obtain ⟨record, -, rfl⟩ := List.mem_map.mp (List.fst_mem_of_mem_zipIdx member)
    rfl

theorem Listed.reads {value : Json} {source : Source} (listed : Listed value source) :
    ∃ parsed, ParsedScript.ofJson value = .ok parsed ∧ Parses parsed source := by
  cases listed with
  | @object members entries found =>
    obtain ⟨records, rejected⟩ := readEntriesSplit 0 entries
    refine ⟨⟨⟨StructuredScript.versionOf members, _⟩, _⟩, ?_, records, rejected⟩
    simp only [ParsedScript.ofJson, StructuredScript.ofJson, found]
    rfl

theorem listedOfReads {value : Json} {parsed : ParsedScript}
    (read : ParsedScript.ofJson value = .ok parsed) : ∃ source, Listed value source := by
  cases value with
  | object members =>
    simp only [ParsedScript.ofJson, StructuredScript.ofJson] at read
    split at read
    · cases read
    · rename_i found
      exact ⟨_, .object found⟩
    · cases read
  | _ => cases read

theorem Held.reads {files : FileTree} {path : String} {source : Source}
    (held : Held files path source) :
    ∃ parsed, ParsedScript.load files path = .ok parsed ∧ Parses parsed source := by
  cases held with
  | structured format found read listed =>
    obtain ⟨parsed, shaped, parses⟩ := listed.reads
    refine ⟨parsed, ?_, parses⟩
    simp only [ParsedScript.load, found, format, ParsedScript.parse, read]
    exact shaped
  | lines format found accepted =>
    refine ⟨_, ?_, parsesScript _⟩
    simp only [ParsedScript.load, found, format, ParsedScript.parse, accepted]
    rfl

theorem heldOfReads {files : FileTree} {path : String} {parsed : ParsedScript}
    (read : ParsedScript.load files path = .ok parsed) : ∃ source, Held files path source := by
  unfold ParsedScript.load at read
  cases found : files.readText path with
  | error cause =>
    rw [found] at read
    cases cause <;> cases read
  | ok text =>
    cases format : ScriptFormat.ofPath path with
    | structured =>
      simp only [found, format, ParsedScript.parse] at read
      obtain ⟨value, json, shaped⟩ := Result.bindOk.mp read
      obtain ⟨source, listed⟩ := listedOfReads shaped
      exact ⟨source, .structured format found (Result.mapErrorOk.mp json) listed⟩
    | lines =>
      simp only [found, format, ParsedScript.parse] at read
      obtain ⟨script, accepted, -⟩ := Result.mapOk.mp read
      exact ⟨_, .lines format found (Result.mapErrorOk.mp accepted)⟩

/-- What is read holds the entries of the document, and a fault means that there are none. -/
def Settles {ε : Type} (result : Except ε ParsedScript) (Holds : Source → Prop) : Prop :=
  match result with
  | .ok parsed => ∃ source, Holds source ∧ Parses parsed source
  | .error _ => ¬ ∃ source, Holds source

theorem settles {ε : Type} {result : Except ε ParsedScript} {Holds : Source → Prop}
    (reads : ∀ source, Holds source → ∃ parsed, result = .ok parsed ∧ Parses parsed source)
    (held : ∀ parsed, result = .ok parsed → ∃ source, Holds source) : Settles result Holds := by
  cases result with
  | ok parsed =>
    obtain ⟨source, holds⟩ := held parsed rfl
    obtain ⟨_, ⟨⟩, parses⟩ := reads source holds
    exact ⟨source, holds, parses⟩
  | error e =>
    rintro ⟨source, holds⟩
    obtain ⟨_, ⟨⟩, -⟩ := reads source holds

theorem ofJsonSource (value : Json) : Settles (ParsedScript.ofJson value) (Listed value) :=
  settles (fun _ => Listed.reads) fun _ => listedOfReads

theorem loadSource (files : FileTree) (path : String) :
    Settles (ParsedScript.load files path) (Held files path) :=
  settles (fun _ => Held.reads) fun _ => heldOfReads

end Source

namespace Executor

variable {κ : Type}

open Source

theorem buildAllSplit (registry : Registry κ) (index : Nat) (records : List Record) :
    buildAll registry index records =
      (records.filterMap fun record => (registry.build record).toOption,
        (records.zipIdx index).filterMap (unbuilt? registry)) := by
  induction records generalizing index with
  | nil => rfl
  | cons record rest ih =>
    rw [buildAll, ih, List.filterMap_cons, List.zipIdx_cons, List.filterMap_cons]
    simp only [unbuilt?]
    cases registry.build record <;> rfl

/-- What is there after a load. In the context only the log, what the sink was told and the counters
of progress are others than before. -/
structure Loaded (before : Executor κ) (source : Source) (told : List LogEntry)
    (after : Executor κ) : Prop where
  registry : after.registry = before.registry
  commands : after.commands = source.commands before.registry
  loadErrors : after.loadErrors = source.reports before.registry
  conserved : after.commands.length + after.loadErrors.length = source.length
  errors : after.errors = []
  progress : after.progress = ⟨0, after.commands.length, before.progress.isRunning⟩
  log : after.context.log.toList =
    before.context.log.toList ++ after.loadErrors.map (before.context.stamped .error) ++ told
  control : after.context.control =
    { before.context.control with current := 0, total := after.commands.length }
  others : { after.context with
    log := before.context.log
    notices := before.context.notices
    control := before.context.control } = before.context

theorem loadScriptLoaded (exec : Executor κ) {parsed : ParsedScript} {source : Source}
    (parses : Parses parsed source) : Loaded exec source [] (exec.loadScript parsed) := by
  have commands : (exec.loadScript parsed).commands = source.commands exec.registry := by
    simp only [loadScript, loadRecords, buildAllSplit, parses.records, commandsRecords]
  have loadErrors : (exec.loadScript parsed).loadErrors = source.reports exec.registry := by
    simp only [loadScript, loadRecords, buildAllSplit, parses.records, parses.rejected, reports]
  have context : ∃ notices, (exec.loadScript parsed).context = { exec.context with
      log := exec.context.log ++
        ((exec.loadScript parsed).loadErrors.map (exec.context.stamped .error)).toArray
      notices
      control := { exec.context.control with
        current := 0, total := (exec.loadScript parsed).commands.length } } := by
    obtain ⟨notices, logged⟩ := reportErrorsLogged exec.context (exec.loadScript parsed).loadErrors
    refine ⟨notices, ?_⟩
    have flags := (reportErrorsSame exec.context
      (buildAll exec.registry 0 parsed.script.commands).2).1
    have whole : (exec.loadScript parsed).context =
        { reportErrors exec.context (exec.loadScript parsed).loadErrors with
          control := { exec.context.control with
            current := 0, total := (exec.loadScript parsed).commands.length } } := by
      simp only [loadScript, loadRecords, reportErrorsControl, reportErrorsAppend, flags]
    rw [whole, logged]
  obtain ⟨notices, context⟩ := context
  exact {
    registry := rfl
    commands
    loadErrors
    conserved := by
      rw [commands, loadErrors]
      exact source.conserved exec.registry
    errors := rfl
    progress := by
      rw [progress, context]
      rfl
    log := by
      rw [context]
      simp
    control := by rw [context]
    others := by rw [context] }

theorem Loaded.info {exec loaded : Executor κ} {source : Source}
    (holds : Loaded exec source [] loaded) (message : String) :
    Loaded exec source [exec.context.stamped .info message] (loaded.info message) := by
  have stamp : loaded.context.stamped .info message = exec.context.stamped .info message := by
    rw [← holds.others]
    rfl
  have logged : (loaded.info message).context.log =
      loaded.context.log.push (exec.context.stamped .info message) := by
    rw [← stamp]
    rfl
  exact {
    holds with
    log := by
      rw [logged, Array.toList_push, holds.log, List.append_nil]
      rfl }

/-- A load takes over every entry of its document, as a command or as a load error, and leaves
nothing of what was loaded before; if there is no such document it leaves everything as it is.
Saving adds one entry to the log when the file was written, and changes nothing else. -/
theorem loadConserves [Command κ] (exec : Executor κ) :
    (∀ value, match (Session.loadJson value).runOn exec with
      | (.ok (), after) => exec.loadJson value = .ok after ∧
          ∃ source, Listed value source ∧ Loaded exec source [] after
      | (.error e, after) => exec.loadJson value = .error e ∧
          (¬ ∃ source, Listed value source) ∧ after = exec) ∧
    (∀ path, match (Session.loadFile path).runOn exec with
      | (.ok (), after) => exec.loadFile path = .ok after ∧
          ∃ source, Held exec.context.files path source ∧
            Loaded exec source [exec.context.stamped .info s!"Loaded script from: {path}"] after
      | (.error e, after) => exec.loadFile path = .error e ∧
          (¬ ∃ source, Held exec.context.files path source) ∧ after = exec) ∧
    ∀ path, match (Session.saveFile path).runOn exec with
      | (.ok (), after) => exec.saveFile path = .ok after ∧ ∃ files notices,
          after = { exec with context := { exec.context with
            files, notices
            log := exec.context.log.push
              (exec.context.stamped .info s!"Saved script to: {path}") } }
      | (.error e, after) => exec.saveFile path = .error e ∧ after = exec := by
  refine ⟨fun value => ?_, fun path => ?_, fun path => ?_⟩
  · have source := ofJsonSource value
    rw [Session.loadJsonRuns, loadJson]
    cases read : ParsedScript.ofJson value with
    | error e =>
      rw [read] at source
      exact ⟨rfl, source, rfl⟩
    | ok parsed =>
      rw [read] at source
      obtain ⟨source, listed, parses⟩ := source
      exact ⟨rfl, source, listed, exec.loadScriptLoaded parses⟩
  · have source := loadSource exec.context.files path
    rw [Session.loadFileRuns, loadFile]
    cases read : ParsedScript.load exec.context.files path with
    | error e =>
      rw [read] at source
      exact ⟨rfl, source, rfl⟩
    | ok parsed =>
      rw [read] at source
      obtain ⟨source, held, parses⟩ := source
      exact ⟨rfl, source, held, (exec.loadScriptLoaded parses).info _⟩
  · rw [Session.saveFileRuns, saveFile]
    cases exec.context.files.writeText path exec.toScript.pretty with
    | error cause => exact ⟨rfl, rfl⟩
    | ok files => exact ⟨rfl, files, _, rfl⟩

end Executor

end PageScript
