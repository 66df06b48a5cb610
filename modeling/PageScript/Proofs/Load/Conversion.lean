import PageScript.Cli.Program
import PageScript.Proofs.Command.Canonical
import PageScript.Proofs.Files.Written
import PageScript.Proofs.Script.RoundTrip

/-! Converting a script: the commands that were loaded, in whichever syntax, are saved as a text
that loads to the same commands with nothing left out, so that it is saved as the same text again.
-/
namespace PageScript

open Json

/-! ### Records of single values -/

inductive Json.Single : Json → Prop
  | text (s : String) : Single (.string s)
  | flag (b : Bool) : Single (.bool b)
  | number {n : Number} (reads : n.ReadsBack) : Single (.number n)

namespace Record

/-- A record that can be written, and whose parameters are neither arrays nor objects. -/
structure Flat (record : Record) : Prop where
  writable : record.Writable
  numbers : EverywhereMembers ReadsBackIfNumber record.params
  shallow : depthMembers record.params = 0

theorem flatKind {kind : String} (named : kind ≠ "") : (ofKind kind).Flat where
  writable := ⟨named, nofun, List.Pairwise.nil, trivial⟩
  numbers := trivial
  shallow := rfl

theorem Flat.set {record : Record} (flat : record.Flat) {key : String} (other : key ≠ kindKey)
    {value : Json} (single : value.Single) : (record.set key value).Flat := by
  have ordered : value.InOrder := by cases single <;> trivial
  have numbers : value.NumbersReadBack := by
    cases single with
    | text s => trivial
    | flag b => trivial
    | number reads => exact reads
  have shallow : value.depth = 0 := by cases single <;> rfl
  have deep := depthInsert record.params key value
  rw [shallow, flat.shallow] at deep
  refine ⟨⟨flat.writable.named, fun pair member => ?_, ?_, ?_⟩, ?_, Nat.le_zero.mp deep⟩
  · rcases Members.memInsert member with rfl | before
    · exact other
    · exact flat.writable.fresh pair before
  · exact Members.insertOrdered flat.writable.ordered.1 key value
  · exact everywhereInsert flat.writable.ordered.2 key ordered
  · exact everywhereInsert flat.numbers key numbers

end Record

theorem Navigate.flat (command : Navigate) : command.toRecord.Flat :=
  ((Record.flatKind (by decide)).set (by decide) (.text _)).set (by decide) (.flag _)

theorem Pause.flat {command : Pause} (reads : (Number.double command.seconds).ReadsBack) :
    command.toRecord.Flat :=
  (Record.flatKind (by decide)).set (by decide) (.number reads)

theorem SaveMarkup.flat (command : SaveMarkup) : command.toRecord.Flat :=
  ((Record.flatKind (by decide)).set (by decide) (.text _)).set (by decide) (.text _)

theorem SaveText.flat (command : SaveText) : command.toRecord.Flat := by
  obtain ⟨tag, folder⟩ := command
  have bare : (Record.ofKind saveTextKind).Flat := Record.flatKind (by decide)
  cases tag with
  | none =>
    cases folder with
    | none => exact bare
    | some folder => exact bare.set (by decide) (.text folder)
  | some tag =>
    have tagged : ((Record.ofKind saveTextKind).set "tag" (.string tag)).Flat :=
      bare.set (by decide) (.text tag)
    cases folder with
    | none => exact tagged
    | some folder => exact tagged.set (by decide) (.text folder)

theorem Builtin.flat {command : Builtin}
    (reads : ∀ pause, command = .pause pause → (Number.double pause.seconds).ReadsBack) :
    (Command.toRecord command).Flat := by
  cases command with
  | navigate command => exact command.flat
  | pause command => exact Pause.flat (reads command rfl)
  | saveMarkup command => exact command.flat
  | saveText command => exact command.flat

theorem Script.flatWritable {records : List Record} (flat : ∀ record ∈ records, record.Flat) :
    (Script.ofRecords records).Writable := by
  have numbers : EverywhereItems ReadsBackIfNumber (records.map Record.toJson) := by
    induction records with
    | nil => trivial
    | cons record records ih =>
      obtain ⟨here, others⟩ := List.forall_mem_cons.mp flat
      exact ⟨⟨trivial, trivial, here.numbers⟩, ih others⟩
  have shallow : depthItems (records.map Record.toJson) ≤ 1 := by
    clear numbers
    induction records with
    | nil => exact Nat.zero_le 1
    | cons record records ih =>
      obtain ⟨here, others⟩ := List.forall_mem_cons.mp flat
      have further := ih others
      simp only [List.map_cons, depthItems, Record.toJson, depth, depthMembers, here.shallow]
      omega
  refine ⟨fun record member => (flat record member).writable,
    ⟨trivial, trivial, ⟨trivial, numbers⟩, trivial⟩, ?_⟩
  simp only [toJson, ofRecords, depth, depthMembers]
  omega

/-! ### Loading and saving -/

namespace Executor

section
variable {κ : Type}

theorem buildAllFrom {registry : Registry κ} {records : List Record} {command : κ} {index : Nat}
    (built : command ∈ (buildAll registry index records).1) :
    ∃ record, registry.build record = .ok command := by
  induction records generalizing index with
  | nil => cases built
  | cons record records ih =>
    simp only [buildAll] at built
    cases here : registry.build record with
    | error e =>
      rw [here] at built
      exact ih built
    | ok first =>
      rw [here] at built
      rcases List.mem_cons.mp built with rfl | later
      · exact ⟨record, here⟩
      · exact ih later

theorem loadFileCommands {exec loaded : Executor κ} {path : String}
    (read : exec.loadFile path = .ok loaded) :
    ∃ parsed, ParsedScript.load exec.context.files path = .ok parsed ∧
      loaded.commands = (buildAll exec.registry 0 parsed.script.commands).1 := by
  obtain ⟨parsed, found, rfl⟩ := Result.mapOk.mp read
  exact ⟨parsed, found, rfl⟩

theorem loadFileText {exec : Executor κ} {path : String} {script : Script}
    (structured : ScriptFormat.ofPath path = .structured) (writable : script.Writable)
    (read : exec.context.files.readText path = .ok script.pretty) :
    exec.loadFile path = .ok ((exec.loadScript (.ofScript script)).info
      s!"Loaded script from: {path}") := by
  rw [loadFile, ParsedScript.load, read]
  simp only [structured, Script.parseWritten writable, Result.okMap]

variable [Command κ]

theorem buildAllAgain {registry : Registry κ} {commands : List κ}
    (again : ∀ command ∈ commands, registry.build (Command.toRecord command) = .ok command)
    (index : Nat) :
    buildAll registry index (commands.map Command.toRecord) = (commands, []) := by
  induction commands generalizing index with
  | nil => rfl
  | cons command commands ih =>
    obtain ⟨here, others⟩ := List.forall_mem_cons.mp again
    simp only [List.map_cons, buildAll, ih others, here]

/-- Wherever the commands are saved, the file holds this text. -/
def Saves (exec : Executor κ) (text : String) : Prop :=
  ∀ path saved, exec.saveFile path = .ok saved →
    saved.context.files.readBytes path = .ok text.toUTF8

theorem savesPretty (exec : Executor κ) : exec.Saves exec.toScript.pretty := by
  intro path saved done
  unfold saveFile at done
  split at done
  · cases done
  · rename_i files written
    cases done
    exact FileTree.readBytesWritten written

/-- A load of all that another one holds. -/
structure Reloaded (exec again : Executor κ) : Prop where
  complete : again.loadErrors = []
  commands : again.commands = exec.commands
  script : again.toScript = exec.toScript
  saves : again.Saves exec.toScript.pretty

theorem sameSaves {exec again : Executor κ} (commands : again.commands = exec.commands) :
    again.Saves exec.toScript.pretty := by
  have same : exec.toScript = again.toScript := by rw [toScript, toScript, commands]
  rw [same]
  exact savesPretty again

end

section
variable {start exec : Executor Builtin} {script : String}

theorem loadedWritable
    (reads : ∀ pause, .pause pause ∈ exec.commands → (Number.double pause.seconds).ReadsBack) :
    exec.toScript.Writable := by
  refine Script.flatWritable fun record member => ?_
  obtain ⟨command, inside, rfl⟩ := List.mem_map.mp member
  exact Builtin.flat fun pause same => reads pause (same ▸ inside)

theorem loadedAgain (builtins : start.registry = .builtins)
    (loaded : start.loadFile script = .ok exec) :
    ∀ command ∈ exec.commands,
      (Registry.builtins : Registry Builtin).build (Command.toRecord command) = .ok command := by
  intro command member
  obtain ⟨parsed, -, commands⟩ := loadFileCommands loaded
  rw [commands, builtins] at member
  obtain ⟨record, built⟩ := buildAllFrom member
  exact (Registry.buildCanonical Registry.builtinsEntries built).2.2

theorem reload (builtins : start.registry = .builtins) (loaded : start.loadFile script = .ok exec)
    (reads : ∀ pause, .pause pause ∈ exec.commands → (Number.double pause.seconds).ReadsBack)
    {next : Executor Builtin} {path : String} (registry : next.registry = .builtins)
    (structured : ScriptFormat.ofPath path = .structured)
    (read : next.context.files.readText path = .ok exec.toScript.pretty) :
    ∃ again, next.loadFile path = .ok again ∧ exec.Reloaded again := by
  have built := buildAllAgain (loadedAgain builtins loaded) 0
  rw [← registry] at built
  have commands : (next.loadScript (.ofScript exec.toScript)).commands = exec.commands :=
    congrArg Prod.fst built
  have complete : (next.loadScript (.ofScript exec.toScript)).loadErrors = [] := by
    show (buildAll next.registry 0 (exec.commands.map Command.toRecord)).2 ++ [] = []
    rw [built, List.append_nil]
  refine ⟨_, loadFileText structured (loadedWritable reads) read, complete, commands, ?_,
    sameSaves commands⟩
  exact congrArg (fun commands => Script.ofRecords (commands.map Command.toRecord)) commands

end

end Executor

/-! ### The command line -/

namespace Cli

theorem loadOnlySame {start exec : Executor Builtin} {script : String}
    (builtins : start.registry = .builtins) (loaded : start.loadFile script = .ok exec) {host : Host}
    (files : host.files = start.context.files) :
    ∃ same, loadOnly host script = .ok same ∧ same.toScript = exec.toScript := by
  obtain ⟨parsed, found, commands⟩ := Executor.loadFileCommands loaded
  rw [← files] at found
  let fresh : Executor Builtin :=
    .ofRegistry .builtins { files := host.files, clock := host.clock }
  refine ⟨(fresh.loadScript parsed).info s!"Loaded script from: {script}", ?_, ?_⟩
  · exact Result.mapErrorOk.mpr (Result.mapOk.mpr ⟨parsed, found, rfl⟩)
  · rw [builtins] at commands
    exact congrArg (fun commands => Script.ofRecords (commands.map Command.toRecord)) commands.symm

theorem printedPretty (exec : Executor Builtin) : printed exec = exec.toScript.pretty ++ "\n" := by
  simp [printed, lines]

end Cli

/-- What is saved for a script that was loaded loads to the same commands, none of it left out, from
wherever structured syntax is asked for, and is then saved as the same text. It is also what looking
at the script and converting it print. -/
theorem conversionSettles (start exec : Executor Builtin) (script : String)
    (builtins : start.registry = .builtins) (loaded : start.loadFile script = .ok exec)
    (reads : ∀ pause, .pause pause ∈ exec.commands → (Number.double pause.seconds).ReadsBack) :
    let text := exec.toScript.pretty
    exec.Saves text ∧
      (∀ (next : Executor Builtin) (path : String), next.registry = .builtins →
        ScriptFormat.ofPath path = .structured → next.context.files.readText path = .ok text →
        ∃ again, next.loadFile path = .ok again ∧ exec.Reloaded again) ∧
      ∀ host : Cli.Host, host.files = start.context.files →
        (Cli.check host script).output = text ++ "\n" ∧
        (Cli.convert host script none).output = text ++ "\n" ∧
        ∀ path, (Cli.convert host script (some path)).code = 0 →
          (Cli.convert host script (some path)).files.readBytes path = .ok text.toUTF8 := by
  intro text
  refine ⟨exec.savesPretty, fun next path registry => Executor.reload builtins loaded reads registry,
    fun host files => ?_⟩
  obtain ⟨same, looked, scripts⟩ := Cli.loadOnlySame builtins loaded files
  have shown : Cli.printed same = text ++ "\n" := by rw [Cli.printedPretty, scripts]
  refine ⟨by rw [Cli.check, looked]; exact shown, by rw [Cli.convert, looked]; exact shown,
    fun path done => ?_⟩
  rw [Cli.convert, looked] at done ⊢
  cases saved : same.saveFile path with
  | error e => simp [saved, Cli.failed] at done
  | ok kept =>
    have bytes := same.savesPretty path kept saved
    rw [scripts] at bytes
    simp only [saved]
    exact bytes

theorem conversionSettlesRejections :
    let text := "\x7b\"commands\": [7, \x7b\"seconds\": \" 1.5\", \"command\": \"pause\"\x7d, \x7b\x7d]\x7d"
    let files : FileTree := ⟨[(["in.json"], .file text.toUTF8)], []⟩
    let start : Executor Builtin := .ofRegistry .builtins { files }
    let pause : Pause := ⟨⟨false, 3 * 2 ^ 51, -52, by decide⟩⟩
    ∃ exec saved again, start.loadFile "in.json" = .ok exec ∧ exec.loadErrors.length = 2 ∧
      exec.commands = [.pause pause] ∧ (Number.double pause.seconds).ReadsBack ∧
      exec.saveFile "out.json" = .ok saved ∧
      (Executor.ofRegistry .builtins { files := saved.context.files }).loadFile "out.json" =
        .ok again ∧ exec.Reloaded again ∧
      (Cli.check { files } "in.json").output = exec.toScript.pretty ++ "\n" := by
  intro text files start pause
  have known : (start.loadFile "in.json").toOption.map (fun exec =>
      (exec.commands, exec.loadErrors.length, (exec.saveFile "out.json").toOption.isSome)) =
        some ([.pause pause], 2, true) := by decide +kernel
  have survives : (Number.double pause.seconds).ReadsBack := by decide +kernel
  cases loaded : start.loadFile "in.json" with
  | error e => simp [loaded, Except.toOption] at known
  | ok exec =>
    simp only [loaded, Except.toOption, Option.map_some, Option.some.injEq, Prod.mk.injEq] at known
    obtain ⟨commands, rejected, kept⟩ := known
    cases saving : exec.saveFile "out.json" with
    | error e => simp [saving] at kept
    | ok saved =>
      have reads : ∀ pause, .pause pause ∈ exec.commands →
          (Number.double pause.seconds).ReadsBack := by
        intro other member
        rw [commands] at member
        cases List.mem_singleton.mp member
        exact survives
      obtain ⟨saves, reloads, shows⟩ := conversionSettles start exec "in.json" rfl loaded reads
      obtain ⟨again, reloaded, same⟩ := reloads (.ofRegistry .builtins
        { files := saved.context.files }) "out.json" rfl (by decide +kernel)
        (FileTree.readTextBytes (saves "out.json" saved saving))
      exact ⟨exec, saved, again, rfl, rejected, commands, survives, saving, reloaded, same,
        (shows { files } rfl).1⟩

end PageScript
