import PageScript.Proofs.Command.Canonical
import PageScript.Proofs.Load.Conservation
import PageScript.Proofs.Script.Instruction

/-! Accepted line scripts against the built-in factories. Nearly every instruction is built; only a
wait can ask for more than a pause allows, and then it is reported under the place of its record. -/
namespace PageScript

namespace Instruction

/-- A page saved as markup goes to the default file, whatever its tag. -/
def command : Instruction → Builtin
  | load url waits => .navigate ⟨url, waits⟩
  | wait seconds => .pause ⟨seconds⟩
  | save .markup _ => .saveMarkup default
  | save .text tag => .saveText (.make tag none)

def tooLong : Instruction → Bool
  | wait seconds => 2 ^ 64 ≤ seconds.value
  | _ => false

def tooLongReason : ValidationError := .outOfRange "seconds" "is too large"

variable {i : Instruction}

def factory : Instruction → Factory Builtin
  | load _ _ => fun record => (Navigate.ofRecord record).map .navigate
  | wait _ => fun record => (Pause.ofRecord record).map .pause
  | save .markup _ => fun record => (SaveMarkup.ofRecord record).map .saveMarkup
  | save .text _ => fun record => (SaveText.ofRecord record).map .saveText

theorem loadBuilt {url : String} (waits : Bool) (filled : url ≠ "") :
    Navigate.ofRecord (load url waits).record = .ok ⟨url, waits⟩ := by
  have read : Navigate.ofRecord (load url waits).record = Navigate.make url waits := rfl
  rw [read, Navigate.make, if_neg (by simpa using filled)]

theorem waitBuilt {seconds : Double} (notBelow : 0 ≤ seconds.value) :
    Pause.ofRecord (wait seconds).record =
      if (wait seconds).tooLong then .error tooLongReason else .ok ⟨seconds⟩ := by
  have read : Pause.ofRecord (wait seconds).record = Pause.make seconds := rfl
  rw [read, Pause.make, Double.notBelowZero.mpr notBelow, tooLong, tooLongReason]
  simp only [Bool.false_eq_true, if_false, Pause.limitReached notBelow, decide_eq_true_eq]

theorem factoryBuilds (fit : i.Fit) : i.factory i.record =
    if i.tooLong then .error tooLongReason else .ok i.command := by
  rcases i with ⟨url, waits⟩ | seconds | ⟨_ | _, _ | tag⟩
  · exact congrArg (Except.map Builtin.navigate) (loadBuilt waits fit.filled)
  · have made := congrArg (Except.map Builtin.pause) (waitBuilt fit)
    refine made.trans ?_
    split <;> rfl
  all_goals rfl

/-! ### Loading -/

variable {κ : Type} [HasBuiltins κ]

theorem factoryFound (i : Instruction) : (Registry.builtins : Registry κ).get? i.record.kind =
    some fun record => (i.factory record).map HasBuiltins.ofBuiltin := by
  rcases i with ⟨url, waits⟩ | seconds | ⟨_ | _, _ | tag⟩ <;> rfl

theorem builds (fit : i.Fit) : (Registry.builtins : Registry κ).build i.record =
    if i.tooLong then .error (.invalid pauseKind tooLongReason)
    else .ok (HasBuiltins.ofBuiltin i.command) := by
  rw [Registry.build, Registry.create, factoryFound]
  dsimp only
  rw [factoryBuilds fit]
  cases i with
  | wait seconds => split <;> rfl
  | _ => rfl

theorem buildsOption (fit : i.Fit) : ((Registry.builtins : Registry κ).build i.record).toOption =
    if i.tooLong then none else some (HasBuiltins.ofBuiltin i.command) := by
  rw [builds fit]
  split <;> rfl

def refused (i : Instruction × Nat) : Option String :=
  if i.1.tooLong then
    some s!"Error loading command {i.2}: invalid 'pause' command: 'seconds' is too large"
  else none

theorem unbuiltRefused (fit : i.Fit) (index : Nat) :
    Source.unbuilt? (Registry.builtins : Registry κ) (i.record, index) = refused (i, index) := by
  have told : (RegistryError.invalid pauseKind tooLongReason).message =
      "invalid 'pause' command: 'seconds' is too large" := by decide
  have whole : loadErrorText index "invalid 'pause' command: 'seconds' is too large" =
      s!"Error loading command {index}: invalid 'pause' command: 'seconds' is too large" := by
    unfold loadErrorText
    simp only [String.append_assoc]
    rfl
  unfold Source.unbuilt? refused
  dsimp only
  rw [builds fit]
  cases i.tooLong with
  | false => rfl
  | true => exact congrArg some ((congrArg (loadErrorText index) told).trans whole)

theorem loaded {instructions : List Instruction} (fit : ∀ i ∈ instructions, i.Fit)
    {exec : Executor κ} (registry : exec.registry = .builtins) :
    let after := exec.loadScript (.ofScript (.ofRecords (instructions.map record)))
    after.commands = (instructions.filter (!·.tooLong)).map (HasBuiltins.ofBuiltin ·.command) ∧
      after.loadErrors = instructions.zipIdx.filterMap refused := by
  intro after
  have parses := Source.parsesScript (.ofRecords (instructions.map record))
  have holds := exec.loadScriptLoaded parses
  constructor
  · calc after.commands
      _ = (instructions.map record).filterMap fun record =>
          ((Registry.builtins : Registry κ).build record).toOption := by
        rw [holds.commands, registry, Source.commandsRecords, ← parses.records]
        rfl
      _ = instructions.filterMap fun i =>
          if i.tooLong then none else some (HasBuiltins.ofBuiltin i.command) := by
        rw [List.filterMap_map]
        exact List.filterMap_congr fun i member => buildsOption (fit i member)
      _ = (instructions.filter (!·.tooLong)).filterMap
          (some ∘ fun i => HasBuiltins.ofBuiltin i.command) := by
        rw [List.filterMap_filter]
        refine List.filterMap_congr fun i _ => ?_
        cases i.tooLong <;> rfl
      _ = (instructions.filter (!·.tooLong)).map (HasBuiltins.ofBuiltin ·.command) := by
        rw [List.filterMap_eq_map]
  · calc after.loadErrors
      _ = (instructions.map record).zipIdx.filterMap
          (Source.unbuilt? (Registry.builtins : Registry κ)) := by
        rw [holds.loadErrors, registry, Source.reports, ← parses.records, ← parses.rejected]
        exact List.append_nil _
      _ = instructions.zipIdx.filterMap refused := by
        rw [List.zipIdx_map, List.filterMap_map]
        exact List.filterMap_congr fun i member =>
          unbuiltRefused (fit i.1 (List.fst_mem_of_mem_zipIdx member)) i.2

end Instruction

namespace LineScript

variable {κ : Type} [HasBuiltins κ]

/-- The records of a text that is accepted are those of instructions, and with the built-in commands
each of them is built unless it is a wait of `2 ^ 64` seconds or more. -/
theorem acceptedBuilds {text : String} {script : Script} (accepted : parse text = .ok script) :
    ∃ instructions : List Instruction,
      script = .ofRecords (instructions.map Instruction.record) ∧ (∀ i ∈ instructions, i.Fit) ∧
      ∀ exec : Executor κ, exec.registry = .builtins →
        (exec.loadScript (.ofScript script)).commands =
          (instructions.filter (!·.tooLong)).map (HasBuiltins.ofBuiltin ·.command) ∧
        (exec.loadScript (.ofScript script)).loadErrors =
          instructions.zipIdx.filterMap Instruction.refused := by
  obtain ⟨instructions, fit, rfl⟩ := parseInstructions accepted
  exact ⟨instructions, rfl, fit, fun exec registry => Instruction.loaded fit registry⟩

theorem acceptedBuildsOverlong :
    let text := "Save TEXT \" a\" b # c\n\nwait 1.9e19\nload \"x  y\" NoWait"
    let long : Double := ⟨false, 4638671875000000, 12, by decide⟩
    let script := Script.ofRecords [⟨saveTextKind, [("tag", .string " a b")]⟩,
      ⟨pauseKind, [("seconds", .number (.double long))]⟩,
      ⟨navigateKind, [("url", .string "x  y"), ("wait_for_load", .bool false)]⟩]
    parse text = .ok script ∧ ∀ exec : Executor Builtin, exec.registry = .builtins →
      (exec.loadScript (.ofScript script)).commands =
        [.saveText ⟨some "a_b", none⟩, .navigate ⟨"x  y", false⟩] ∧
      (exec.loadScript (.ofScript script)).loadErrors =
        ["Error loading command 1: invalid 'pause' command: 'seconds' is too large"] := by
  intro text long script
  have first : parse "Save TEXT \" a\" b # c\n" =
      .ok (.ofRecords [(Instruction.save .text (some " a b")).record]) := rfl
  have middle : parse "wait 1.9e19" = .ok (.ofRecords [(Instruction.wait long).record]) := by
    have read : Double.read? "1.9e19".toList = some long := by decide +kernel
    have line : readLine "wait 1.9e19".toList = (wait ["1.9e19"]).map some := rfl
    rw [parseSplit, List.splitOn_eq_singleton (by decide), singleLine, line, wait, read]
    rfl
  have last : parse "load \"x  y\" NoWait" =
      .ok (.ofRecords [(Instruction.load "x  y" false).record]) := rfl
  have accepted : parse text = .ok script := by
    have parts : text = "Save TEXT \" a\" b # c\n" ++ "\n" ++
      ("wait 1.9e19" ++ "\n" ++ "load \"x  y\" NoWait") := rfl
    rw [parts, parseBehind, parseBehind, first, middle, last]
    rfl
  obtain ⟨instructions, same, -, loaded⟩ := acceptedBuilds (κ := Builtin) accepted
  have known : instructions = [.save .text (some " a b"), .wait long, .load "x  y" false] :=
    List.map_injective_iff.mpr Instruction.recordInjective (congrArg Script.commands same).symm
  subst known
  refine ⟨accepted, fun exec registry => ?_⟩
  obtain ⟨commands, loadErrors⟩ := loaded exec registry
  rw [commands, loadErrors]
  exact ⟨by decide +kernel, by decide +kernel⟩

end LineScript

end PageScript
