import PageScript.Cli.Program

/-! Which port the dashboard takes. The first of ten ports that is free is to be taken
(`lastOffered` is the last of them), but the last port there is is never tried (`lastTried`). So the
choice is the one that was to be made unless the last port is offered and is the only one of them
that is free. -/
namespace PageScript

namespace Dashboard

structure FirstFree (canBind : Nat → Bool) (first last port : Nat) : Prop where
  reached : first ≤ port
  within : port ≤ last
  free : canBind port = true
  before : ∀ earlier, first ≤ earlier → earlier < port → canBind earlier = false

def NoneFree (canBind : Nat → Bool) (first last : Nat) : Prop :=
  ∀ port, first ≤ port → port ≤ last → canBind port = false

structure Chooses (canBind : Nat → Bool) (first last : Nat) (choice : Option Nat) : Prop where
  bound : ∀ port, choice = some port ↔ FirstFree canBind first last port
  failed : choice = none ↔ NoneFree canBind first last

/-- The ninth port after the first one, or the last port there is. -/
def lastOffered (first : Nat) : Nat := min (first + 9) lastPort

def lastTried (first : Nat) : Nat := min (first + 9) (lastPort - 1)

variable {canBind : Nat → Bool} {first last port : Nat}

theorem FirstFree.widen (found : FirstFree canBind first last port) {further : Nat}
    (wider : last ≤ further) : FirstFree canBind first further port :=
  { found with within := Nat.le_trans found.within wider }

theorem triedOffered (low : first + 9 < lastPort) : lastTried first = lastOffered first := by
  unfold lastTried lastOffered
  omega

theorem triedBelow (high : lastPort ≤ first + 9) :
    lastTried first = lastPort - 1 ∧ lastOffered first = lastPort := by
  unfold lastTried lastOffered
  omega

theorem triedPorts {port : Nat} (reached : first ≤ port) :
    port < first + (min (first + 10) lastPort - first) ↔ port ≤ lastTried first := by
  unfold lastTried lastPort
  omega

theorem choosePortTried (canBind : Nat → Bool) (first : Nat) :
    Chooses canBind first (lastTried first) (choosePort canBind first) where
  bound := by
    intro port
    rw [choosePort, candidates, List.find?_range'_eq_some, List.mem_range'_1]
    constructor
    · rintro ⟨free, ⟨reached, inside⟩, before⟩
      exact ⟨reached, (triedPorts reached).mp inside, free, by simpa using before⟩
    · intro found
      refine ⟨found.free, ⟨found.reached, (triedPorts found.reached).mpr found.within⟩, ?_⟩
      simpa using found.before
  failed := by
    rw [choosePort, candidates, List.find?_range'_eq_none]
    constructor
    · intro none port reached within
      simpa using none port reached ((triedPorts reached).mpr within)
    · intro none port reached inside
      simpa using none port reached ((triedPorts reached).mp inside)

theorem firstFreeBelow (elsewhere : ¬FirstFree canBind first lastPort lastPort) (port : Nat) :
    FirstFree canBind first (lastPort - 1) port ↔ FirstFree canBind first lastPort port := by
  refine ⟨fun found => found.widen (Nat.sub_le ..), fun found => { found with within := ?_ }⟩
  have different : port ≠ lastPort := by
    rintro rfl
    exact elsewhere found
  exact Nat.le_sub_one_of_lt (Nat.lt_of_le_of_ne found.within different)

theorem noneFreeBelow (exist : first ≤ lastPort)
    (elsewhere : ¬FirstFree canBind first lastPort lastPort) :
    NoneFree canBind first (lastPort - 1) ↔ NoneFree canBind first lastPort := by
  refine ⟨fun none => ?_, fun none port reached within =>
    none port reached (Nat.le_trans within (Nat.sub_le ..))⟩
  have before : ∀ port, first ≤ port → port < lastPort → canBind port = false :=
    fun port reached below => none port reached (Nat.le_sub_one_of_lt below)
  have taken : canBind lastPort = false := by
    rw [Bool.eq_false_iff]
    intro free
    exact elsewhere ⟨exist, Nat.le_refl _, free, before⟩
  intro port reached within
  rcases Nat.lt_or_eq_of_le within with below | rfl
  · exact before port reached below
  · exact taken

/-- The choice is the one that was to be made, but for one case. -/
theorem choosePortOffered (canBind : Nat → Bool) (exist : first ≤ lastPort) :
    Chooses canBind first (lastOffered first) (choosePort canBind first) ↔
      ¬(lastPort ≤ first + 9 ∧ FirstFree canBind first lastPort lastPort) := by
  have tried := choosePortTried canBind first
  constructor
  · rintro chooses ⟨high, found⟩
    rw [(triedBelow high).2] at chooses
    rw [(triedBelow high).1] at tried
    have within := ((tried.bound lastPort).mp ((chooses.bound lastPort).mpr found)).within
    exact absurd within (by decide)
  · intro other
    rcases Nat.lt_or_ge (first + 9) lastPort with low | high
    · rwa [← triedOffered low]
    · have elsewhere := not_and.mp other high
      rw [(triedBelow high).1] at tried
      rw [(triedBelow high).2]
      exact ⟨fun port => (tried.bound port).trans (firstFreeBelow elsewhere port),
        tried.failed.trans (noneFreeBelow exist elsewhere)⟩

end Dashboard

namespace Cli

open Dashboard

theorem serveFails (host : Host) {options : RunOptions} (exec : Executor Builtin)
    (serves : options.serve = true) (failure : Failure) :
    serve host options exec = .error failure ↔
      choosePort host.canBind options.port = none ∧ failure = .noPort options.port := by
  simp only [serve, serves, Bool.not_true, Bool.false_eq_true, if_false]
  cases choosePort host.canBind options.port with
  | none => simpa using eq_comm
  | some port => simp

/-- The dashboard takes the first free port of those that are tried, and the run fails if there is
none. These are the ten ports from the first one on, as far as they exist, but for the last port. -/
theorem servePorts (host : Host) (options : RunOptions) (exec : Executor Builtin)
    (serves : options.serve = true) (exist : options.port ≤ lastPort) :
    Chooses host.canBind options.port (lastTried options.port)
      (choosePort host.canBind options.port) ∧
    (∀ failure, serve host options exec = .error failure ↔
      NoneFree host.canBind options.port (lastTried options.port) ∧
        failure = .noPort options.port) ∧
    (Failure.noPort options.port).message =
      s!"could not bind the dashboard to any port from {options.port}" ∧
    (Chooses host.canBind options.port (lastOffered options.port)
        (choosePort host.canBind options.port) ↔
      ¬(lastPort ≤ options.port + 9 ∧
        FirstFree host.canBind options.port lastPort lastPort)) := by
  have tried := choosePortTried host.canBind options.port
  refine ⟨tried, fun failure => ?_, rfl, choosePortOffered host.canBind exist⟩
  rw [serveFails host exec serves, tried.failed]

theorem servePortsBusy :
    let host : Host := { canBind := fun port => 65534 ≤ port }
    let options : RunOptions := { script := "in", dryRun := true, serve := true, port := 65530 }
    options.serve = true ∧ options.port ≤ lastPort ∧
      choosePort host.canBind options.port = some 65534 ∧
      Chooses host.canBind options.port (lastOffered options.port)
        (choosePort host.canBind options.port) := by
  intro host options
  obtain ⟨tried, -, -, offered⟩ :=
    servePorts host options { registry := .builtins, context := {} } rfl (by decide)
  have taken : ∀ earlier < 65534, host.canBind earlier = false := by simp [host]
  refine ⟨rfl, by decide, (tried.bound 65534).mpr ?_, offered.mpr ?_⟩
  · exact ⟨by decide, by decide, rfl, fun earlier _ before => taken earlier before⟩
  · rintro ⟨-, found⟩
    exact absurd (found.before 65534 (by decide) (by decide)) (by decide)

theorem lastPortUntried : ¬ ∀ (canBind : Nat → Bool) (first : Nat), 1 ≤ first → first ≤ lastPort →
    Chooses canBind first (lastOffered first) (choosePort canBind first) := by
  intro chosen
  have last := chosen (fun _ => true) 65535 (by decide) (by decide)
  exact (choosePortOffered _ (by decide)).mp last
    ⟨by decide, by decide, by decide, rfl, fun earlier reached before =>
      absurd before (Nat.not_lt_of_le reached)⟩

end Cli

end PageScript
