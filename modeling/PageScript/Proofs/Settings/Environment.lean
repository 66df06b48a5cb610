import PageScript.Proofs.Basic
import PageScript.Settings.Environment

/-! What the environment may say, and which variable is named where it says something else. -/
namespace PageScript

/-! ### Numbers below a bound -/

def Digits (bound : Nat) (digits : List Char) (n : Nat) : Prop :=
  digits ≠ [] ∧ (∀ c ∈ digits, isDigit c = true) ∧ digitsValue digits = n ∧ n < bound

/-- The text of a number below a bound: digits, and a plus sign before them if wanted. -/
inductive Unsigned (bound : Nat) : List Char → Nat → Prop where
  | plain {digits : List Char} {n : Nat} : Digits bound digits n → Unsigned bound digits n
  | plus {digits : List Char} {n : Nat} : Digits bound digits n → Unsigned bound ('+' :: digits) n

section
variable {bound n m : Nat} {digits text : List Char}

theorem digitsAbove (digits : List Char) (n : Nat) :
    n ≤ digits.foldl (fun n c => 10 * n + digitValue c) n := by
  induction digits generalizing n with
  | nil => exact Nat.le_refl n
  | cons c rest ih =>
    have here : n ≤ 10 * n + digitValue c := by omega
    exact Nat.le_trans here (ih _)

theorem boundedDigitsOk (start : n < bound) : boundedDigits bound n digits = .ok m ↔
    (∀ c ∈ digits, isDigit c = true) ∧
      digits.foldl (fun n c => 10 * n + digitValue c) n = m ∧ m < bound := by
  induction digits generalizing n with
  | nil =>
    rw [boundedDigits, Except.ok.injEq, List.foldl_nil]
    constructor
    · rintro rfl
      exact ⟨nofun, rfl, start⟩
    · exact fun same => same.2.1
  | cons c rest ih =>
    rw [boundedDigits, List.forall_mem_cons, List.foldl_cons]
    split
    · rename_i other
      rw [Bool.not_eq_true'] at other
      exact ⟨nofun, fun digits => absurd digits.1.1 (Bool.eq_false_iff.mp other)⟩
    rename_i digit
    rw [Bool.not_eq_true', Bool.not_eq_false] at digit
    split
    · rename_i large
      refine ⟨nofun, fun ⟨_, same, below⟩ => ?_⟩
      have above := digitsAbove rest (10 * n + digitValue c)
      omega
    · rename_i small
      rw [ih (Nat.lt_of_not_le small), and_iff_right digit]

theorem boundedDigitsFrom (positive : 0 < bound) (filled : digits ≠ []) :
    boundedDigits bound 0 digits = .ok n ↔ Digits bound digits n := by
  rw [boundedDigitsOk positive, Digits, and_iff_right filled, digitsValue]

theorem plusDigits : ¬ Digits bound ('+' :: digits) n :=
  fun number => absurd (number.2.1 '+' List.mem_cons_self) (by decide)

theorem unsignedPlus : Unsigned bound ('+' :: digits) n ↔ Digits bound digits n := by
  constructor
  · rintro (number | number)
    · exact absurd number plusDigits
    · exact number
  · exact .plus

theorem readBoundedOk (positive : 0 < bound) :
    readBounded bound text = .ok n ↔ Unsigned bound text n := by
  unfold readBounded
  split
  · constructor
    · nofun
    · rintro ⟨filled, -⟩
      exact absurd rfl filled
  · rw [unsignedPlus]
    exact ⟨nofun, fun number => absurd rfl number.1⟩
  · constructor
    · nofun
    · rintro ⟨-, digits, -⟩
      exact absurd (digits '-' List.mem_cons_self) (by decide)
  · rename_i digits more
    rw [unsignedPlus]
    exact boundedDigitsFrom positive fun none => more (none ▸ rfl)
  · rename_i filled _ _ unsigned
    rw [boundedDigitsFrom positive filled]
    constructor
    · exact .plain
    · rintro (number | number)
      · exact number
      · exact absurd rfl (unsigned _)

end

namespace EngineConfig

/-! ### What a variable says -/

def Unset (lookup : Lookup) (key : String) : Prop :=
  ∀ value, lookup key = some value → ∀ c ∈ value.toList, Text.isBlank c = true

def Holds (lookup : Lookup) (key value : String) : Prop :=
  lookup key = some value ∧ ∃ c ∈ value.toList, Text.isBlank c = false

def Milliseconds (value : String) (time : Nanoseconds) : Prop :=
  ∃ n, Unsigned (Nat.pow 2 64) (Text.trim value.toList) n ∧ time = .ofMillis n

/-- One of the words for yes or for no, its ASCII letters in any case. -/
def Answers (value : String) (answer : Bool) : Prop :=
  Text.lowerAscii (Text.trimmed value) ∈
    if answer then ["1", "true", "yes", "on"] else ["0", "false", "no", "off"]

/-- What a setting is by its own variable: what that says, or a default where it is not set. -/
inductive Taken {α : Type} (lookup : Lookup) (key : String) (Reads : String → α → Prop)
    (otherwise : α) : α → Prop where
  | unset : Unset lookup key → Taken lookup key Reads otherwise otherwise
  | set {value : String} {a : α} :
    Holds lookup key value → Reads value a → Taken lookup key Reads otherwise a

section
variable {lookup : Lookup} {key : String}

theorem setSome {value : String} : set? lookup key = some value ↔ Holds lookup key value := by
  rw [set?, Option.filter_eq_some_iff, Holds, isBlankText, Bool.not_eq_true', List.all_eq_false]
  simp only [Bool.not_eq_true]

theorem setNone : set? lookup key = none ↔ Unset lookup key := by
  rw [set?, Option.filter_eq_none_iff, Unset]
  simp [isBlankText]

theorem wordsApart : ∀ word ∈ ["1", "true", "yes", "on"], word ∉ ["0", "false", "no", "off"] := by
  decide

theorem flagOfSome {word : String} {answer : Bool} : flagOf? word = some answer ↔
    word ∈ if answer then ["1", "true", "yes", "on"] else ["0", "false", "no", "off"] := by
  unfold flagOf?
  simp only [List.contains_iff_mem]
  split
  · rename_i yes
    cases answer with
    | true => exact ⟨fun _ => yes, fun _ => rfl⟩
    | false => exact ⟨nofun, fun no => absurd no (wordsApart word yes)⟩
  rename_i notYes
  split
  · rename_i no
    cases answer with
    | true => exact ⟨nofun, fun yes => absurd yes notYes⟩
    | false => exact ⟨fun _ => no, fun _ => rfl⟩
  · rename_i notNo
    cases answer with
    | true => exact ⟨nofun, fun yes => absurd yes notYes⟩
    | false => exact ⟨nofun, fun no => absurd no notNo⟩

end

/-! ### Checks -/

/-- What is looked for in the environment: a wrong number, a wrong flag, or a zero. -/
inductive Check where
  | timing (key : String)
  | flag (key : String)
  | positive (key : String)

namespace Check

def Passes (lookup : Lookup) : Check → Prop
  | timing key => ∀ value, Holds lookup key value → ∃ time, Milliseconds value time
  | flag key => ∀ value, Holds lookup key value → ∃ answer, Answers value answer
  | positive key => ∀ value, Holds lookup key value → ¬ Milliseconds value 0

inductive Reports (lookup : Lookup) : Check → ConfigError → Prop where
  | timing {key value : String} {fault : NumeralFault} : Holds lookup key value →
    Reports lookup (.timing key) ⟨key, value, .numeral fault⟩
  | flag {key value : String} : Holds lookup key value →
    Reports lookup (.flag key) ⟨key, value, .notFlag⟩
  | positive {key : String} : Reports lookup (.positive key) ⟨key, "0", .zero⟩

end Check

variable {α β : Type} {lookup : Lookup}

/-- A reading that makes checks one after the other: all are passed, or the first that is not is
reported. -/
inductive Checked (lookup : Lookup) (Means : α → Prop) (checks : List Check) :
    Except ConfigError α → Prop where
  | passed {a : α} (all : ∀ check ∈ checks, check.Passes lookup) (means : Means a) :
    Checked lookup Means checks (.ok a)
  | stopped {before after : List Check} {check : Check} {error : ConfigError}
    (split : checks = before ++ check :: after) (earlier : ∀ check ∈ before, check.Passes lookup)
    (fails : ¬ check.Passes lookup) (reports : check.Reports lookup error) :
    Checked lookup Means checks (.error error)

theorem Checked.bind {First : α → Prop} {Means : β → Prop} {checks later : List Check}
    {x : Except ConfigError α} {f : α → Except ConfigError β}
    (first : Checked lookup First checks x)
    (next : ∀ a, First a → Checked lookup Means later (f a)) :
    Checked lookup Means (checks ++ later) (x >>= f) := by
  cases first with
  | @stopped before after check error split earlier fails reports =>
    have longer : checks ++ later = before ++ check :: (after ++ later) := by
      rw [split, List.append_assoc, List.cons_append]
    exact .stopped longer earlier fails reports
  | @passed a all means =>
    rw [Result.okBind]
    generalize f a = y, next a means = rest
    cases rest with
    | passed others means =>
      refine .passed (fun check member => ?_) means
      exact (List.mem_append.mp member).elim (all check) (others check)
    | @stopped before after check error split earlier fails reports =>
      have longer : checks ++ later = (checks ++ before) ++ check :: after := by
        rw [split, List.append_assoc]
      refine .stopped longer (fun other member => ?_) fails reports
      exact (List.mem_append.mp member).elim (all other) (earlier other)

theorem Checked.one {Means : α → Prop} {check : Check} {a : α} (passes : check.Passes lookup)
    (means : Means a) : Checked lookup Means [check] (.ok a) :=
  .passed (List.forall_mem_singleton.mpr passes) means

theorem Checked.after {Means : α → Prop} {check : Check} {checks : List Check}
    {result : Except ConfigError α} (passes : check.Passes lookup)
    (rest : Checked lookup Means checks result) : Checked lookup Means (check :: checks) result :=
  have first : Checked lookup (fun _ : Unit => True) [check] (.ok ()) := .one passes trivial
  first.bind fun _ _ => rest

theorem Checked.fault {Means : α → Prop} {check : Check} {error : ConfigError}
    (fails : ¬ check.Passes lookup) (reports : check.Reports lookup error) :
    Checked lookup Means [check] (.error error) :=
  .stopped (List.nil_append _).symm (List.forall_mem_nil _) fails reports

theorem Checked.accepts {Means : α → Prop} {checks : List Check} {result : Except ConfigError α}
    (checked : Checked lookup Means checks result) :
    (∃ a, result = .ok a) ↔ ∀ check ∈ checks, check.Passes lookup := by
  cases checked with
  | @passed a all => exact ⟨fun _ => all, fun _ => ⟨a, rfl⟩⟩
  | @stopped before after check error split earlier fails =>
    have among : check ∈ checks := split ▸ List.mem_append_right _ List.mem_cons_self
    exact ⟨nofun, fun all => absurd (all check among) fails⟩

section
variable {key : String}

theorem holdsUnique {value other : String} (holds : Holds lookup key value)
    (held : Holds lookup key other) : other = value :=
  Option.some.inj (held.1.symm.trans holds.1)

theorem unsetHolds {value : String} (unset : Unset lookup key) : ¬ Holds lookup key value := by
  rintro ⟨same, c, member, filled⟩
  rw [unset value same c member] at filled
  cases filled

section
variable {Reads : String → α → Prop} {check : Check} {value : String} {a otherwise : α}
  {error : ConfigError}

theorem unsetChecked
    (passes : check.Passes lookup ↔ ∀ value, Holds lookup key value → ∃ a, Reads value a)
    (unset : Unset lookup key) :
    Checked lookup (Taken lookup key Reads otherwise) [check] (.ok otherwise) := by
  have passes : check.Passes lookup :=
    passes.mpr fun value holds => absurd holds (unsetHolds unset)
  exact .one passes (.unset unset)

theorem readChecked
    (passes : check.Passes lookup ↔ ∀ value, Holds lookup key value → ∃ a, Reads value a)
    (holds : Holds lookup key value) (reads : Reads value a) :
    Checked lookup (Taken lookup key Reads otherwise) [check] (.ok a) := by
  have passes : check.Passes lookup :=
    passes.mpr fun other held => ⟨a, holdsUnique holds held ▸ reads⟩
  exact .one passes (.set holds reads)

theorem unreadChecked
    (passes : check.Passes lookup ↔ ∀ value, Holds lookup key value → ∃ a, Reads value a)
    (holds : Holds lookup key value) (unread : ∀ a, ¬ Reads value a)
    (reports : check.Reports lookup error) :
    Checked lookup (Taken lookup key Reads otherwise) [check] (.error error) := by
  have fails : ¬ check.Passes lookup := by
    intro all
    obtain ⟨a, reads⟩ := passes.mp all value holds
    exact unread a reads
  exact .fault fails reports

end

theorem readMilliseconds {value : String} {n : Nat} :
    readBounded (Nat.pow 2 64) (Text.trim value.toList) = .ok n ↔
      Unsigned (Nat.pow 2 64) (Text.trim value.toList) n := readBoundedOk (by decide)

theorem millisChecked (lookup : Lookup) (key : String) (otherwise : Nanoseconds) :
    Checked lookup (Taken lookup key Milliseconds otherwise) [.timing key]
      (millis lookup key otherwise) := by
  unfold millis
  split
  · exact unsetChecked .rfl (setNone.mp ‹_›)
  rename_i value held
  have holds := setSome.mp held
  split
  · rename_i n read
    exact readChecked .rfl holds ⟨n, readMilliseconds.mp read, rfl⟩
  · rename_i fault wrong
    refine unreadChecked .rfl holds (fun time reads => ?_) (.timing holds)
    obtain ⟨n, number, -⟩ := reads
    rw [readMilliseconds.mpr number] at wrong
    cases wrong

theorem flagChecked (lookup : Lookup) (key : String) (otherwise : Bool) :
    Checked lookup (Taken lookup key Answers otherwise) [.flag key] (flag lookup key otherwise) := by
  unfold flag
  split
  · exact unsetChecked .rfl (setNone.mp ‹_›)
  rename_i value held
  have holds := setSome.mp held
  split
  · rename_i answer read
    exact readChecked .rfl holds (flagOfSome.mp read)
  · rename_i wrong
    refine unreadChecked .rfl holds (fun answer reads => ?_) (.flag holds)
    rw [flagOfSome.mpr reads] at wrong
    cases wrong

end

theorem millisecondsUnique {value : String} {time other : Nanoseconds}
    (reads : Milliseconds value time) (again : Milliseconds value other) : other = time := by
  obtain ⟨n, number, rfl⟩ := reads
  obtain ⟨m, numeral, rfl⟩ := again
  have same := (readMilliseconds.mpr number).symm.trans (readMilliseconds.mpr numeral)
  rw [Except.ok.inj same]

theorem answersUnique {value : String} {answer other : Bool} (reads : Answers value answer)
    (again : Answers value other) : other = answer :=
  Option.some.inj ((flagOfSome.mpr again).symm.trans (flagOfSome.mpr reads))

theorem takenUnique {Reads : String → α → Prop} {key : String} {otherwise a b : α}
    (taken : Taken lookup key Reads otherwise a) (again : Taken lookup key Reads otherwise b)
    (unique : ∀ {value a b}, Reads value a → Reads value b → b = a) : b = a := by
  cases taken with
  | unset unset =>
    cases again with
    | unset => rfl
    | set holds => exact absurd holds (unsetHolds unset)
  | set holds reads =>
    cases again with
    | unset unset => exact absurd holds (unsetHolds unset)
    | set held anew => exact unique reads (holdsUnique holds held ▸ anew)

section
variable {key : String} {otherwise time : Nanoseconds}

theorem zeroFails (taken : Taken lookup key Milliseconds otherwise time) (nonzero : otherwise ≠ 0)
    (zero : time = 0) : ¬ (Check.positive key).Passes lookup := by
  intro passes
  cases taken with
  | unset => exact nonzero zero
  | set holds reads => exact passes _ holds (zero ▸ reads)

theorem positivePasses (taken : Taken lookup key Milliseconds otherwise time) (nonzero : time ≠ 0) :
    (Check.positive key).Passes lookup := by
  intro value holds zero
  cases taken with
  | unset unset => exact unsetHolds unset holds
  | set held reads =>
    rw [holdsUnique held holds] at zero
    exact nonzero (millisecondsUnique zero reads)

theorem takenAbove (taken : Taken lookup key Milliseconds otherwise time) (nonzero : time ≠ 0)
    (above : .ofMillis 1 ≤ otherwise) : .ofMillis 1 ≤ time := by
  cases taken with
  | unset => exact above
  | set _ reads =>
    obtain ⟨n, -, rfl⟩ := reads
    have counts : n ≠ 0 := by
      rintro rfl
      exact nonzero rfl
    exact Nat.mul_le_mul_right 1000000 (Nat.one_le_iff_ne_zero.mpr counts)

end

/-! ### All variables -/

structure Configured (lookup : Lookup) (defaultSettings : Option String) (config : EngineConfig) :
    Prop where
  loadTimeout : Taken lookup loadTimeoutKey Milliseconds WaitPolicy.interactive.loadTimeout
    config.wait.loadTimeout
  pollInterval : Taken lookup pollIntervalKey Milliseconds WaitPolicy.interactive.pollInterval
    config.wait.pollInterval
  settleDelay : Taken lookup settleKey Milliseconds WaitPolicy.interactive.settleDelay
    config.wait.settleDelay
  pausePoll : Taken lookup pausePollKey Milliseconds WaitPolicy.interactive.pausePoll
    config.wait.pausePoll
  drainEvents : Taken lookup drainEventsKey Answers WaitPolicy.interactive.drainEvents
    config.wait.drainEvents
  stopOnError : Taken lookup stopOnErrorKey Answers false config.stopOnError
  settingsPath : Taken lookup settingsKey (fun value path => path = some value) defaultSettings
    config.settingsPath
  positive : Nanoseconds.ofMillis 1 ≤ config.wait.pollInterval

def checks : List Check :=
  [.timing loadTimeoutKey, .timing pollIntervalKey, .timing settleKey, .timing pausePollKey,
   .flag drainEventsKey, .positive pollIntervalKey, .flag stopOnErrorKey]

theorem settingsTaken (lookup : Lookup) (defaultSettings : Option String) :
    Taken lookup settingsKey (fun value path => path = some value) defaultSettings
      ((set? lookup settingsKey).or defaultSettings) := by
  cases held : set? lookup settingsKey with
  | none => exact .unset (setNone.mp held)
  | some value => exact .set (setSome.mp held) rfl

theorem lookupChecked (lookup : Lookup) (defaultSettings : Option String) :
    Checked lookup (Configured lookup defaultSettings) checks (ofLookup lookup defaultSettings) := by
  unfold ofLookup
  refine (millisChecked lookup loadTimeoutKey _).bind fun loadTimeout loads => ?_
  refine (millisChecked lookup pollIntervalKey _).bind fun pollInterval polls => ?_
  refine (millisChecked lookup settleKey _).bind fun settleDelay settles => ?_
  refine (millisChecked lookup pausePollKey _).bind fun pausePoll pauses => ?_
  refine (flagChecked lookup drainEventsKey _).bind fun drainEvents drains => ?_
  dsimp only
  split
  · rename_i zero
    have fails := zeroFails polls (by decide) zero
    exact .stopped (List.nil_append _).symm (List.forall_mem_nil _) fails .positive
  rename_i counts
  refine Checked.after (positivePasses polls counts) ?_
  refine (flagChecked lookup stopOnErrorKey false).bind fun stopOnError stops => ?_
  exact .passed (List.forall_mem_nil _) {
    loadTimeout := loads
    pollInterval := polls
    settleDelay := settles
    pausePoll := pauses
    drainEvents := drains
    stopOnError := stops
    settingsPath := settingsTaken lookup defaultSettings
    positive := takenAbove polls counts (by decide) }

theorem configuredUnique {defaultSettings : Option String} {config other : EngineConfig}
    (configured : Configured lookup defaultSettings config)
    (again : Configured lookup defaultSettings other) : other = config := by
  have load := takenUnique configured.loadTimeout again.loadTimeout millisecondsUnique
  have poll := takenUnique configured.pollInterval again.pollInterval millisecondsUnique
  have settle := takenUnique configured.settleDelay again.settleDelay millisecondsUnique
  have pause := takenUnique configured.pausePoll again.pausePoll millisecondsUnique
  have drain := takenUnique configured.drainEvents again.drainEvents answersUnique
  have stop := takenUnique configured.stopOnError again.stopOnError answersUnique
  have settings := takenUnique configured.settingsPath again.settingsPath fun path same =>
    same.trans path.symm
  obtain ⟨⟨_, _, _, _, _⟩, _, _⟩ := config
  obtain ⟨⟨_, _, _, _, _⟩, _, _⟩ := other
  rw [EngineConfig.mk.injEq, WaitPolicy.mk.injEq]
  exact ⟨⟨poll, load, settle, pause, drain⟩, stop, settings⟩

def keys : List String :=
  [loadTimeoutKey, pollIntervalKey, settleKey, pausePollKey, drainEventsKey, stopOnErrorKey,
   settingsKey]

theorem setSame {other : Lookup} {key : String}
    (same : other key = lookup key ∨ Unset other key ∧ Unset lookup key) :
    set? other key = set? lookup key := by
  rcases same with same | ⟨first, second⟩
  · rw [set?, same, set?]
  · rw [setNone.mpr first, setNone.mpr second]

theorem millisSame {other : Lookup} {key : String} (same : set? other key = set? lookup key)
    (otherwise : Nanoseconds) : millis other key otherwise = millis lookup key otherwise := by
  rw [millis, same, millis]

theorem flagSame {other : Lookup} {key : String} (same : set? other key = set? lookup key)
    (otherwise : Bool) : flag other key otherwise = flag lookup key otherwise := by
  rw [flag, same, flag]

theorem lookupSame {other : Lookup} (same : ∀ key ∈ keys, set? other key = set? lookup key)
    (defaultSettings : Option String) :
    ofLookup other defaultSettings = ofLookup lookup defaultSettings := by
  simp only [keys, List.forall_mem_cons] at same
  obtain ⟨load, poll, settle, pause, drain, stop, settings, -⟩ := same
  unfold ofLookup
  rw [millisSame load, millisSame poll, millisSame settle, millisSame pause, flagSame drain,
    flagSame stop, settings]

/-- How the variables decide on a configuration; one that holds only blanks is as good as none. -/
structure Governed (lookup : Lookup) (defaultSettings : Option String) : Prop where
  only {other : Lookup} :
    (∀ key ∈ keys, other key = lookup key ∨ Unset other key ∧ Unset lookup key) →
      ofLookup other defaultSettings = ofLookup lookup defaultSettings
  accepted : (∃ config, ofLookup lookup defaultSettings = .ok config) ↔
    ∀ check ∈ checks, check.Passes lookup
  configured (config : EngineConfig) : ofLookup lookup defaultSettings = .ok config ↔
    (∀ check ∈ checks, check.Passes lookup) ∧ Configured lookup defaultSettings config
  refused {error : ConfigError} : ofLookup lookup defaultSettings = .error error →
    ∃ before check after, checks = before ++ check :: after ∧
      (∀ earlier ∈ before, earlier.Passes lookup) ∧ ¬ check.Passes lookup ∧
      check.Reports lookup error

theorem lookupGoverns (lookup : Lookup) (defaultSettings : Option String) :
    Governed lookup defaultSettings where
  only same := lookupSame (fun key member => setSame (same key member)) defaultSettings
  accepted := (lookupChecked lookup defaultSettings).accepts
  configured config := by
    have checked := lookupChecked lookup defaultSettings
    constructor
    · intro done
      rw [done] at checked
      cases checked with
      | passed all configured => exact ⟨all, configured⟩
    · rintro ⟨all, again⟩
      obtain ⟨found, done⟩ := checked.accepts.mpr all
      rw [done] at checked ⊢
      cases checked with
      | passed _ configured => rw [configuredUnique configured again]
  refused done := by
    have checked := lookupChecked lookup defaultSettings
    rw [done] at checked
    cases checked with
    | @stopped before after check _ split earlier fails reports =>
      exact ⟨before, check, after, split, earlier, fails, reports⟩

end EngineConfig

end PageScript
