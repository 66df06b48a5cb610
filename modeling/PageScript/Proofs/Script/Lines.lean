import PageScript.Proofs.Script.Words

/-! A text in line syntax against its parts. What its lines give stands one after the other, each
fault under the number of its line, so a text that ends a line can be put before another one and the
two are read as before. -/
namespace PageScript

def LineError.later (lines : Nat) (e : LineError) : LineError := { e with line := e.line + lines }

namespace LineScript

def breaks (text : String) : Nat := text.toList.count '\n'

def faultsOf : Except (List LineError) Script → List LineError
  | .ok _ => []
  | .error errors => errors

/-- What is read from two texts of which one stands `lines` lines below the beginning of the other:
the records of both, or the faults of both. -/
def joined (lines : Nat) (first second : Except (List LineError) Script) :
    Except (List LineError) Script :=
  match first, second with
  | .ok first, .ok second => .ok (.ofRecords (first.commands ++ second.commands))
  | first, second => .error (faultsOf first ++ (faultsOf second).map (LineError.later lines))

/-! ### Lines read one after the other -/

def concluded (found : List Record × List LineError) : Except (List LineError) Script :=
  match found with
  | (records, []) => .ok (.ofRecords records)
  | (_, errors) => .error errors

theorem readLinesAppend (number : Nat) (first second : List (List Char)) :
    readLines number (first ++ second) =
      ((readLines number first).1 ++ (readLines (number + first.length) second).1,
        (readLines number first).2 ++ (readLines (number + first.length) second).2) := by
  induction first generalizing number with
  | nil => rfl
  | cons line rest ih =>
    have place : number + 1 + rest.length = number + (line :: rest).length := by
      rw [List.length_cons]
      omega
    rw [List.cons_append, readLines, readLines, ih, place]
    cases readLine line with
    | error fault => rfl
    | ok found => cases found <;> rfl

theorem readLinesLater (number lines : Nat) (ls : List (List Char)) :
    readLines (number + lines) ls =
      ((readLines number ls).1, (readLines number ls).2.map (LineError.later lines)) := by
  induction ls generalizing number with
  | nil => rfl
  | cons line rest ih =>
    have place : number + lines + 1 = number + 1 + lines := by omega
    rw [readLines, readLines, place, ih]
    cases readLine line with
    | error fault => rfl
    | ok found => cases found <;> rfl

theorem concludedAppend (lines : Nat) (first second : List Record × List LineError) :
    concluded (first.1 ++ second.1, first.2 ++ second.2.map (LineError.later lines)) =
      joined lines (concluded first) (concluded second) := by
  obtain ⟨firstRecords, _ | ⟨e, es⟩⟩ := first
  · obtain ⟨secondRecords, _ | ⟨d, ds⟩⟩ := second <;> rfl
  · obtain ⟨secondRecords, _ | ⟨d, ds⟩⟩ := second <;> simp [concluded, joined, faultsOf]

/-! ### Lines of a text -/

theorem readEmptyLine : readLine [] = .ok none := rfl

theorem linesSplit (cs : List Char) :
    cs.splitOn '\n' = lines cs ∨ cs.splitOn '\n' = lines cs ++ [[]] := by
  -- The second holds where the text is empty or has a line feed at its end.
  induction cs with
  | nil => exact .inr rfl
  | cons c rest ih =>
    rw [List.splitOn_cons_eq_if_modifyHead, lines]
    by_cases ends : c = '\n'
    · subst ends
      rcases ih with same | more
      · exact .inl (by simp [same])
      · exact .inr (by simp [more])
    · rw [if_neg ends, if_neg (by simpa using ends)]
      cases read : lines rest with
      | nil =>
        rw [read] at ih
        rcases ih with same | more
        · exact absurd same (List.splitOn_ne_nil '\n' rest)
        · exact .inl (by simp [more])
      | cons line others =>
        rw [read] at ih
        rcases ih with same | more
        · exact .inl (by simp [same])
        · exact .inr (by simp [more])

theorem readLinesSplit (number : Nat) (cs : List Char) :
    readLines number (lines cs) = readLines number (cs.splitOn '\n') := by
  rcases linesSplit cs with same | more
  · rw [same]
  · rw [more, readLinesAppend, readLines, readLines, readEmptyLine]
    simp

theorem splitLength (cs : List Char) : (cs.splitOn '\n').length = cs.count '\n' + 1 := by
  induction cs with
  | nil => rfl
  | cons c rest ih =>
    rw [List.splitOn_cons_eq_if_modifyHead, List.count_cons]
    split
    · rw [List.length_cons, ih]
    · rw [List.length_modifyHead, ih]

theorem parseSplit (text : String) :
    parse text = concluded (readLines 1 (text.toList.splitOn '\n')) := by
  rw [← readLinesSplit]
  rfl

/-- Any text may follow behind a line feed. -/
theorem parseBehind (a b : String) :
    parse (a ++ "\n" ++ b) = joined (breaks a + 1) (parse a) (parse b) := by
  have split : (a ++ "\n" ++ b).toList.splitOn '\n' =
      a.toList.splitOn '\n' ++ b.toList.splitOn '\n' := by
    rw [← List.splitOn_append_cons_self]
    simp
  rw [parseSplit, split, readLinesAppend, splitLength, readLinesLater, parseSplit a, parseSplit b]
  exact concludedAppend (breaks a + 1) (readLines 1 (a.toList.splitOn '\n'))
    (readLines 1 (b.toList.splitOn '\n'))

/-- A line with no word before its comment: blank, or with nothing there but quotes that hold
nothing. -/
structure Silent (line : String) : Prop where
  unbroken : '\n' ∉ line.toList
  wordless : Wordless (instruction line.toList)

theorem Silent.ofBlank {line : String} (unbroken : '\n' ∉ line.toList)
    (blank : ∀ c ∈ line.toList.takeWhile (· ≠ '#'), Text.isBlank c = true) : Silent line :=
  ⟨unbroken, blankWordless fun c inside => blank c (Text.trimMember inside)⟩

theorem singleLine (line : List Char) :
    readLines 1 [line] = match readLine line with
      | .ok none => ([], [])
      | .ok (some record) => ([record], [])
      | .error fault => ([], [⟨1, fault⟩]) := by
  cases read : readLine line with
  | error fault => simp [readLines, read]
  | ok found => cases found <;> simp [readLines, read]

theorem readWordsNone (words : List String) : readWords words = .ok none ↔ words = [] := by
  have never (result : Except LineFault Record) : result.map some ≠ .ok none := by
    cases result <;> simp [Except.map]
  cases words with
  | nil => simp [readWords]
  | cons word operands =>
    simp only [readWords, reduceCtorEq, iff_false]
    split
    · exact never _
    · split
      · exact never _
      · split
        · exact never _
        · exact nofun

theorem readLineNone (line : List Char) :
    readLine line = .ok none ↔ Wordless (instruction line) := by
  rw [readLine, readWordsNone, words, List.map_eq_nil_iff, wordsNone]

theorem splitUnbroken (cs : List Char) : ∀ line ∈ cs.splitOn '\n', '\n' ∉ line := by
  induction cs with
  | nil => simp
  | cons c rest ih =>
    rw [List.splitOn_cons_eq_if_modifyHead]
    split
    · exact List.forall_mem_cons.mpr ⟨List.not_mem_nil, ih⟩
    · rename_i ends
      cases pieces : rest.splitOn '\n' with
      | nil => exact absurd pieces (List.splitOn_ne_nil '\n' rest)
      | cons line others =>
        rw [pieces] at ih
        obtain ⟨here, later⟩ := List.forall_mem_cons.mp ih
        refine List.forall_mem_cons.mpr ⟨fun inside => ?_, later⟩
        rcases List.mem_cons.mp inside with rfl | inside
        · exact ends (beq_self_eq_true _)
        · exact here inside

end LineScript

end PageScript
