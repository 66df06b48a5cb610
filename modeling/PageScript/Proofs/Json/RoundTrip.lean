import PageScript.Proofs.Json.Nesting
import PageScript.Proofs.Json.Quotation
import PageScript.Proofs.Json.Tail

/-! Reading what was written, compact or indented: the value with the members of its objects in
order, as far as its numbers read back and its nesting is within the budget. -/
namespace PageScript.Json

/-! ### Parts of the text -/

theorem skipSpaces (count : Nat) (cs : List Char) :
    skipSpace (List.replicate count ' ' ++ cs) = skipSpace cs := by
  induction count with
  | zero => rfl
  | succ count ih => exact ih

theorem skipGap (indent : Indent) (cs : List Char) :
    skipSpace (indent.gap ++ cs) = skipSpace cs := by
  cases indent with
  | none => rfl
  | some depth => exact skipSpaces (2 * depth) cs

theorem skipNothing {c : Char} (cs : List Char) (plain : isSpace c = false) :
    skipSpace (c :: cs) = c :: cs :=
  List.dropWhile_cons_of_neg (by simp [plain])

theorem deeperColon (indent : Indent) : indent.deeper.colon = indent.colon := by
  cases indent <;> rfl

theorem readColonWritten (indent : Indent) (cs : List Char) :
    readColon (indent.colon ++ cs) = .ok (indent.colon.tail ++ cs) := by
  cases indent <;> rfl

theorem skipColon (indent : Indent) (cs : List Char) :
    skipSpace (indent.colon.tail ++ cs) = skipSpace cs := by
  cases indent <;> rfl

theorem readKeyWritten (indent : Indent) (key : String) (rest : List Char) :
    readKey (indent.gap ++ (quoted key ++ rest)) = .ok (key, rest) := by
  rw [readKey, skipGap, quotedBegins, skipNothing _ (by decide)]
  simp only [if_true]
  exact readStringWritten key rest

theorem separatorItems (indent outer : Indent) (items : List Json) (rest : List Char) :
    readSeparator ']' (writeItems indent items ++ (outer.gap ++ ']' :: rest)) = .ok (match items with
      | [] => .closed rest
      | _ :: _ => .more ((writeItems indent items).tail ++ (outer.gap ++ ']' :: rest))) := by
  cases items with
  | nil =>
    rw [writeItems, List.nil_append, readSeparator, skipGap]
    rfl
  | cons item items => rfl

theorem separatorMembers (indent outer : Indent) (members : List (String × Json))
    (rest : List Char) :
    readSeparator '}' (writeMembers indent members ++ (outer.gap ++ '}' :: rest)) =
      .ok (match members with
      | [] => .closed rest
      | _ :: _ => .more ((writeMembers indent members).tail ++ (outer.gap ++ '}' :: rest))) := by
  cases members with
  | nil =>
    rw [writeMembers, List.nil_append, readSeparator, skipGap]
    rfl
  | cons member members => rfl

theorem stopsGap (outer : Indent) {bracket : Char} (rest : List Char)
    (known : bracket = ']' ∨ bracket = '}') : Stops (outer.gap ++ bracket :: rest) := by
  cases outer with
  | none => rcases known with rfl | rfl <;> exact stopsCons rest
  | some depth => exact stopsCons _

theorem stopsItems (indent outer : Indent) (items : List Json) (rest : List Char) :
    Stops (writeItems indent items ++ (outer.gap ++ ']' :: rest)) := by
  cases items with
  | nil =>
    rw [writeItems, List.nil_append]
    exact stopsGap outer rest (.inl rfl)
  | cons item items =>
    rw [writeItems]
    exact stopsCons _

theorem stopsMembers (indent outer : Indent) (members : List (String × Json)) (rest : List Char) :
    Stops (writeMembers indent members ++ (outer.gap ++ '}' :: rest)) := by
  cases members with
  | nil =>
    rw [writeMembers, List.nil_append]
    exact stopsGap outer rest (.inr rfl)
  | cons member members =>
    rw [writeMembers]
    exact stopsCons _

/-! ### Where a value begins -/

structure Begins (c : Char) : Prop where
  plain : isSpace c = false
  notArrayEnd : c ≠ ']'
  notObjectEnd : c ≠ '}'

theorem numberBegins {n : Number} (reads : n.ReadsBack) :
    ∃ c text, n.write = c :: text ∧ startsNumber c = true := by
  unfold Number.ReadsBack at reads
  cases written : n.write with
  | nil =>
    rw [written] at reads
    cases reads
  | cons c text =>
    refine ⟨c, text, rfl, ?_⟩
    rw [written] at reads
    by_cases minus : c = '-'
    · subst minus
      rfl
    by_cases zero : c = '0'
    · subst zero
      rfl
    have plain : Number.read (c :: text) = Number.readUnsigned false (c :: text) := by
      simp [Number.read, minus]
    rw [plain, Number.readUnsignedPlain false zero] at reads
    split at reads
    · rename_i digit
      rw [startsNumber, digit, Bool.or_true]
    · cases reads

theorem startsBegins {c : Char} (starts : startsNumber c = true) : Begins c := by
  refine ⟨?_, ?_, ?_⟩
  · rw [Bool.eq_false_iff]
    intro space
    simp only [isSpace, Bool.or_eq_true, decide_eq_true_eq] at space
    rcases space with ((rfl | rfl) | rfl) | rfl <;> exact absurd starts (by decide)
  · rintro rfl
    exact absurd starts (by decide)
  · rintro rfl
    exact absurd starts (by decide)

theorem valueBegins (indent : Indent) {value : Json} (reads : value.NumbersReadBack) :
    ∃ c text, write indent value = c :: text ∧ Begins c := by
  cases value with
  | null => exact ⟨'n', _, rfl, by constructor <;> decide⟩
  | bool value => cases value <;> exact ⟨_, _, rfl, by constructor <;> decide⟩
  | number n =>
    obtain ⟨c, text, written, starts⟩ := numberBegins reads
    exact ⟨c, text, written, startsBegins starts⟩
  | string s => exact ⟨'"', _, rfl, by constructor <;> decide⟩
  | array items => cases items <;> exact ⟨'[', _, rfl, by constructor <;> decide⟩
  | object members => cases members <;> exact ⟨'{', _, rfl, by constructor <;> decide⟩

theorem writeLength (indent : Indent) {value : Json} (reads : value.NumbersReadBack) :
    1 ≤ (write indent value).length := by
  obtain ⟨c, text, written, -⟩ := valueBegins indent reads
  rw [written]
  exact Nat.le_add_left 1 text.length

/-! ### Values -/

theorem readValueFrom {a b : List Char} (same : skipSpace a = skipSpace b) (n : Nat)
    (budget : Budget) : readValue n budget a = readValue n budget b := by
  cases n with
  | zero => rfl
  | succ n => rw [readValue, readValue, same]

theorem readNumberWritten {x : Number} (reads : x.ReadsBack) (n : Nat) (budget : Budget)
    {rest : List Char} (stops : Stops rest) :
    readValue (n + 1) budget (x.write ++ rest) = .ok (.number x, rest) := by
  obtain ⟨c, text, written, starts⟩ := numberBegins reads
  have read := Number.readNumberTail stops reads
  have other (d : Char) (no : startsNumber d = false) : c ≠ d := by
    rintro rfl
    rw [starts] at no
    cases no
  rw [written, List.cons_append] at read ⊢
  rw [readValue, skipNothing _ (startsBegins starts).plain]
  simp only [other 'n' (by decide), other 't' (by decide), other 'f' (by decide),
    other '"' (by decide), starts, if_false, if_true, read]
  rfl

theorem opened (bracket : Char) (indent : Indent) {text : List Char} {c : Char}
    (begins : text.head? = some c) (plain : isSpace c = false) (other : c ≠ bracket) :
    closedAtOnce? bracket (indent.gap ++ text) = none := by
  cases text with
  | nil => cases begins
  | cons d text =>
    cases begins
    rw [closedAtOnce?, skipGap, skipNothing text plain]
    exact if_neg other

theorem writeArray (indent : Indent) (item : Json) (items : List Json) (rest : List Char) :
    write indent (.array (item :: items)) ++ rest =
      '[' :: ((writeItems indent.deeper (item :: items)).tail ++ (indent.gap ++ ']' :: rest)) := by
  simp [write, writeItems]

theorem itemsOpened (indent : Indent) {item : Json} (items : List Json) (rest : List Char)
    (reads : item.NumbersReadBack) :
    closedAtOnce? ']' ((writeItems indent (item :: items)).tail ++ rest) = none := by
  obtain ⟨c, text, written, begins⟩ := valueBegins indent reads
  simp only [writeItems, written, List.cons_append, List.append_assoc, List.tail_cons]
  exact opened ']' indent rfl begins.plain begins.notArrayEnd

theorem writeObject (indent : Indent) (member : String × Json) (members : List (String × Json))
    (rest : List Char) :
    write indent (.object (member :: members)) ++ rest =
      '{' :: ((writeMembers indent.deeper (member :: members)).tail ++
        (indent.gap ++ '}' :: rest)) := by
  simp [write, writeMembers, deeperColon]

theorem membersOpened (indent : Indent) (member : String × Json) (members : List (String × Json))
    (rest : List Char) :
    closedAtOnce? '}' ((writeMembers indent (member :: members)).tail ++ rest) = none := by
  simp only [writeMembers, List.cons_append, List.append_assoc, List.tail_cons]
  exact opened '}' indent rfl (by decide) (by decide)

theorem valueArray {n : Nat} {budget : Budget} {text rest : List Char} {items : List Json}
    (filled : closedAtOnce? ']' text = none) (read : readItems n budget text = .ok (items, rest)) :
    readValue (n + 1) (budget + 1) ('[' :: text) = .ok (.array items, rest) := by
  rw [readValue, skipNothing _ (by decide)]
  simp only [Char.reduceEq, if_false, if_true, show startsNumber '[' = false by decide,
    Bool.false_eq_true, filled, read]
  rfl

theorem valueObject {n : Nat} {budget : Budget} {text rest : List Char}
    {members : List (String × Json)} (filled : closedAtOnce? '}' text = none)
    (read : readMembers n budget text = .ok (members, rest)) :
    readValue (n + 1) (budget + 1) ('{' :: text) = .ok (.object (Members.ofList members), rest) := by
  rw [readValue, skipNothing _ (by decide)]
  simp only [Char.reduceEq, if_false, if_true, show startsNumber '{' = false by decide,
    Bool.false_eq_true, filled, read]
  rfl

/-- After an item the list is closed, or the next item stands behind a comma. -/
theorem readItemsStep {n : Nat} {budget : Budget} {indent outer : Indent}
    {cs rest : List Char} {item : Json} {items others : List Json}
    (read : readValue n budget cs =
      .ok (item, writeItems indent items ++ (outer.gap ++ ']' :: rest)))
    (next : items ≠ [] → readItems n budget ((writeItems indent items).tail ++
      (outer.gap ++ ']' :: rest)) = .ok (others, rest))
    (last : items = [] → others = []) :
    readItems (n + 1) budget cs = .ok (item :: others, rest) := by
  rw [readItems, read, Result.okBind]
  simp only [separatorItems, Result.okBind]
  cases items with
  | nil => rw [last rfl]
  | cons item items => simp only [next (List.cons_ne_nil _ _), Result.okBind]

theorem readMembersStep {n : Nat} {budget : Budget} {indent outer : Indent}
    {text rest : List Char} {key : String} {value : Json} {members others : List (String × Json)}
    (read : readValue n budget text =
      .ok (value, writeMembers indent members ++ (outer.gap ++ '}' :: rest)))
    (next : members ≠ [] → readMembers n budget ((writeMembers indent members).tail ++
      (outer.gap ++ '}' :: rest)) = .ok (others, rest))
    (last : members = [] → others = []) :
    readMembers (n + 1) budget (indent.gap ++ (quoted key ++ (indent.colon ++ text))) =
      .ok ((key, value) :: others, rest) := by
  rw [← readValueFrom (skipColon indent text)] at read
  rw [readMembers, readKeyWritten, Result.okBind]
  simp only [readColonWritten, Result.okBind, read, separatorMembers]
  cases members with
  | nil => rw [last rfl]
  | cons member members => simp only [next (List.cons_ne_nil _ _), Result.okBind]

-- Each of the three goes by the shape of what was written. A reader goes one step down only after it
-- has taken a character, so the steps last as long as the text does.
mutual

theorem readValueWritten : ∀ (value : Json) (indent : Indent) (n : Nat) (budget : Budget)
    (rest : List Char), value.NumbersReadBack → value.depth ≤ budget →
    (write indent value).length ≤ n → Stops rest →
    readValue n budget (write indent value ++ rest) = .ok (value.sorted, rest)
  | .null, indent, n + 1, budget, rest, _, _, _, _ => rfl
  | .bool true, indent, n + 1, budget, rest, _, _, _, _ => rfl
  | .bool false, indent, n + 1, budget, rest, _, _, _, _ => rfl
  | .number x, indent, n + 1, budget, rest, reads, _, _, stops =>
    readNumberWritten reads n budget stops
  | .string s, indent, n + 1, budget, rest, _, _, _, _ => by
    have read := readStringWritten s rest
    rw [write, quotedBegins, readValue, skipNothing _ (by decide)]
    simp only [Char.reduceEq, if_false, if_true, read]
    rfl
  | .array [], indent, n + 1, budget + 1, rest, _, deep, _, _ => rfl
  | .array (item :: items), indent, n + 1, budget + 1, rest, reads, deep, enough, stops => by
    have lengths := congrArg List.length (writeArray indent item items [])
    simp only [List.length_append, List.length_cons, List.length_nil] at lengths
    rw [writeArray]
    refine valueArray (itemsOpened indent.deeper items _ reads.2.1) ?_
    exact readItemsWritten (item :: items) indent.deeper indent n budget rest reads.2
      (Nat.le_of_succ_le_succ deep) (List.cons_ne_nil _ _) (by omega)
  | .object [], indent, n + 1, budget + 1, rest, _, deep, _, _ => rfl
  | .object (member :: members), indent, n + 1, budget + 1, rest, reads, deep, enough, stops => by
    have lengths := congrArg List.length (writeObject indent member members [])
    simp only [List.length_append, List.length_cons, List.length_nil] at lengths
    rw [writeObject]
    refine valueObject (membersOpened indent.deeper member members _) ?_
    exact readMembersWritten (member :: members) indent.deeper indent n budget rest reads.2
      (Nat.le_of_succ_le_succ deep) (List.cons_ne_nil _ _) (by omega)
  | .array items, _, n + 1, 0, _, _, deep, _, _ => nomatch deep
  | .object members, _, n + 1, 0, _, _, deep, _, _ => nomatch deep
  | value, indent, 0, budget, rest, reads, _, enough, _ => by
    have some := writeLength indent reads
    omega

theorem readItemsWritten : ∀ (items : List Json) (indent outer : Indent) (n : Nat)
    (budget : Budget) (rest : List Char), EverywhereItems ReadsBackIfNumber items →
    depthItems items ≤ budget → items ≠ [] → (writeItems indent items).tail.length < n →
    readItems n budget ((writeItems indent items).tail ++ (outer.gap ++ ']' :: rest)) =
      .ok (sortedItems items, rest)
  | [], _, _, _, _, _, _, _, filled, _ => absurd rfl filled
  | item :: items, indent, outer, n + 1, budget, rest, reads, deep, _, enough => by
    have lengths : (writeItems indent (item :: items)).tail.length =
        indent.gap.length + ((write indent item).length + (writeItems indent items).length) := by
      simp [writeItems]
    have some := writeLength indent reads.1
    obtain ⟨here, below⟩ := Nat.max_le.mp deep
    have read := readValueWritten item indent n budget
      (writeItems indent items ++ (outer.gap ++ ']' :: rest)) reads.1 here (by omega)
      (stopsItems indent outer items rest)
    simp only [writeItems, List.cons_append, List.append_assoc, List.tail_cons]
    rw [← readValueFrom (skipGap indent _)] at read
    refine readItemsStep read (fun filled => ?_) (congrArg sortedItems)
    exact readItemsWritten items indent outer n budget rest reads.2 below filled
      (by rw [List.length_tail]; omega)

theorem readMembersWritten : ∀ (members : List (String × Json)) (indent outer : Indent) (n : Nat)
    (budget : Budget) (rest : List Char), EverywhereMembers ReadsBackIfNumber members →
    depthMembers members ≤ budget → members ≠ [] →
    (writeMembers indent members).tail.length < n →
    readMembers n budget ((writeMembers indent members).tail ++ (outer.gap ++ '}' :: rest)) =
      .ok (sortedMembers members, rest)
  | [], _, _, _, _, _, _, _, filled, _ => absurd rfl filled
  | (key, value) :: members, indent, outer, n + 1, budget, rest, reads, deep, _, enough => by
    have lengths : (writeMembers indent ((key, value) :: members)).tail.length =
        indent.gap.length + ((quoted key).length + (indent.colon.length +
          ((write indent value).length + (writeMembers indent members).length))) := by
      simp [writeMembers]
    have some := writeLength indent reads.1
    obtain ⟨here, below⟩ := Nat.max_le.mp deep
    have read := readValueWritten value indent n budget
      (writeMembers indent members ++ (outer.gap ++ '}' :: rest)) reads.1 here (by omega)
      (stopsMembers indent outer members rest)
    simp only [writeMembers, List.cons_append, List.append_assoc, List.tail_cons]
    refine readMembersStep read (fun filled => ?_) (congrArg sortedMembers)
    exact readMembersWritten members indent outer n budget rest reads.2 below filled
      (by rw [List.length_tail]; omega)

end

theorem readWritten (indent : Indent) {value : Json} (reads : value.NumbersReadBack)
    (deep : value.depth ≤ fullBudget) :
    Json.read (String.ofList (write indent value)) = .ok value.sorted := by
  have found := readValueWritten value indent (steps (write indent value)) fullBudget [] reads deep
    (by unfold steps; omega) stopsNil
  rw [List.append_nil] at found
  simp only [Json.read, String.toList_ofList, found, Result.okBind]
  rfl

end PageScript.Json
