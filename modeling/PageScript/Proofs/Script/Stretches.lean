import Mathlib.Algebra.Ring.Parity
import Mathlib.Data.List.SplitLengths
import PageScript.Proofs.Script.Words

/-! The words of a line by the places of their characters. A blank outside quotes is a gap. A line
falls into stretches, one up to each gap and one behind the last; what a stretch holds beside quotes
is a word, unless it is nothing. -/
namespace PageScript.LineScript

open Text (isBlank)

/-- An odd number of quotes before a place leaves one open there; one that is never closed holds all
that follows. -/
def quotedAt (cs : List Char) (place : Nat) : Bool := decide (Odd ((cs.take place).count '"'))

/-- The line without its quotes and without the blanks outside them, each character with its place
in the line. -/
def kept (cs : List Char) : List (Char × Nat) :=
  cs.zipIdx.filter fun (c, place) => Kept (quotedAt cs place) c

def Gap (cs : List Char) (place : Nat) : Prop :=
  ∃ c, cs[place]? = some c ∧ isBlank c = true ∧ quotedAt cs place = false

def Parted (cs : List Char) (first second : Nat) : Prop :=
  ∃ place, first < place ∧ place < second ∧ Gap cs place

def spell (share : List (Char × Nat)) : List Char := share.map Prod.fst

/-- The kept characters dealt out to words one after the other, to each as many as it is long. -/
def shares (cs : List Char) (words : List String) : List (List (Char × Nat)) :=
  (words.map String.length).splitLengths (kept cs)

variable {cs : List Char} {place first second : Nat} {c : Char} {a b : Char × Nat}
  {closed stretches : List (List (Char × Nat))} {run : List (Char × Nat)}

/-! ### One character further -/

theorem dropHere (here : cs[place]? = some c) : cs.drop place = c :: cs.drop (place + 1) := by
  obtain ⟨inside, rfl⟩ := List.getElem?_eq_some_iff.mp here
  exact List.drop_eq_getElem_cons inside

theorem quotedNext (here : cs[place]? = some c) :
    quotedAt cs (place + 1) = if c = '"' then !quotedAt cs place else quotedAt cs place := by
  rw [quotedAt, quotedAt, List.take_add_one, here, Option.toList_some, List.count_append,
    List.count_singleton]
  by_cases quote : c = '"'
  · simp only [quote, beq_self_eq_true, if_true, Nat.odd_add_one, decide_not]
  · simp [quote]

def keptBefore (cs : List Char) (place : Nat) : List (Char × Nat) :=
  (cs.take place).zipIdx.filter fun (c, place) => Kept (quotedAt cs place) c

theorem keptAll (cs : List Char) : keptBefore cs cs.length = kept cs := by
  rw [keptBefore, List.take_length, kept]

theorem keptNext (here : cs[place]? = some c) :
    keptBefore cs (place + 1) =
      keptBefore cs place ++ if Kept (quotedAt cs place) c then [(c, place)] else [] := by
  obtain ⟨inside, -⟩ := List.getElem?_eq_some_iff.mp here
  have length : (cs.take place).length = place := List.length_take_of_le (Nat.le_of_lt inside)
  rw [keptBefore, List.take_add_one, here, Option.toList_some, List.zipIdx_append,
    List.filter_append, length, Nat.zero_add, List.zipIdx_singleton, List.filter_singleton]
  simp [keptBefore]

theorem keptMember : a ∈ keptBefore cs place ↔
    a.2 < place ∧ cs[a.2]? = some a.1 ∧ Kept (quotedAt cs a.2) a.1 := by
  rw [keptBefore, List.mem_filter, List.mem_zipIdx_iff_getElem?, List.getElem?_take,
    decide_eq_true_eq]
  by_cases inside : a.2 < place <;> simp [inside]

/-! ### Gaps -/

theorem Kept.notGap (here : cs[place]? = some c) (stays : Kept (quotedAt cs place) c) :
    ¬ Gap cs place := by
  intro gap
  obtain ⟨d, there, blank, outside⟩ := gap
  cases Option.some.inj (here.symm.trans there)
  rw [stays.2 blank] at outside
  cases outside

theorem quoteNotGap (here : cs[place]? = some '"') : ¬ Gap cs place := by
  intro gap
  obtain ⟨d, there, blank, -⟩ := gap
  cases Option.some.inj (here.symm.trans there)
  exact blankPlain blank rfl

theorem Parted.widen {third : Nat} (parted : Parted cs first second) (behind : second ≤ third) :
    Parted cs first third := by
  obtain ⟨gap, after, before, blank⟩ := parted
  exact ⟨gap, after, Nat.lt_of_lt_of_le before behind, blank⟩

theorem Parted.nearer (parted : Parted cs first (second + 1)) (through : ¬ Gap cs second) :
    Parted cs first second := by
  obtain ⟨gap, after, before, blank⟩ := parted
  have other : gap ≠ second := fun same => through (same ▸ blank)
  exact ⟨gap, after, by omega, blank⟩

/-! ### Words where they end -/

theorem wordsGap {current : List Char} (blank : isBlank c = true) (rest : List Char) :
    wordsFrom false current (c :: rest) =
      [current.reverse].filter (!·.isEmpty) ++ wordsFrom false [] rest := by
  by_cases begun : current = []
  · rw [begun, wordsBlank blank]
    rfl
  · rw [wordsBreak begun blank]
    simp [begun]

theorem wordsFinish (quoted : Bool) (current : List Char) :
    wordsFrom quoted current [] = [current.reverse].filter (!·.isEmpty) := by
  by_cases begun : current = []
  · rw [begun]
    rfl
  · rw [wordsEnd begun]
    simp [begun]

/-! ### Reading a line -/

/-- A line read up to a place: the stretches that have come to their gap, and the one that is being
read. -/
structure Reading (cs : List Char) (place : Nat) (closed : List (List (Char × Nat)))
    (run : List (Char × Nat)) : Prop where
  read : wordsFrom false [] cs = (closed.map spell).filter (!·.isEmpty) ++
    wordsFrom (quotedAt cs place) (spell run).reverse (cs.drop place)
  joined : closed.flatten ++ run = keptBefore cs place
  whole : ∀ stretch ∈ closed, ∀ a ∈ stretch, ∀ b ∈ stretch, ¬ Parted cs a.2 b.2
  apart : closed.Pairwise fun s t => ∀ a ∈ s, ∀ b ∈ t, Parted cs a.2 b.2
  ended : ∀ stretch ∈ closed, ∀ a ∈ stretch, Parted cs a.2 place
  goesOn : ∀ a ∈ run, ¬ Parted cs a.2 place

namespace Reading

theorem start (cs : List Char) : Reading cs 0 [] [] where
  read := rfl
  joined := rfl
  whole := nofun
  apart := .nil
  ended := nofun
  goesOn := nofun

theorem bound (reading : Reading cs place closed run) {stretch : List (Char × Nat)}
    (member : stretch ∈ closed ++ [run]) (inside : a ∈ stretch) :
    a.2 < place ∧ ¬ Gap cs a.2 := by
  have among : a ∈ keptBefore cs place := by
    rw [← reading.joined, ← List.flatten_concat]
    exact List.mem_flatten_of_mem member inside
  obtain ⟨before, here, stays⟩ := keptMember.mp among
  exact ⟨before, stays.notGap here⟩

theorem stretchesWhole (reading : Reading cs place closed run) :
    ∀ stretch ∈ closed ++ [run], ∀ a ∈ stretch, ∀ b ∈ stretch, ¬ Parted cs a.2 b.2 := by
  rw [List.forall_mem_append, List.forall_mem_singleton]
  refine ⟨reading.whole, fun a first b second parted => reading.goesOn a first ?_⟩
  have before := (reading.bound List.mem_concat_self second).1
  exact parted.widen (Nat.le_of_lt before)

theorem stretchesApart (reading : Reading cs place closed run) :
    (closed ++ [run]).Pairwise fun s t => ∀ a ∈ s, ∀ b ∈ t, Parted cs a.2 b.2 := by
  rw [List.pairwise_append]
  refine ⟨reading.apart, List.pairwise_singleton .., fun stretch member => ?_⟩
  rw [List.forall_mem_singleton]
  intro a first b second
  -- The gap that ended the earlier stretch is before `b`, for there is none behind it.
  obtain ⟨gap, after, before, blank⟩ := reading.ended stretch member a first
  refine ⟨gap, after, ?_, blank⟩
  by_contra behind
  rcases Nat.lt_or_eq_of_le (Nat.le_of_not_lt behind) with later | rfl
  · exact reading.goesOn b second ⟨gap, later, before, blank⟩
  · exact (reading.bound List.mem_concat_self second).2 blank

theorem quote (reading : Reading cs place closed run) (here : cs[place]? = some '"') :
    Reading cs (place + 1) closed run where
  read := by
    rw [reading.read, dropHere here, wordsQuote, quotedNext here, if_pos rfl]
  joined := by
    rw [reading.joined, keptNext here, if_neg fun stays => stays.1 rfl, List.append_nil]
  whole := reading.whole
  apart := reading.apart
  ended stretch member a inside := (reading.ended stretch member a inside).widen (Nat.le_succ place)
  goesOn a inside parted := reading.goesOn a inside (parted.nearer (quoteNotGap here))

theorem keep (reading : Reading cs place closed run) (here : cs[place]? = some c)
    (stays : Kept (quotedAt cs place) c) :
    Reading cs (place + 1) closed (run ++ [(c, place)]) where
  read := by
    rw [reading.read, dropHere here, wordsKept stays, quotedNext here, if_neg stays.1, spell, spell,
      List.map_append, List.reverse_append]
    rfl
  joined := by rw [← List.append_assoc, reading.joined, keptNext here, if_pos stays]
  whole := reading.whole
  apart := reading.apart
  ended stretch member a inside := (reading.ended stretch member a inside).widen (Nat.le_succ place)
  goesOn := by
    rw [List.forall_mem_append, List.forall_mem_singleton]
    constructor
    · intro a inside parted
      exact reading.goesOn a inside (parted.nearer (stays.notGap here))
    · intro parted
      obtain ⟨gap, after, before, -⟩ := parted
      omega

theorem close (reading : Reading cs place closed run) (here : cs[place]? = some c)
    (blank : isBlank c = true) (outside : quotedAt cs place = false) :
    Reading cs (place + 1) (closed ++ [run]) [] where
  read := by
    rw [reading.read, dropHere here, outside, wordsGap blank, quotedNext here,
      if_neg (blankPlain blank), outside, List.reverse_reverse, List.map_append, List.filter_append,
      List.append_assoc]
    rfl
  joined := by
    have dropped : ¬ Kept (quotedAt cs place) c := by
      rw [outside]
      exact fun stays => Bool.false_ne_true (stays.2 blank)
    rw [List.flatten_concat, List.append_nil, reading.joined, keptNext here, if_neg dropped,
      List.append_nil]
  whole := reading.stretchesWhole
  apart := reading.stretchesApart
  ended stretch member a inside :=
    ⟨place, (reading.bound member inside).1, Nat.lt_succ_self place, c, here, blank, outside⟩
  goesOn := nofun

theorem next (reading : Reading cs place closed run) (inside : place < cs.length) :
    ∃ closed run, Reading cs (place + 1) closed run := by
  have here : cs[place]? = some cs[place] := List.getElem?_eq_getElem inside
  rcases charKinds (quotedAt cs place) cs[place] with quote | ⟨blank, outside⟩ | stays
  · rw [quote] at here
    exact ⟨_, _, reading.quote here⟩
  · exact ⟨_, _, reading.close here blank outside⟩
  · exact ⟨_, _, reading.keep here stays⟩

theorem upTo (cs : List Char) (within : place ≤ cs.length) :
    ∃ closed run, Reading cs place closed run := by
  induction place with
  | zero => exact ⟨[], [], start cs⟩
  | succ place ih =>
    obtain ⟨closed, run, reading⟩ := ih (Nat.le_of_succ_le within)
    exact reading.next within

end Reading

/-! ### Words and their characters -/

structure Stretched (cs : List Char) (stretches : List (List (Char × Nat))) : Prop where
  read : wordsFrom false [] cs = stretches.map spell
  joined : stretches.flatten = kept cs
  whole : ∀ stretch ∈ stretches, ∀ a ∈ stretch, ∀ b ∈ stretch, ¬ Parted cs a.2 b.2
  apart : stretches.Pairwise fun s t => ∀ a ∈ s, ∀ b ∈ t, Parted cs a.2 b.2

theorem stretched (cs : List Char) : ∃ stretches, Stretched cs stretches := by
  obtain ⟨closed, run, reading⟩ := Reading.upTo cs (Nat.le_refl cs.length)
  refine ⟨(closed ++ [run]).filter (!·.isEmpty), ?_, ?_, ?_, ?_⟩
  · have filled : (fun word : List Char => !word.isEmpty) ∘ spell =
        fun stretch : List (Char × Nat) => !stretch.isEmpty := by
      funext stretch
      simp [spell]
    rw [reading.read, List.drop_length, wordsFinish, List.reverse_reverse, ← List.filter_append,
      ← List.map_singleton, ← List.map_append, List.filter_map, filled]
  · rw [List.flatten_filter_not_isEmpty, List.flatten_concat, reading.joined, keptAll]
  · intro stretch member
    exact reading.stretchesWhole stretch (List.mem_of_mem_filter member)
  · exact reading.stretchesApart.sublist List.filter_sublist

theorem splitLengthsFlatten {α : Type} (parts : List (List α)) :
    (parts.map List.length).splitLengths parts.flatten = parts := by
  induction parts with
  | nil => rfl
  | cons part rest ih =>
    rw [List.map_cons, List.flatten_cons, List.splitLengths_cons, List.take_left, List.drop_left,
      ih]

theorem Stretched.spelled (stretched : Stretched cs stretches) :
    words cs = stretches.map fun stretch => String.ofList (spell stretch) := by
  rw [words, stretched.read, List.map_map]
  rfl

theorem Stretched.dealt (stretched : Stretched cs stretches) :
    shares cs (words cs) = stretches := by
  have lengths : (words cs).map String.length = stretches.map List.length := by
    rw [stretched.spelled, List.map_map]
    refine List.map_congr_left fun stretch _ => ?_
    simp [spell]
  rw [shares, lengths, ← stretched.joined, splitLengthsFlatten]

theorem Stretched.together (stretched : Stretched cs stretches) (first : a ∈ kept cs)
    (second : b ∈ kept cs) (before : a.2 < b.2) :
    (∃ stretch ∈ stretches, a ∈ stretch ∧ b ∈ stretch) ↔ ¬ Parted cs a.2 b.2 := by
  constructor
  · intro one
    obtain ⟨stretch, member, here, there⟩ := one
    exact stretched.whole stretch member a here b there
  · intro near
    rw [← stretched.joined] at first second
    obtain ⟨s, member, here⟩ := List.mem_flatten.mp first
    obtain ⟨t, among, there⟩ := List.mem_flatten.mp second
    obtain ⟨i, low, rfl⟩ := List.mem_iff_getElem.mp member
    obtain ⟨j, high, rfl⟩ := List.mem_iff_getElem.mp among
    have apart := List.pairwise_iff_getElem.mp stretched.apart
    rcases Nat.lt_trichotomy i j with less | rfl | more
    · exact absurd (apart i j low high less a here b there) near
    · exact ⟨_, member, here, there⟩
    · obtain ⟨gap, after, behind, -⟩ := apart j i high low more b there a here
      omega

/-- A line and its words. A word is what its share of the kept characters spells, and two of these
are in one share just if no blank outside quotes stands between them. -/
structure Divided (cs : List Char) (words : List String) : Prop where
  filled : ∀ word ∈ words, word ≠ ""
  plain : ∀ word ∈ words, '"' ∉ word.toList
  joined : words.flatMap String.toList = (kept cs).map Prod.fst
  spelled : words = (shares cs words).map fun share => String.ofList (spell share)
  together : ∀ a ∈ kept cs, ∀ b ∈ kept cs, a.2 < b.2 →
    ((∃ share ∈ shares cs words, a ∈ share ∧ b ∈ share) ↔ ¬ Parted cs a.2 b.2)

theorem wordsDivide (cs : List Char) : Divided cs (words cs) := by
  obtain ⟨stretches, stretched⟩ := stretched cs
  have chars : ∀ word ∈ wordsFrom false [] cs, word ≠ [] ∧ '"' ∉ word := by
    intro word member
    obtain ⟨filled, plain⟩ := wordsChars (List.forall_mem_nil _) member
    exact ⟨filled, fun inside => (plain '"' inside).1 rfl⟩
  refine ⟨?_, ?_, ?_, ?_, ?_⟩
  · rw [words, List.forall_mem_map]
    intro word member
    simpa using (chars word member).1
  · rw [words, List.forall_mem_map]
    intro word member
    simpa using (chars word member).2
  · rw [stretched.spelled, List.flatMap_map, ← stretched.joined, List.map_flatten]
    simp [List.flatMap, spell]
  · rw [stretched.dealt]
    exact stretched.spelled
  · intro a first b second before
    rw [stretched.dealt]
    exact stretched.together first second before

example : words "a\"b c\"d\"\" \"\" \"e f".toList = ["ab cd", "e f"] := by decide +kernel

end PageScript.LineScript
