import Mathlib.Data.List.TakeWhile
import PageScript.Files.Tree
import PageScript.Proofs.Basic

/-! A file that was written is read back under the same path. Where directories stay what they are,
every walk through them stays as it was; so it is when a file is put where no directory is. -/
namespace PageScript.FileTree

variable {tree next : FileTree} {place : Place} {bytes : ByteArray}

theorem freeFilled (free : tree.isDirectoryAt place = false) : place ≠ [] := by
  rintro rfl
  simp [isDirectoryAt, entry?] at free

theorem entryPut (filled : place ≠ []) (entry : Entry) (other : Place) :
    FileTree.entry? (tree.put place entry) other =
      if other = place then some entry else tree.entry? other := by
  by_cases same : other = place
  · subst same
    simp [put, entry?, filled]
  · cases other with
    | nil => simp [same, entry?]
    | cons name names =>
      simp only [put, entry?, List.isEmpty_cons, Bool.false_eq_true, if_false, if_neg same,
        List.lookup_cons, beq_eq_false_iff_ne.mpr same]
      rw [Lookup.lookupErased, if_neg same]

theorem directoryEntry :
    tree.checkDirectory place = .ok () ↔ tree.entry? place = some .directory := by
  rw [checkDirectory]
  split
  · rename_i absent
    simp [absent]
  · rename_i file
    simp [file]
  · rename_i directory
    simp [directory]

/-! ### Walks -/

def Keeps (tree next : FileTree) : Prop :=
  ∀ place, tree.checkDirectory place = .ok () → next.checkDirectory place = .ok ()

theorem keepsPut (free : tree.isDirectoryAt place = false) :
    Keeps tree (tree.put place (.file bytes)) := by
  intro other found
  rw [directoryEntry] at found ⊢
  have different : other ≠ place := by
    rintro rfl
    simp [isDirectoryAt, found] at free
  rw [entryPut (freeFilled free), if_neg different]
  exact found

theorem Keeps.descend (keeps : Keeps tree next) {at' after : Place} {part : String}
    (step : tree.descend at' part = .ok after) : next.descend at' part = .ok after := by
  obtain ⟨_, found, further⟩ := Result.bindOk.mp step
  exact Result.bindOk.mpr ⟨(), keeps at' found, further⟩

theorem Keeps.walk (keeps : Keeps tree next) {parts : List String} {at' after : Place}
    (walk : parts.foldlM tree.descend at' = .ok after) :
    parts.foldlM next.descend at' = .ok after := by
  induction parts generalizing at' with
  | nil => exact walk
  | cons part parts ih =>
    obtain ⟨middle, step, further⟩ := Result.bindOk.mp walk
    exact Result.bindOk.mpr ⟨middle, keeps.descend step, ih further⟩

theorem slashesStay {slashes : List String} (empty : ∀ part ∈ slashes, part = "")
    (found : tree.checkDirectory place = .ok ()) :
    slashes.foldlM tree.descend place = .ok place := by
  induction slashes with
  | nil => rfl
  | cons part slashes ih =>
    obtain ⟨rfl, others⟩ := List.forall_mem_cons.mp empty
    refine Result.bindOk.mpr ⟨place, ?_, ih others⟩
    exact Result.bindOk.mpr ⟨(), found, rfl⟩

/-! ### Ways -/

variable {path name : String} {parent : Place} {slashes : List String}

/-- The way along a path: through directories to the last of them, from there by a name, and past
the slashes at the end. -/
structure Way (tree : FileTree) (path : String) (parent : Place) (name : String)
    (slashes : List String) : Prop where
  checked : checkPath path = .ok ()
  walk : ∃ parts, (tree.start path).2 = parts ++ [name] ++ slashes ∧
    parts.foldlM tree.descend (tree.start path).1 = .ok parent
  empty : ∀ part ∈ slashes, part = ""
  directory : tree.checkDirectory parent = .ok ()
  plain : name ≠ "" ∧ name ≠ "." ∧ name ≠ ".."

theorem bareEnd (parts : List String) : ∃ slashes : List String, (∀ part ∈ slashes, part = "") ∧
    parts = (parts.reverse.dropWhile (· = "")).reverse ++ slashes := by
  refine ⟨(parts.reverse.takeWhile (· = "")).reverse, fun part member => ?_, ?_⟩
  · exact of_decide_eq_true
      (List.mem_takeWhile_imp (p := fun part => decide (part = "")) (List.mem_reverse.mp member))
  · rw [← List.reverse_append, List.takeWhile_append_dropWhile, List.reverse_reverse]

theorem targetWay {slash : Bool} (found : tree.target path = .ok (.named parent name slash)) :
    ∃ slashes, Way tree path parent name slashes ∧ (slash = false → slashes = []) := by
  obtain ⟨_, checked, found⟩ := Result.bindOk.mp found
  rcases started : tree.start path with ⟨home, parts⟩
  simp only [started] at found
  split at found
  · cases found
  rename_i last isLast
  obtain ⟨_, walk, found⟩ := Result.bindOk.mp found
  obtain ⟨_, directory, found⟩ := Result.bindOk.mp found
  split at found
  · cases found
  rename_i plain
  simp only [Except.ok.injEq, Target.named.injEq] at found
  obtain ⟨rfl, rfl, rfl⟩ := found
  obtain ⟨slashes, empty, whole⟩ := bareEnd parts
  have filled : last ≠ "" := by
    have head := List.head?_dropWhile_not (fun part => decide (part = "")) parts.reverse
    rw [List.getLast?_reverse] at isLast
    rw [isLast] at head
    simpa using head
  obtain ⟨front, bare⟩ := List.getLast?_eq_some_iff.mp isLast
  rw [bare, List.dropLast_concat] at walk
  refine ⟨slashes, ⟨checked, ⟨front, ?_, ?_⟩, empty, directory, filled, ?_⟩, fun same => ?_⟩
  · rw [started, ← bare]
    exact whole
  · rw [started]
    exact walk
  · simpa using plain
  · have lengths := congrArg List.length whole
    rw [List.length_append] at lengths
    simp only [ne_eq, decide_not, Bool.not_eq_false', decide_eq_true_eq] at same
    exact List.eq_nil_of_length_eq_zero (by omega)

theorem Way.locate (way : Way tree path parent name slashes) (keeps : Keeps tree next)
    (home : next.home = tree.home) (short : checkName name = .ok ())
    (ends : slashes ≠ [] → next.checkDirectory (parent ++ [name]) = .ok ()) :
    next.locate path = .ok (parent ++ [name]) := by
  obtain ⟨parts, split, walk⟩ := way.walk
  obtain ⟨filled, dot, dots⟩ := way.plain
  have begins : next.start path = tree.start path := by rw [start, start, home]
  refine Result.bindOk.mpr ⟨(), way.checked, ?_⟩
  show (next.start path).2.foldlM next.descend (next.start path).1 = _
  rw [begins, split, List.foldlM_append, List.foldlM_append]
  refine Result.bindOk.mpr ⟨parent ++ [name], ?_, ?_⟩
  · refine Result.bindOk.mpr ⟨parent, keeps.walk walk, ?_⟩
    refine Result.bindOk.mpr ⟨parent ++ [name], ?_, rfl⟩
    refine Result.bindOk.mpr ⟨(), keeps parent way.directory, ?_⟩
    simp only [filled, dot, dots, decide_false, Bool.or_self, Bool.false_eq_true, if_false]
    exact Result.bindOk.mpr ⟨(), short, rfl⟩
  · by_cases none : slashes = []
    · rw [none]
      rfl
    · exact slashesStay way.empty (ends none)

theorem writtenWay (written : tree.writeBytes path bytes = .ok next) :
    ∃ parent name, Way tree path parent name [] ∧ checkName name = .ok () ∧
      tree.isDirectoryAt (parent ++ [name]) = false ∧
      next = tree.put (parent ++ [name]) (.file bytes) := by
  obtain ⟨target, found, written⟩ := Result.bindOk.mp written
  split at written
  · cases written
  · cases written
  · rename_i parent name
    obtain ⟨_, short, written⟩ := Result.bindOk.mp written
    dsimp only at written
    split at written
    · cases written
    · rename_i free
      cases written
      obtain ⟨slashes, way, none⟩ := targetWay found
      obtain rfl := none rfl
      exact ⟨parent, name, way, short, by simpa using free, rfl⟩

theorem locateWritten (written : tree.writeBytes path bytes = .ok next) :
    ∃ place, next.locate path = .ok place ∧ tree.isDirectoryAt place = false ∧
      next = tree.put place (.file bytes) := by
  obtain ⟨parent, name, way, short, free, rfl⟩ := writtenWay written
  exact ⟨_, way.locate (keepsPut free) rfl short (fun more => absurd rfl more), free, rfl⟩

theorem readBytesWritten (written : tree.writeBytes path bytes = .ok next) :
    next.readBytes path = .ok bytes := by
  obtain ⟨place, located, free, rfl⟩ := locateWritten written
  rw [readBytes, located, Result.okBind, entryPut (freeFilled free), if_pos rfl]

theorem readTextBytes {path text : String} (read : tree.readBytes path = .ok text.toUTF8) :
    tree.readText path = .ok text := by
  have whole : String.fromUTF8? text.toUTF8 = some text := dif_pos text.isValidUTF8
  rw [readText, read, Result.okBind, whole]

end PageScript.FileTree
