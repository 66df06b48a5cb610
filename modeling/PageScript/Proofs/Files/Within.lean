import PageScript.Proofs.Files.Written

/-! A name joined to a path. Where the name is one component, the others are those of the path; so a
file that is written under both is in the directory that the path names, and has that name there. -/
namespace PageScript

namespace Path

structure Component (name : String) : Prop where
  filled : name ≠ ""
  noSlash : '/' ∉ name.toList
  noNul : '\x00' ∉ name.toList
  notHere : name ≠ "."
  notUp : name ≠ ".."

theorem splitFilled (cs : List Char) : splitSlash cs ≠ [] := by
  cases cs with
  | nil => simp [splitSlash]
  | cons c rest =>
    rw [splitSlash]
    split
    · simp
    · split <;> simp

theorem splitAppend (first second : List Char) :
    splitSlash (first ++ '/' :: second) = splitSlash first ++ splitSlash second := by
  induction first with
  | nil => rfl
  | cons c rest ih =>
    rw [List.cons_append, splitSlash, splitSlash, ih]
    split
    · rfl
    · obtain ⟨part, others, parts⟩ := List.exists_cons_of_ne_nil (splitFilled rest)
      rw [parts]
      rfl

theorem splitWhole {cs : List Char} (noSlash : '/' ∉ cs) : splitSlash cs = [cs] := by
  induction cs with
  | nil => rfl
  | cons c rest ih =>
    have first : c ≠ '/' := by
      rintro rfl
      exact noSlash List.mem_cons_self
    rw [splitSlash, if_neg first, ih fun member => noSlash (List.mem_cons_of_mem _ member)]

variable {name base : String}

theorem Component.relative (component : Component name) : isAbsolute name = false := by
  refine decide_eq_false fun slash => component.noSlash ?_
  exact List.mem_of_head? slash

/-- A path that ends in a slash, and the empty one, have an empty part at their end. -/
theorem joinSplit (component : Component name) (base : String) :
    ∃ parts, splitSlash (join base name).toList = parts ++ [name.toList] ∧
      (splitSlash base.toList = parts ∨ splitSlash base.toList = parts ++ [[]]) := by
  have whole := splitWhole component.noSlash
  rw [join, if_neg (by rw [component.relative]; exact Bool.false_ne_true)]
  split
  · rename_i ends
    rw [String.toList_append]
    rcases Bool.or_eq_true_iff.mp ends with empty | slash
    · rw [String.isEmpty_iff.mp empty]
      exact ⟨[], whole, .inr rfl⟩
    · obtain ⟨front, split⟩ := List.getLast?_eq_some_iff.mp (of_decide_eq_true slash)
      rw [split, List.append_assoc, List.singleton_append, splitAppend, splitAppend, whole]
      exact ⟨_, rfl, .inr rfl⟩
  · rw [String.toList_append, String.toList_append, List.append_assoc]
    refine ⟨_, ?_, .inl rfl⟩
    rw [← whole]
    exact splitAppend ..

theorem componentsJoin (component : Component name) (base : String) :
    components (join base name) = components base ++ [name] := by
  obtain ⟨parts, joined, split⟩ := joinSplit component base
  have last : ([name].filter fun part => part ≠ "" && part ≠ ".") = [name] := by
    simp [component.filled, component.notHere]
  have empty : ([""].filter fun part => part ≠ "" && part ≠ ".") = [] := rfl
  rw [components, components, joined, List.map_append, List.filter_append]
  rw [List.map_singleton, String.ofList_toList, last]
  rcases split with split | split <;> rw [split]
  rw [List.map_append, List.filter_append]
  exact congrArg (· ++ [name]) (List.append_nil _).symm

theorem joinExtends (component : Component name) (base : String) :
    ∃ rest, join base name = base ++ rest := by
  rw [join, if_neg (by rw [component.relative]; exact Bool.false_ne_true)]
  split
  · exact ⟨name, rfl⟩
  · exact ⟨"/" ++ name, String.append_assoc ..⟩

theorem joinAbsolute (component : Component name) (filled : base ≠ "") :
    isAbsolute (join base name) = isAbsolute base := by
  have some : base.toList ≠ [] := by simpa using filled
  obtain ⟨c, chars, split⟩ := List.exists_cons_of_ne_nil some
  obtain ⟨rest, longer⟩ := joinExtends component base
  simp [isAbsolute, longer, split]

theorem absoluteSplit (absolute : isAbsolute base = true) :
    ∃ parts, splitSlash base.toList = [] :: parts ∧ parts ≠ [] := by
  obtain ⟨rest, chars⟩ := List.head?_eq_some_iff.mp (of_decide_eq_true absolute)
  rw [chars]
  exact ⟨_, rfl, splitFilled rest⟩

end Path

namespace FileTree

open PageScript.Path (Component join)

variable {tree after : FileTree} {base name path text : String}

theorem startJoin (tree : FileTree) (component : Component name) (filled : base ≠ "") :
    ∃ home parts, tree.start (join base name) = (home, parts ++ [name]) ∧
      (tree.start base = (home, parts) ∨ tree.start base = (home, parts ++ [""])) := by
  obtain ⟨parts, joined, split⟩ := Path.joinSplit component base
  rw [start, start, Path.joinAbsolute component filled, joined, List.map_append,
    List.map_singleton, String.ofList_toList]
  cases absolute : Path.isAbsolute base with
  | false =>
    refine ⟨tree.home, parts.map String.ofList, rfl, ?_⟩
    rcases split with split | split <;> simp [split]
  | true =>
    -- What stands before the first slash is empty, and there is something after it.
    obtain ⟨others, begins, filled⟩ := Path.absoluteSplit absolute
    have more : parts ≠ [] := by
      rintro rfl
      rcases split with split | split
      all_goals
        rw [begins] at split
        cases split
      exact filled rfl
    obtain ⟨first, further, rfl⟩ := List.exists_cons_of_ne_nil more
    refine ⟨[], further.map String.ofList, rfl, ?_⟩
    rcases split with split | split <;> simp [split]

/-- A path is no longer than one that begins with it, and what it is made of is there too. -/
theorem checkExtends {rest : String} (filled : base ≠ "")
    (checked : checkPath (base ++ rest) = .ok ()) : checkPath base = .ok () := by
  unfold checkPath at checked
  split at checked
  · cases checked
  split at checked
  · cases checked
  split at checked
  · cases checked
  rename_i noNul _ short
  have noNul : ¬base.toList.contains '\x00' := by
    rw [String.toList_append, List.contains_append, Bool.or_eq_true] at noNul
    exact fun nul => noNul (.inl nul)
  have short : ¬pathLimit ≤ base.utf8ByteSize := by
    rw [String.utf8ByteSize_append] at short
    omega
  rw [checkPath, if_neg noNul, if_neg (by simpa using filled), if_neg short]

/-- A file that is written under a name joined to a path. -/
theorem writtenWithin (component : Component name) (filled : base ≠ "")
    (written : tree.writeText (join base name) text = .ok after) :
    ∃ parent, tree.locate base = .ok parent ∧ tree.checkDirectory parent = .ok () ∧
      after = tree.put (parent ++ [name]) (.file text.toUTF8) := by
  obtain ⟨parent, last, way, -, -, rfl⟩ := writtenWay written
  obtain ⟨home, parts, joined, starts⟩ := startJoin tree component filled
  obtain ⟨front, split, walk⟩ := way.walk
  rw [joined] at split walk
  rw [List.append_nil] at split
  obtain ⟨rfl, same⟩ := List.append_inj' split rfl
  cases same
  obtain ⟨rest, longer⟩ := Path.joinExtends component base
  refine ⟨parent, ?_, way.directory, rfl⟩
  refine Result.bindOk.mpr ⟨(), checkExtends filled (longer ▸ way.checked), ?_⟩
  show (tree.start base).2.foldlM tree.descend (tree.start base).1 = _
  rcases starts with starts | starts <;> rw [starts]
  · exact walk
  · rw [List.foldlM_append]
    refine Result.bindOk.mpr ⟨parent, walk, ?_⟩
    refine Result.bindOk.mpr ⟨parent, ?_, rfl⟩
    exact Result.bindOk.mpr ⟨(), way.directory, rfl⟩

end FileTree

end PageScript
