import PageScript.Proofs.Files.Within

/-! Making the directories of a path. What is made stands where nothing was, at a place that the
path comes by; everything else is as before, whether or not the last of the directories could be
made. -/
namespace PageScript

namespace Path

/-- Parts of a path that lead somewhere. -/
def Solid (parts : List String) : Prop :=
  ∀ part ∈ parts, part ≠ "" ∧ part ≠ "." ∧ '/' ∉ part.toList

theorem splitParts (cs : List Char) : ∀ part ∈ splitSlash cs, '/' ∉ part := by
  induction cs with
  | nil => simp [splitSlash]
  | cons c rest ih =>
    intro part member
    rw [splitSlash] at member
    split at member
    · rcases List.mem_cons.mp member with rfl | later
      · exact List.not_mem_nil
      · exact ih part later
    · rename_i notSlash
      obtain ⟨first, others, parts⟩ := List.exists_cons_of_ne_nil (splitFilled rest)
      rw [parts] at member
      rcases List.mem_cons.mp member with rfl | later
      · have inner := ih first (parts ▸ List.mem_cons_self)
        simp [inner, Ne.symm notSlash]
      · exact ih part (parts ▸ List.mem_cons_of_mem _ later)

theorem componentsSolid (path : String) : Solid (components path) := by
  intro part member
  obtain ⟨inside, solid⟩ := List.mem_filter.mp member
  obtain ⟨chars, here, rfl⟩ := List.mem_map.mp inside
  simp only [ne_eq, Bool.and_eq_true, decide_eq_true_eq] at solid
  exact ⟨solid.1, solid.2, by simpa using splitParts path.toList chars here⟩

theorem joinedParts {parts : List String} (solid : Solid parts) :
    ((splitSlash ("/".intercalate parts).toList).map String.ofList).filter
      (fun part => part ≠ "" && part ≠ ".") = parts := by
  induction parts with
  | nil => rfl
  | cons part rest ih =>
    obtain ⟨⟨filled, notHere, noSlash⟩, others⟩ := List.forall_mem_cons.mp solid
    have single : ([part].filter fun part => part ≠ "" && part ≠ ".") = [part] := by
      simp [filled, notHere]
    cases rest with
    | nil =>
      rw [String.intercalate_singleton, splitWhole noSlash, List.map_singleton,
        String.ofList_toList, single]
    | cons next later =>
      have chars : ("/".intercalate (part :: next :: later)).toList =
          part.toList ++ '/' :: ("/".intercalate (next :: later)).toList := by
        rw [String.intercalate_cons_cons, String.toList_append, String.toList_append,
          List.append_assoc]
        rfl
      rw [chars, splitAppend, splitWhole noSlash, List.map_append, List.filter_append, ih others,
        List.map_singleton, String.ofList_toList, single]
      rfl

/-- A path that begins as another one does and goes a part of its way. -/
structure Along (path part : String) : Prop where
  absolute : isAbsolute part = isAbsolute path
  components : ∃ count, components part = (components path).take count

theorem leadComponents {lead : String} {parts : List String}
    (leads : lead = "/" ∨ lead = "./" ∨ lead = "") (solid : Solid parts) :
    components (lead ++ "/".intercalate parts) = parts := by
  rw [components, String.toList_append]
  rcases leads with rfl | rfl | rfl
  · have begins : splitSlash ("/".toList ++ ("/".intercalate parts).toList) =
        [] :: splitSlash ("/".intercalate parts).toList := splitAppend [] _
    rw [begins, List.map_cons, List.filter_cons, joinedParts solid]
    rfl
  · have begins : splitSlash ("./".toList ++ ("/".intercalate parts).toList) =
        ['.'] :: splitSlash ("/".intercalate parts).toList := splitAppend ['.'] _
    rw [begins, List.map_cons, List.filter_cons, joinedParts solid]
    rfl
  · exact joinedParts solid

theorem bareRelative {parts : List String} (solid : Solid parts) :
    isAbsolute ("/".intercalate parts) = false := by
  refine decide_eq_false fun slash => ?_
  cases parts with
  | nil => cases slash
  | cons part rest =>
    obtain ⟨⟨filled, -, noSlash⟩, -⟩ := List.forall_mem_cons.mp solid
    have chars : part.toList ≠ [] := by simpa using filled
    obtain ⟨c, others, split⟩ := List.exists_cons_of_ne_nil chars
    have first : ("/".intercalate (part :: rest)).toList.head? = some c := by
      cases rest <;> simp [split]
    rw [first, Option.some.injEq] at slash
    exact noSlash (by rw [split, slash]; exact List.mem_cons_self)

end Path

namespace FileTree

open PageScript.Path (Along Solid components isAbsolute)

theorem leads (path : String) : isAbsolute path = true ∧ lead path = "/" ∨
    isAbsolute path = false ∧ (lead path = "./" ∨ lead path = "") := by
  unfold lead
  split
  · rename_i absolute
    exact .inl ⟨absolute, rfl⟩
  · rename_i relative
    refine .inr ⟨Bool.eq_false_iff.mpr relative, ?_⟩
    split
    · exact .inl rfl
    · exact .inr rfl

theorem leadAlong {path : String} (count : Nat) :
    Along path (lead path ++ "/".intercalate ((components path).take count)) := by
  have solid : Solid ((components path).take count) := fun part member =>
    Path.componentsSolid path part (List.mem_of_mem_take member)
  rcases leads path with ⟨absolute, slash⟩ | ⟨relative, dotted | bare⟩
  · rw [slash]
    exact ⟨absolute ▸ decide_eq_true (by simp), count, Path.leadComponents (.inl rfl) solid⟩
  · rw [dotted]
    exact ⟨relative ▸ decide_eq_false (by simp), count, Path.leadComponents (.inr (.inl rfl)) solid⟩
  · rw [bare, String.empty_append]
    exact ⟨(Path.bareRelative solid).trans relative.symm, count, Path.joinedParts solid⟩

theorem lineageAlong {path part : String} (member : part ∈ lineage path) : Along path part := by
  unfold lineage at member
  dsimp only at member
  split at member
  · cases member
  rcases List.mem_cons.mp member with rfl | higher
  · exact ⟨rfl, _, List.take_length.symm⟩
  rcases List.mem_append.mp higher with above | last
  · obtain ⟨count, -, rfl⟩ := List.mem_map.mp above
    exact leadAlong (count + 1)
  · split at last
    · rename_i dotted
      obtain rfl := List.mem_singleton.mp last
      rcases leads path with ⟨-, slash⟩ | ⟨relative, -⟩
      · simp [slash] at dotted
      · exact ⟨relative ▸ rfl, 0, rfl⟩
    · cases last

/-! ### Places -/

def onward (place : Place) (part : String) : Place :=
  if part = ".." then place.dropLast else place ++ [part]

/-- Where a path leads. That what it comes by is there is not asked. -/
def destination (tree : FileTree) (path : String) : Place :=
  (components path).foldl onward (tree.start path).1

def OnWay (tree : FileTree) (path : String) (place : Place) : Prop :=
  ∃ count, place = ((components path).take count).foldl onward (tree.start path).1

variable {tree next : FileTree} {path : String} {place : Place}

theorem descendOnward {part : String} {after : Place} (step : tree.descend place part = .ok after) :
    after = ([part].filter fun part => part ≠ "" && part ≠ ".").foldl onward place := by
  obtain ⟨_, -, step⟩ := Result.bindOk.mp step
  split at step
  · rename_i idle
    cases step
    rcases Bool.or_eq_true_iff.mp idle with empty | dot
    · rw [of_decide_eq_true empty]
      rfl
    · rw [of_decide_eq_true dot]
      rfl
  · rename_i solid
    have kept : ([part].filter fun part => part ≠ "" && part ≠ ".") = [part] := by simp_all
    rw [kept, List.foldl_cons, List.foldl_nil, onward]
    split at step
    · rename_i up
      cases step
      rw [if_pos up]
    · rename_i down
      obtain ⟨_, -, step⟩ := Result.bindOk.mp step
      cases step
      rw [if_neg down]

theorem walkOnward {parts : List String} {after : Place}
    (walk : parts.foldlM tree.descend place = .ok after) :
    after = (parts.filter fun part => part ≠ "" && part ≠ ".").foldl onward place := by
  induction parts generalizing place with
  | nil => exact (Except.ok.inj walk).symm
  | cons part parts ih =>
    obtain ⟨middle, step, further⟩ := Result.bindOk.mp walk
    rw [← List.singleton_append, List.filter_append, List.foldl_append, ← descendOnward step]
    exact ih further

theorem startComponents (tree : FileTree) (path : String) :
    components path = (tree.start path).2.filter fun part => part ≠ "" && part ≠ "." := by
  rw [start, components]
  split
  · rename_i absolute
    obtain ⟨parts, split, -⟩ := Path.absoluteSplit absolute
    rw [split]
    rfl
  · rfl

theorem Way.destination {parent : Place} {name : String} {slashes : List String}
    (way : Way tree path parent name slashes) : tree.destination path = parent ++ [name] := by
  obtain ⟨parts, split, walk⟩ := way.walk
  obtain ⟨filled, dot, dots⟩ := way.plain
  have none : (slashes.filter fun part => part ≠ "" && part ≠ ".") = [] :=
    List.filter_eq_nil_iff.mpr fun part member => by simp [way.empty part member]
  rw [FileTree.destination, startComponents, split, List.filter_append, List.filter_append, none,
    List.append_nil, List.foldl_append, ← walkOnward walk]
  simp [filled, dot, onward, dots]

/-! ### What is made -/

/-- Only directories were made, where nothing was, each of them at one of these places. -/
structure Makes (places : Place → Prop) (before after : FileTree) : Prop where
  home : after.home = before.home
  entries : ∀ place, after.entry? place = before.entry? place ∨
    before.entry? place = none ∧ after.entry? place = some .directory ∧ places place

section
variable {before middle after : FileTree} {places wider : Place → Prop}

theorem Makes.refl (tree : FileTree) : Makes places tree tree where
  home := rfl
  entries _ := .inl rfl

theorem Makes.trans (first : Makes places before middle) (second : Makes places middle after) :
    Makes places before after where
  home := second.home.trans first.home
  entries place := by
    rcases second.entries place with same | ⟨absent, made, here⟩
    · rw [same]
      exact first.entries place
    · rcases first.entries place with before | ⟨-, there, -⟩
      · exact .inr ⟨before ▸ absent, made, here⟩
      · rw [absent] at there
        cases there

theorem Makes.widen (makes : Makes places before after) (all : ∀ place, places place → wider place) :
    Makes wider before after where
  home := makes.home
  entries place := (makes.entries place).imp_right fun ⟨absent, made, here⟩ =>
    ⟨absent, made, all place here⟩

theorem Makes.keeps (makes : Makes places before after) : Keeps before after := by
  intro place found
  rw [directoryEntry] at found ⊢
  rcases makes.entries place with same | ⟨-, made, -⟩
  · exact same.trans found
  · exact made

theorem Makes.file (makes : Makes places before after) (place : Place) (bytes : ByteArray) :
    after.entry? place = some (.file bytes) ↔ before.entry? place = some (.file bytes) := by
  rcases makes.entries place with same | ⟨absent, made, -⟩
  · rw [same]
  · simp [absent, made]

theorem Makes.put (filled : place ≠ []) (absent : before.entry? place = none)
    (here : places place) : Makes places before (before.put place .directory) where
  home := rfl
  entries other := by
    rw [entryPut filled]
    split
    · rename_i same
      subst same
      exact .inr ⟨absent, rfl, here⟩
    · exact .inl rfl

end

theorem makeDirectoryMakes (made : tree.makeDirectory path = .ok next) :
    Makes (· = tree.destination path) tree next ∧ next.isDirectory path = true := by
  obtain ⟨target, found, made⟩ := Result.bindOk.mp made
  split at made
  · cases made
  rename_i parent name _
  obtain ⟨_, short, made⟩ := Result.bindOk.mp made
  dsimp only at made
  split at made
  · cases made
  rename_i absent
  cases made
  obtain ⟨slashes, way, -⟩ := targetWay found
  have absent : tree.entry? (parent ++ [name]) = none := by simpa using absent
  have filled : parent ++ [name] ≠ [] := by simp
  have makes : Makes (· = tree.destination path) tree (tree.put (parent ++ [name]) .directory) :=
    .put filled absent way.destination.symm
  have there := @entryPut tree _ filled .directory (parent ++ [name])
  rw [if_pos rfl] at there
  refine ⟨makes, ?_⟩
  rw [isDirectory, way.locate makes.keeps rfl short fun _ => directoryEntry.mpr there]
  exact decide_eq_true there

/-- Directories were made for these paths, and if nothing was in the way, the first path leads to a
directory. -/
structure Laid (tree : FileTree) (paths : List String)
    (outcome : FileTree × Except FileFault Unit) : Prop where
  makes : Makes (fun place => ∃ path ∈ paths, place = tree.destination path) tree outcome.1
  first : outcome.2 = .ok () → ∀ path, paths.head? = some path → outcome.1.isDirectory path = true

theorem Laid.failed {tree after : FileTree} {paths : List String} {fault : FileFault}
    (makes : Makes (fun place => ∃ path ∈ paths, place = tree.destination path) tree after) :
    Laid tree paths (after, .error fault) where
  makes := makes
  first := by
    intro done
    cases done

theorem makeLineageLaid (tree : FileTree) (paths : List String) :
    Laid tree paths (tree.makeLineage paths) := by
  have later {path : String} {above : List String} {after : FileTree}
      (makes : Makes (fun place => ∃ path ∈ above, place = tree.destination path) tree after) :
      Makes (fun place => ∃ other ∈ path :: above, place = tree.destination other) tree after := by
    refine makes.widen fun place made => ?_
    obtain ⟨other, member, here⟩ := made
    exact ⟨other, List.mem_cons_of_mem _ member, here⟩
  fun_induction makeLineage tree paths with
  | case1 =>
    refine ⟨.refl tree, fun _ path none => ?_⟩
    cases none
  | case2 path above next made =>
    obtain ⟨makes, directory⟩ := makeDirectoryMakes made
    refine ⟨makes.widen fun place here => ⟨path, List.mem_cons_self, here⟩, ?_⟩
    rintro - _ ⟨⟩
    exact directory
  | case3 path above present =>
    refine ⟨.refl tree, ?_⟩
    rintro there _ ⟨⟩
    by_contra missing
    rw [if_neg missing] at there
    cases there
  | case4 path above absent middle fault failed ih =>
    rw [failed] at ih
    exact .failed (later ih.makes)
  | case5 path above absent middle done next made ih =>
    rw [done] at ih
    obtain ⟨makes, directory⟩ := makeDirectoryMakes made
    refine ⟨(later ih.makes).trans (makes.widen fun place here => ?_), ?_⟩
    · refine ⟨path, List.mem_cons_self, here.trans ?_⟩
      rw [destination, destination, start, start, ih.makes.home]
    · rintro - _ ⟨⟩
      exact directory
  | case6 path above absent middle done fault failed ih =>
    rw [done] at ih
    refine ⟨later ih.makes, ?_⟩
    rintro there _ ⟨⟩
    split at there
    · rename_i present
      exact (Bool.and_eq_true_iff.mp present).2
    · cases there
  | case7 => exact .failed (.refl tree)

theorem lineageDestination {part : String} (member : part ∈ lineage path) :
    tree.OnWay path (tree.destination part) := by
  obtain ⟨absolute, count, taken⟩ := lineageAlong member
  refine ⟨count, ?_⟩
  rw [destination, start, start, absolute, taken]
  split <;> rfl

theorem makeDirectoriesMakes (tree : FileTree) (path : String) :
    Makes (tree.OnWay path) tree (tree.makeDirectories path).1 :=
  (makeLineageLaid tree (lineage path)).makes.widen fun _ ⟨_, member, here⟩ =>
    here ▸ lineageDestination member

theorem madeDirectories (filled : path ≠ "") (done : (tree.makeDirectories path).2 = .ok ()) :
    (tree.makeDirectories path).1.isDirectory path = true := by
  refine (makeLineageLaid tree (lineage path)).first done path ?_
  rw [lineage, if_neg (by simpa using filled)]
  rfl

theorem Keeps.isDirectory (keeps : Keeps tree next) (home : next.home = tree.home)
    (directory : tree.isDirectory path = true) : next.isDirectory path = true := by
  unfold FileTree.isDirectory at directory
  split at directory
  · rename_i place located
    obtain ⟨_, checked, walk⟩ := Result.bindOk.mp located
    have begins : next.start path = tree.start path := by rw [start, start, home]
    have found : next.locate path = .ok place := by
      refine Result.bindOk.mpr ⟨(), checked, ?_⟩
      rw [begins]
      exact keeps.walk walk
    rw [FileTree.isDirectory, found]
    exact decide_eq_true
      (directoryEntry.mp (keeps place (directoryEntry.mpr (of_decide_eq_true directory))))
  · cases directory

end FileTree

end PageScript
