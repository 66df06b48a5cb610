import PageScript.Files.Path

/-! Files and directories by their place below the root, and the directory that relative paths start
from. Looking up a path goes through its components one by one: whatever stands before another
component has to be a directory. -/
namespace PageScript

abbrev Place := List String

inductive Entry where
  | directory
  | file (bytes : ByteArray)

instance : DecidableEq Entry
  | .directory, .directory => isTrue rfl
  | .directory, .file _ => isFalse nofun
  | .file _, .directory => isFalse nofun
  | .file a, .file b =>
    if same : a.data = b.data then isTrue (congrArg Entry.file (ByteArray.ext same))
    else isFalse fun equal => same (congrArg ByteArray.data (Entry.file.inj equal))

structure FileTree where
  entries : List (Place × Entry)
  home : Place

namespace FileTree

def entry? (tree : FileTree) (place : Place) : Option Entry :=
  if place.isEmpty then some .directory else tree.entries.lookup place

def put (tree : FileTree) (place : Place) (entry : Entry) : FileTree :=
  { tree with entries := (place, entry) :: tree.entries.filter (·.1 ≠ place) }

def isDirectoryAt (tree : FileTree) (place : Place) : Bool := tree.entry? place = some .directory

def nameLimit : Nat := 255

def pathLimit : Nat := 4096

def checkDirectory (tree : FileTree) (place : Place) : Except FileFault Unit :=
  match tree.entry? place with
  | none => .error .absent
  | some (.file _) => .error .notDirectory
  | some .directory => .ok ()

def checkName (name : String) : Except FileFault Unit :=
  if nameLimit < name.utf8ByteSize then .error .nameTooLong else .ok ()

def descend (tree : FileTree) (place : Place) (part : String) : Except FileFault Place := do
  tree.checkDirectory place
  if part = "" || part = "." then .ok place
  else if part = ".." then .ok place.dropLast
  else
    checkName part
    .ok (place ++ [part])

def start (tree : FileTree) (path : String) : Place × List String :=
  let parts := (Path.splitSlash path.toList).map String.ofList
  if Path.isAbsolute path then ([], parts.drop 1) else (tree.home, parts)

def checkPath (path : String) : Except FileFault Unit :=
  if path.toList.contains '\x00' then .error .nulInName
  else if path.isEmpty then .error .absent
  else if pathLimit ≤ path.utf8ByteSize then .error .nameTooLong
  else .ok ()

def locate (tree : FileTree) (path : String) : Except FileFault Place := do
  checkPath path
  let (place, parts) := tree.start path
  parts.foldlM tree.descend place

def readBytes (tree : FileTree) (path : String) : Except FileFault ByteArray := do
  match tree.entry? (← tree.locate path) with
  | none => .error .absent
  | some .directory => .error .isDirectory
  | some (.file bytes) => .ok bytes

def readText (tree : FileTree) (path : String) : Except FileFault String := do
  match String.fromUTF8? (← tree.readBytes path) with
  | some text => .ok text
  | none => .error .notText

def isDirectory (tree : FileTree) (path : String) : Bool :=
  match tree.locate path with
  | .ok place => tree.isDirectoryAt place
  | .error _ => false

inductive Target where
  /-- A name in an existing directory; `slash` tells whether the path ends in slashes. -/
  | named (parent : Place) (name : String) (slash : Bool)
  /-- A directory that the path names by dots or as the root. -/
  | existing

def target (tree : FileTree) (path : String) : Except FileFault Target := do
  checkPath path
  let (place, parts) := tree.start path
  let bare := (parts.reverse.dropWhile (· = "")).reverse
  match bare.getLast? with
  | none => .ok .existing
  | some last =>
    let parent ← bare.dropLast.foldlM tree.descend place
    tree.checkDirectory parent
    if last = "." || last = ".." then .ok .existing
    else .ok (.named parent last (bare.length ≠ parts.length))

def writeBytes (tree : FileTree) (path : String) (bytes : ByteArray) :
    Except FileFault FileTree := do
  match ← tree.target path with
  | .existing | .named _ _ true => .error .isDirectory
  | .named parent name false =>
    checkName name
    let place := parent ++ [name]
    if tree.isDirectoryAt place then .error .isDirectory
    else .ok (tree.put place (.file bytes))

def writeText (tree : FileTree) (path text : String) : Except FileFault FileTree :=
  tree.writeBytes path text.toUTF8

def makeDirectory (tree : FileTree) (path : String) : Except FileFault FileTree := do
  match ← tree.target path with
  | .existing => .error .present
  | .named parent name _ =>
    checkName name
    let place := parent ++ [name]
    if (tree.entry? place).isSome then .error .present
    else .ok (tree.put place .directory)

/-- What a path begins with before the first component. -/
def lead (path : String) : String :=
  if Path.isAbsolute path then "/"
  else if (Path.splitSlash path.toList).head? = some ['.'] then "./" else ""

/-- A path and the paths of the directories above it, up to the start of the path. -/
def lineage (path : String) : List String :=
  let parts := Path.components path
  let above := (List.range (parts.length - 1)).reverse.map fun n =>
    lead path ++ "/".intercalate (parts.take (n + 1))
  if path.isEmpty then []
  else path :: (above ++ if lead path = "./" && !parts.isEmpty then ["."] else [])

/-- Makes the first of these directories, and before it the ones above it that are missing. Those
that were made stay when a later one cannot be. -/
def makeLineage (tree : FileTree) : List String → FileTree × Except FileFault Unit
  | [] => (tree, .ok ())
  | path :: above =>
    match tree.makeDirectory path with
    | .ok made => (made, .ok ())
    | .error .present =>
      (tree, if tree.isDirectory path then .ok () else .error .present)
    | .error .absent =>
      match makeLineage tree above with
      | (tree, .error fault) => (tree, .error fault)
      | (tree, .ok ()) =>
        match tree.makeDirectory path with
        | .ok made => (made, .ok ())
        | .error fault =>
          (tree, if fault = .present && tree.isDirectory path then .ok () else .error fault)
    | .error fault => (tree, .error fault)

def makeDirectories (tree : FileTree) (path : String) : FileTree × Except FileFault Unit :=
  tree.makeLineage (lineage path)

def below (tree : FileTree) (place : Place) : List (Place × Entry) :=
  tree.entries.filterMap fun (at', entry) =>
    if place.isPrefixOf at' && place ≠ at' then some (at'.drop place.length, entry) else none

end FileTree

end PageScript
