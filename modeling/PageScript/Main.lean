import PageScript.Cli.Program
import Std.Time.Zoned

/-! The command line. The program is a function of the files around it, so they are taken in first,
as far as it can touch them, and what it changed is written back afterwards. Time is told by the
clock at the start; a rehearsal does not sleep, and nothing listens for followers of it. -/
namespace PageScript.Main

open Cli (Host Report)

def rooted (place : Place) : String := "/" ++ "/".intercalate place

def observeAt (tree : FileTree) (path : String) : IO FileTree := do
  let .ok place := tree.locate path | return tree
  if (tree.entry? place).isSome then return tree
  try
    let real ← IO.FS.realPath path
    if ← real.isDir then return tree.put place .directory
    if ← real.pathExists then return tree.put place (.file (← IO.FS.readBinFile path))
    return tree
  catch _ => return tree

def observe (tree : FileTree) (path : String) : IO FileTree :=
  (FileTree.lineage path).reverse.foldlM observeAt tree

def surroundings : IO FileTree := do
  let home := Path.components (← IO.currentDir).toString
  let above := (List.range home.length).map fun n => home.take (n + 1)
  let tree : FileTree := ⟨above.map (·, .directory), home⟩
  ([] :: above).foldlM (fun tree place => observeAt tree (rooted (place ++ [".env"]))) tree

def namesIn (text : String) : List String :=
  ((text.map fun c => if c.isAlphanum || c = '_' then c else ' ').splitOn " ").filter (· ≠ "")

def knownNames : List String := [
  EngineConfig.loadTimeoutKey, EngineConfig.pollIntervalKey, EngineConfig.settleKey,
  EngineConfig.pausePollKey, EngineConfig.drainEventsKey, EngineConfig.stopOnErrorKey,
  EngineConfig.settingsKey, "QWS_HEADLESS", "QWS_CHROME_PATH", "QWS_DEBUG_PORT",
  "QWS_DASHBOARD_PORT", "XDG_CONFIG_HOME", "HOME"]

def environment (tree : FileTree) : IO Variables := do
  let mentioned := ((DotEnv.find? tree).bind String.fromUTF8?).elim [] namesIn
  (knownNames ++ mentioned).filterMapM fun name => do
    return (← IO.getEnv name).map (name, ·)

def settingsPath (vars : Variables) : Option String :=
  let base := ((vars.lookup "XDG_CONFIG_HOME").filter Path.isAbsolute).or
    ((vars.lookup "HOME").map (Path.join · ".config"))
  base.map fun base => Path.join (Path.join base "qwsengine") "settings.json"

def clock : IO Clock := do
  let now ← Std.Time.PlainDateTime.now
  let days := now.date.toEpochDay.val.toNat
  return { now := days * 86400 * Nanoseconds.perSecond + now.time.toNanoseconds.val.toNat }

/-- Looks at the flags before a paused run is given up; nothing pauses a rehearsal. -/
def looks : Nat := 1000

def changes (tree : FileTree) (report : Report) : List (Place × Entry) :=
  (report.files.entries.filter fun (place, entry) => tree.entry? place ≠ some entry).reverse

/-- Runs the program until all that it touches was taken in, at most so many times. -/
def settle (host : Host) (words : List String) : Nat → IO (Option (FileTree × Report))
  | 0 => return none
  | n + 1 => do
    let some report := Cli.program looks host words | return none
    let files ← (changes host.files report).foldlM (fun tree (place, _) =>
      observe tree (rooted place)) host.files
    if files.entries.length = host.files.entries.length then return some (host.files, report)
    settle { host with files } words n

def write (place : Place) : Entry → IO Unit
  | .directory => IO.FS.createDirAll (rooted place)
  | .file bytes => IO.FS.writeBinFile (rooted place) bytes

end PageScript.Main

open PageScript in
def main (words : List String) : IO UInt32 := do
  let tree ← PageScript.Main.surroundings
  let vars ← Main.environment tree
  let settings := Main.settingsPath vars
  let mentioned := words ++ settings.toList ++
    ((DotEnv.load tree vars).toOption.bind (·.lookup EngineConfig.settingsKey)).toList
  let files ← mentioned.foldlM Main.observe tree
  let host : Cli.Host := { vars, files, clock := ← Main.clock, settingsPath := settings }
  match ← Main.settle host words 100 with
  | none =>
    IO.eprintln "Error: the run does not come to an end"
    return 1
  | some (known, report) =>
    for (place, entry) in Main.changes known report do
      Main.write place entry
    IO.print report.output
    IO.eprint report.errors
    return report.code.toUInt32
