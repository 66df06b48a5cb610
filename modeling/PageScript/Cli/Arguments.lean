import PageScript.Number.Numeral
import PageScript.Settings.DotEnv

/-! The command line: four subcommands with their options. An option that is not given may be set by
a variable of the environment; what is given on the line counts before it. -/
namespace PageScript.Cli

structure RunOptions where
  script : String
  headless : Bool := false
  chromePath : Option String := none
  debugPort : Option Nat := none
  stopOnError : Bool := false
  dryRun : Bool := false
  serve : Bool := false
  port : Nat := 3000
  deriving DecidableEq, Repr

inductive Invocation where
  | run (options : RunOptions)
  | check (script : String)
  | convert (script : String) (output : Option String)
  | commands
  deriving DecidableEq, Repr

inductive Detour where
  | help
  | version
  | usage
  deriving DecidableEq, Repr

/-! ### Values -/

def readPath (value : String) : Except Detour String :=
  if value.isEmpty then .error .usage else .ok value

def readPort (value : String) : Except Detour Nat :=
  let (negative, digits) := Numeral.signed value.toList
  let n := digitsValue digits
  if digits.isEmpty || !digits.all isDigit || Nat.pow 2 16 ≤ n || (negative && n ≠ 0) then .error .usage
  else .ok n

def readFlag (value : String) : Except Detour Bool :=
  if value = "true" then .ok true else if value = "false" then .ok false else .error .usage

inductive ValueKind where
  | path
  | port
  deriving DecidableEq, Repr

/-- A value is looked at where it stands, before the words that follow it. -/
def ValueKind.check : ValueKind → String → Except Detour Unit
  | path, value => (readPath value).map fun _ => ()
  | port, value => (readPort value).map fun _ => ()

/-! ### Words -/

structure Grammar where
  flags : List String := []
  options : List (String × ValueKind) := []
  letters : List (Char × String) := []
  positionals : Nat := 0

structure Given where
  flags : List String := []
  values : List (String × String) := []
  positionals : List String := []

namespace Given

def addFlag (given : Given) (name : String) : Except Detour Given :=
  if given.flags.contains name then .error .usage
  else .ok { given with flags := given.flags ++ [name] }

def addValue (grammar : Grammar) (given : Given) (name value : String) : Except Detour Given := do
  match grammar.options.lookup name with
  | none => .error .usage
  | some kind =>
    kind.check value
    if (given.values.lookup name).isSome then .error .usage
    .ok { given with values := given.values ++ [(name, value)] }

def addPositional (grammar : Grammar) (given : Given) (word : String) : Except Detour Given := do
  if given.positionals.length < grammar.positionals then
    ValueKind.path.check word
    .ok { given with positionals := given.positionals ++ [word] }
  else .error .usage

end Given

inductive Word where
  | escape
  | long (name : String) (value : Option String)
  | letters (cs : List Char)
  | plain

def splitEquals (cs : List Char) : String × Option String :=
  let name := String.ofList (cs.takeWhile (· ≠ '='))
  match cs.dropWhile (· ≠ '=') with
  | _ :: value => (name, some (String.ofList value))
  | [] => (name, none)

def Word.ofString (word : String) : Word :=
  match word.toList with
  | ['-', '-'] => .escape
  | '-' :: '-' :: cs => let (name, value) := splitEquals cs; .long name value
  | '-' :: c :: cs => .letters (c :: cs)
  | _ => .plain

inductive Step where
  | done (given : Given)
  | wants (name : String)

def readLong (grammar : Grammar) (given : Given) (name : String) (value : Option String) :
    Except Detour Step :=
  if name = "help" && value.isNone then .error .help
  else if grammar.flags.contains name then
    match value with
    | none => (given.addFlag name).map .done
    | some _ => .error .usage
  else match value with
    | some value => (given.addValue grammar name value).map .done
    | none => if (grammar.options.lookup name).isSome then .ok (.wants name) else .error .usage

/-- An option known by a letter takes the rest of its word as its value, if there is one. -/
def readLetters (grammar : Grammar) (given : Given) : List Char → Except Detour Step
  | 'h' :: _ => .error .help
  | c :: rest => match grammar.letters.lookup c, rest with
    | some name, [] => .ok (.wants name)
    | some name, '=' :: value => (given.addValue grammar name (String.ofList value)).map .done
    | some name, value => (given.addValue grammar name (String.ofList value)).map .done
    | none, _ => .error .usage
  | [] => .error .usage

/-- The words of a subcommand; after `--` all of them are positional. -/
def readWords (grammar : Grammar) (given : Given) : List String → Except Detour Given
  | [] => .ok given
  | word :: rest =>
    let follow : Step → Except Detour Given
      | .done given => readWords grammar given rest
      | .wants name => match rest with
        | [] => .error .usage
        | value :: rest => match Word.ofString value with
          | .plain => match given.addValue grammar name value with
            | .ok given => readWords grammar given rest
            | .error detour => .error detour
          | _ => .error .usage
    match Word.ofString word with
    | .escape => rest.foldlM (Given.addPositional grammar) given
    | .long name value => (readLong grammar given name value).bind follow
    | .letters cs => (readLetters grammar given cs).bind follow
    | .plain => match given.addPositional grammar word with
      | .ok given => readWords grammar given rest
      | .error detour => .error detour

def Given.value? (given : Given) (vars : Variables) (name key : String) :
    Option String :=
  (given.values.lookup name).or (vars.lookup key)

def Given.flag (given : Given) (vars : Variables) (name key : String) : Except Detour Bool :=
  if given.flags.contains name then .ok true
  else match vars.lookup key with
    | some value => readFlag value
    | none => .ok false

def optionally {α : Type} (read : String → Except Detour α) :
    Option String → Except Detour (Option α)
  | some value => (read value).map some
  | none => .ok none

def Given.path (given : Given) : Except Detour String :=
  match given.positionals with
  | path :: _ => readPath path
  | [] => .error .usage

/-! ### Subcommands -/

def runGrammar : Grammar where
  flags := ["headless", "stop-on-error", "dry-run", "serve"]
  options := [("chrome-path", .path), ("debug-port", .port), ("port", .port)]
  positionals := 1

def readRun (vars : Variables) (words : List String) : Except Detour Invocation := do
  let given ← readWords runGrammar {} words
  .ok (.run {
    script := ← given.path
    headless := ← given.flag vars "headless" "QWS_HEADLESS"
    chromePath := ← optionally readPath (given.value? vars "chrome-path" "QWS_CHROME_PATH")
    debugPort := ← optionally readPort (given.value? vars "debug-port" "QWS_DEBUG_PORT")
    stopOnError := given.flags.contains "stop-on-error"
    dryRun := given.flags.contains "dry-run"
    serve := given.flags.contains "serve"
    port := (← optionally readPort (given.value? vars "port" "QWS_DASHBOARD_PORT")).getD 3000 })

def readCheck (words : List String) : Except Detour Invocation := do
  let given ← readWords { positionals := 1 } {} words
  .ok (.check (← given.path))

def convertGrammar : Grammar where
  options := [("output", .path)]
  letters := [('o', "output")]
  positionals := 1

def readConvert (words : List String) : Except Detour Invocation := do
  let given ← readWords convertGrammar {} words
  .ok (.convert (← given.path) (← optionally readPath (given.values.lookup "output")))

def readCommands (words : List String) : Except Detour Invocation := do
  let _ ← readWords {} {} words
  .ok .commands

def subcommands : List String := ["run", "check", "convert", "commands", "help"]

def readHelp : List String → Detour
  | [] => .help
  | [name] => if subcommands.contains name then .help else .usage
  | _ => .usage

def readOther (word : String) : Detour :=
  match Word.ofString word with
  | .long "help" none | .letters ('h' :: _) => .help
  | .long "version" none | .letters ('V' :: _) => .version
  | _ => .usage

def read (vars : Variables) : List String → Except Detour Invocation
  | [] => .error .usage
  | word :: rest =>
    if word = "run" then readRun vars rest
    else if word = "check" then readCheck rest
    else if word = "convert" then readConvert rest
    else if word = "commands" then readCommands rest
    else if word = "help" then .error (readHelp rest)
    else .error (readOther word)

end PageScript.Cli
