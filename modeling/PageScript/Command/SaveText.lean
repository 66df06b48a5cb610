import PageScript.Command.Basic
import PageScript.Text.Classes

/-! Writing the rendered text of the page shown to a new file. Its name tells the time, and a tag
when there is one. -/
namespace PageScript

structure SaveText where
  tag : Option String
  folder : Option String
  deriving DecidableEq, Repr, Inhabited

namespace SaveText

def folderKey : String := "save_folder"

def defaultFolder : String := "./output/captures"

def isTagChar (c : Char) : Bool := Text.isAlphanumeric c || c = '_'

def trimUnderscores (cs : List Char) : List Char :=
  ((cs.dropWhile (· = '_')).reverse.dropWhile (· = '_')).reverse

/-- A tag fit for the name of a file: spaces become underscores, what is neither alphanumeric nor an
underscore is left out, and no underscore stands at an end. -/
def sanitizeTag (tag : String) : Option String :=
  let spaced := (Text.trim tag.toList).map fun c => if c = ' ' then '_' else c
  let cleaned := trimUnderscores (spaced.filter isTagChar)
  if cleaned.isEmpty then none else some (String.ofList cleaned)

def make (tag folder : Option String) : SaveText where
  tag := tag.bind sanitizeTag
  folder := folder.filter (!·.isEmpty)

def ofRecord (record : Record) : Except ValidationError SaveText := do
  .ok (make (← record.text? "tag") (← record.text? "folder"))

def toRecord (command : SaveText) : Record :=
  let setText (key : String) (value : Option String) (record : Record) : Record :=
    match value with
    | some s => record.set key (.string s)
    | none => record
  setText "folder" command.folder (setText "tag" command.tag (.ofKind saveTextKind))

def describe (command : SaveText) : String :=
  match command.tag with
  | some tag => s!"SaveText(tag={tag})"
  | none => "SaveText()"

/-- A clock may count on beyond the last millisecond of a second; a name does not. -/
def captureName (time : CivilTime) (tag : Option String) : String :=
  let shown := { time with millisecond := min time.millisecond 999 }
  let suffix := match tag with
    | some tag => '_' :: tag.toList
    | none => []
  String.ofList (shown.stamp ++ suffix ++ ".txt".toList)

def resolveFolder (command : SaveText) (settings : Option Settings) : String :=
  match command.folder, settings with
  | some folder, _ => folder
  | none, some settings => settings.getText folderKey defaultFolder
  | none, none => defaultFolder

def store (output text : String) (ctx : Context) : Outcome :=
  match ctx.writeFile output text with
  | (ctx, .error e) => (ctx, .error e)
  | (ctx, .ok ()) => (ctx.info s!"Saved TEXT to: {output}", .ok ())

def execute (command : SaveText) (ctx : Context) : Outcome :=
  match ctx.shownPage with
  | .error e => (ctx, .error e)
  | .ok (surface, page) => match surface.text page with
    | .error cause => (ctx, .error (.extraction "text" cause))
    | .ok text =>
      let folder := command.resolveFolder ctx.settings
      match ctx.makeDirectory folder with
      | (ctx, .error e) => (ctx, .error e)
      | (ctx, .ok ()) =>
        let time := CivilTime.ofNanoseconds ctx.clock.now
        store (Path.join folder (captureName time command.tag)) text ctx

end SaveText

instance : Command SaveText where
  kind _ := saveTextKind
  toRecord := SaveText.toRecord
  describe := SaveText.describe
  execute := SaveText.execute

end PageScript
