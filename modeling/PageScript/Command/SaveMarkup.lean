import PageScript.Command.Basic

/-! Writing the markup of the page shown to a file, in the place of one that is there. -/
namespace PageScript

structure SaveMarkup where
  filename : String
  path : String
  deriving DecidableEq, Repr

namespace SaveMarkup

def defaultFilename : String := "page.html"

def defaultPath : String := "."

def make (filename path : String) : SaveMarkup where
  filename := if filename.isEmpty then defaultFilename else filename
  path := if path.isEmpty then defaultPath else path

instance : Inhabited SaveMarkup := ⟨⟨defaultFilename, defaultPath⟩⟩

def ofRecord (record : Record) : Except ValidationError SaveMarkup := do
  let filename := (← record.text? "filename").getD defaultFilename
  let path := (← record.text? "path").getD defaultPath
  .ok (make filename path)

def toRecord (command : SaveMarkup) : Record :=
  ((Record.ofKind saveMarkupKind).set "filename" (.string command.filename)).set "path"
    (.string command.path)

def output (command : SaveMarkup) : String := Path.join command.path command.filename

def execute (command : SaveMarkup) (ctx : Context) : Outcome :=
  match ctx.shownPage with
  | .error e => (ctx, .error e)
  | .ok (surface, page) => match surface.markup page with
    | .error cause => (ctx, .error (.extraction "markup" cause))
    | .ok markup => match ctx.makeDirectory command.path with
      | (ctx, .error e) => (ctx, .error e)
      | (ctx, .ok ()) =>
        match (ctx.info s!"Saving HTML to: {command.output}").writeFile command.output markup with
        | (ctx, .error e) => (ctx, .error e)
        | (ctx, .ok ()) => (ctx.info s!"HTML saved successfully: {command.output}", .ok ())

end SaveMarkup

instance : Command SaveMarkup where
  kind _ := saveMarkupKind
  toRecord := SaveMarkup.toRecord
  execute := SaveMarkup.execute

end PageScript
