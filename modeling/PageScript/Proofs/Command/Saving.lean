import PageScript.Command.SaveMarkup
import PageScript.Command.SaveText
import PageScript.Proofs.Files.Directories

/-! Saving what a page shows. A run of either saving command ends in one of six ways (`Saves`); in
each of them the file of the output is the only one that can change, and the only directories made
are missing ones on the way to the directory of the command. -/
namespace PageScript

/-- What is saved of a page and where: `fault` is why a surface cannot give it. -/
structure Saving where
  directory : String
  output : String
  what : String
  fault : Surface → Option String
  content : Page → String

def Context.Shows (ctx : Context) (surface : Surface) (page : Page) : Prop :=
  ctx.surface = some surface ∧ surface.page? = some page

def Context.Gives (ctx : Context) (saving : Saving) (page : Page) : Prop :=
  ∃ surface, ctx.Shows surface page ∧ saving.fault surface = none

inductive Saves (saving : Saving) (before : Context) : Outcome → Prop
  | noSurface (gone : before.surface = none) : Saves saving before (before, .error .noSurface)
  | noPage {surface : Surface} (present : before.surface = some surface)
      (blank : surface.page? = none) : Saves saving before (before, .error .noPage)
  | unread {surface : Surface} {page : Page} {message : String}
      (shown : before.Shows surface page) (fault : saving.fault surface = some message) :
      Saves saving before (before, .error (.extraction saving.what (surface.error message)))
  | unmade {page : Page} {after : Context} {cause : FileFault} (given : before.Gives saving page)
      (made : before.files.makeDirectories saving.directory = (after.files, .error cause)) :
      Saves saving before (after, .error (.io saving.directory cause))
  | unwritten {page : Page} {after : Context} {cause : FileFault} (given : before.Gives saving page)
      (made : before.files.makeDirectories saving.directory = (after.files, .ok ()))
      (failed : after.files.writeText saving.output (saving.content page) = .error cause) :
      Saves saving before (after, .error (.io saving.output cause))
  | saved {page : Page} {after : Context} {files : FileTree} (given : before.Gives saving page)
      (made : before.files.makeDirectories saving.directory = (files, .ok ()))
      (written : files.writeText saving.output (saving.content page) = .ok after.files) :
      Saves saving before (after, .ok ())

/-! ### The two commands -/

theorem Surface.extracted {surface : Surface} {fault : Option String} {content text : String}
    (read : surface.extract fault content = .ok text) : fault = none ∧ text = content := by
  unfold extract at read
  split at read
  · cases read
  · exact ⟨rfl, (Except.ok.inj read).symm⟩

theorem Surface.notExtracted {surface : Surface} {fault : Option String} {content : String}
    {cause : SurfaceError} (failed : surface.extract fault content = .error cause) :
    ∃ message, fault = some message ∧ cause = surface.error message := by
  unfold extract at failed
  split at failed
  · cases failed
    exact ⟨_, rfl, rfl⟩
  · cases failed

section
variable {ctx ready logged next after : Context} {surface : Surface} {page : Page}
  {error : ExecutionError} {path text : String} {saving : Saving}

theorem Context.shownShows (shown : ctx.shownPage = .ok (surface, page)) :
    ctx.Shows surface page := by
  unfold shownPage at shown
  split at shown
  · cases shown
  · rename_i surface present
    split at shown
    · cases shown
    · rename_i page found
      cases shown
      exact ⟨present, found⟩

theorem Context.madeFiles {result : Except ExecutionError Unit}
    (made : ctx.makeDirectory path = (next, result)) :
    next.clock = ctx.clock ∧ ∃ outcome, result = outcome.mapError (.io path) ∧
      ctx.files.makeDirectories path = (next.files, outcome) := by
  unfold makeDirectory at made
  obtain ⟨rfl, rfl⟩ := Prod.mk.inj made
  exact ⟨rfl, _, rfl, rfl⟩

theorem Context.madeAll (made : ctx.makeDirectory path = (next, .ok ())) :
    ctx.files.makeDirectories path = (next.files, .ok ()) := by
  obtain ⟨-, outcome, done, directories⟩ := madeFiles made
  rw [directories, Result.mapErrorOk.mp done.symm]

namespace Saves

theorem missing (missing : ctx.shownPage = .error error) :
    Saves saving ctx (ctx, .error error) := by
  unfold Context.shownPage at missing
  split at missing
  · rename_i gone
    cases missing
    exact .noSurface gone
  · rename_i surface present
    split at missing
    · rename_i blank
      cases missing
      exact .noPage present blank
    · cases missing

theorem notRead {cause : SurfaceError} (shown : ctx.Shows surface page)
    (failed : surface.extract (saving.fault surface) (saving.content page) = .error cause) :
    Saves saving ctx (ctx, .error (.extraction saving.what cause)) := by
  obtain ⟨message, fault, rfl⟩ := Surface.notExtracted failed
  exact .unread shown fault

theorem notMade (given : ctx.Gives saving page)
    (made : ctx.makeDirectory saving.directory = (next, .error error)) :
    Saves saving ctx (next, .error error) := by
  obtain ⟨-, outcome, failed, directories⟩ := Context.madeFiles made
  cases outcome with
  | ok _ => cases failed
  | error cause =>
    cases failed
    exact .unmade given directories

theorem notWritten (given : ctx.Gives saving page)
    (made : ctx.makeDirectory saving.directory = (ready, .ok ()))
    (wrote : logged.writeFile saving.output (saving.content page) = (next, .error error))
    (same : logged.files = ready.files) :
    Saves saving ctx (next, .error error) := by
  have directories := Context.madeAll made
  unfold Context.writeFile at wrote
  split at wrote
  · cases wrote
  · rename_i cause failed
    cases wrote
    exact .unwritten given (same ▸ directories) failed

theorem written (given : ctx.Gives saving page)
    (made : ctx.makeDirectory saving.directory = (ready, .ok ()))
    (wrote : logged.writeFile saving.output (saving.content page) = (next, .ok ()))
    (same : logged.files = ready.files) (kept : after.files = next.files) :
    Saves saving ctx (after, .ok ()) := by
  have directories := Context.madeAll made
  unfold Context.writeFile at wrote
  split at wrote
  · rename_i files done
    cases wrote
    exact .saved given (same ▸ directories) (kept ▸ done)
  · cases wrote

theorem stores (given : ctx.Gives saving page)
    (made : ctx.makeDirectory saving.directory = (ready, .ok ())) :
    Saves saving ctx (SaveText.store saving.output (saving.content page) ready) := by
  unfold SaveText.store
  split
  · rename_i wrote
    exact .notWritten given made wrote rfl
  · rename_i wrote
    exact .written given made wrote rfl rfl

end Saves

end

def SaveMarkup.saving (command : SaveMarkup) : Saving where
  directory := command.path
  output := command.output
  what := "markup"
  fault surface := surface.faults.markup
  content := Page.markup

theorem SaveMarkup.executeSaves (command : SaveMarkup) (ctx : Context) :
    Saves command.saving ctx (command.execute ctx) := by
  unfold execute
  split
  · exact .missing ‹_›
  rename_i surface page shown
  have shown := Context.shownShows shown
  split
  · rename_i failed
    exact .notRead shown failed
  rename_i markup read
  obtain ⟨readable, rfl⟩ := Surface.extracted read
  have given : ctx.Gives command.saving page := ⟨surface, shown, readable⟩
  split
  · exact .notMade given ‹_›
  rename_i ready made
  split
  · rename_i wrote
    exact .notWritten given made wrote rfl
  · rename_i wrote
    exact .written given made wrote rfl rfl

def SaveText.output (command : SaveText) (ctx : Context) : String :=
  Path.join (command.resolveFolder ctx.settings)
    (captureName (CivilTime.ofNanoseconds ctx.clock.now) command.tag)

def SaveText.saving (command : SaveText) (ctx : Context) : Saving where
  directory := command.resolveFolder ctx.settings
  output := command.output ctx
  what := "text"
  fault surface := surface.faults.text
  content := Page.text

theorem SaveText.outputJoined (command : SaveText) (ctx : Context) :
    Path.join (command.resolveFolder ctx.settings)
      (captureName (CivilTime.ofNanoseconds ctx.clock.now) command.tag) =
        (command.saving ctx).output := by
  rw [saving, output]

theorem SaveText.executeSaves (command : SaveText) (ctx : Context) :
    Saves (command.saving ctx) ctx (command.execute ctx) := by
  unfold execute
  split
  · exact .missing ‹_›
  rename_i surface page shown
  have shown := Context.shownShows shown
  split
  · rename_i failed
    exact .notRead shown failed
  rename_i text read
  obtain ⟨readable, rfl⟩ := Surface.extracted read
  have given : ctx.Gives (command.saving ctx) page := ⟨surface, shown, readable⟩
  dsimp only
  split
  · exact .notMade given ‹_›
  rename_i ready made
  rw [(Context.madeFiles made).1, command.outputJoined ctx]
  exact .stores given made

/-! ### What a run touches -/

structure TouchesOne (saving : Saving) (before : Context) (outcome : Outcome) : Prop where
  noSurface : before.surface = none → outcome = (before, .error .noSurface)
  noPage : ∀ surface, before.surface = some surface → surface.page? = none →
    outcome = (before, .error .noPage)
  unread : ∀ surface page message, before.Shows surface page →
    saving.fault surface = some message →
    outcome = (before, .error (.extraction saving.what (surface.error message)))
  unmade : ∀ page cause, before.Gives saving page →
    (before.files.makeDirectories saving.directory).2 = .error cause →
    outcome.2 = .error (.io saving.directory cause)
  unwritten : ∀ page files cause, before.Gives saving page →
    before.files.makeDirectories saving.directory = (files, .ok ()) →
    files.writeText saving.output (saving.content page) = .error cause →
    outcome.2 = .error (.io saving.output cause)
  succeeds : ∀ page files after, before.Gives saving page →
    before.files.makeDirectories saving.directory = (files, .ok ()) →
    files.writeText saving.output (saving.content page) = .ok after →
    outcome.2 = .ok () ∧ outcome.1.files = after
  saved : outcome.2 = .ok () → ∃ page place, before.Gives saving page ∧
    outcome.1.files.locate saving.output = .ok place ∧
    outcome.1.files.entry? place = some (.file (saving.content page).toUTF8) ∧
    outcome.1.files.readText saving.output = .ok (saving.content page) ∧
    (saving.directory ≠ "" → outcome.1.files.isDirectory saving.directory = true) ∧
    ∀ other, other ≠ place → outcome.1.files.entry? other = before.files.entry? other ∨
      before.files.entry? other = none ∧ outcome.1.files.entry? other = some .directory ∧
        before.files.OnWay saving.directory other
  failed : ∀ error, outcome.2 = .error error →
    FileTree.Makes (before.files.OnWay saving.directory) before.files outcome.1.files ∧
      ∀ place bytes, outcome.1.files.entry? place = some (.file bytes) ↔
        before.files.entry? place = some (.file bytes)
  named : ∀ path cause, outcome.2 = .error (.io path cause) →
    path = saving.directory ∧
        (before.files.makeDirectories saving.directory).2 = .error cause ∨
      path = saving.output ∧ (before.files.makeDirectories saving.directory).2 = .ok () ∧
        ∃ page, before.Gives saving page ∧
          outcome.1.files.writeText saving.output (saving.content page) = .error cause

section
open FileTree (Makes)
variable {saving : Saving} {before : Context} {outcome : Outcome}

theorem Context.Shows.unique {ctx : Context} {surface other : Surface} {page next : Page}
    (shown : ctx.Shows surface page) (again : ctx.Shows other next) :
    other = surface ∧ next = page := by
  cases shown.1.symm.trans again.1
  exact ⟨rfl, Option.some.inj (again.2.symm.trans shown.2)⟩

theorem goneShows {ctx : Context} {surface : Surface} {page : Page} (gone : ctx.surface = none) :
    ¬ ctx.Shows surface page := by
  intro shown
  cases gone.symm.trans shown.1

theorem blankShows {ctx : Context} {surface other : Surface} {page : Page}
    (present : ctx.surface = some surface) (blank : surface.page? = none) :
    ¬ ctx.Shows other page := by
  intro shown
  cases present.symm.trans shown.1
  cases blank.symm.trans shown.2

theorem Context.Gives.unique {ctx : Context} {saving : Saving} {page next : Page}
    (given : ctx.Gives saving page) (again : ctx.Gives saving next) : next = page := by
  obtain ⟨surface, shown, -⟩ := given
  obtain ⟨other, there, -⟩ := again
  exact (shown.unique there).2

theorem Saves.makes (saves : Saves saving before outcome) {error : ExecutionError}
    (failed : outcome.2 = .error error) :
    Makes (before.files.OnWay saving.directory) before.files outcome.1.files := by
  have makes := before.files.makeDirectoriesMakes saving.directory
  cases saves with
  | noSurface | noPage | unread => exact .refl before.files
  | unmade _ made | unwritten _ made =>
    rw [made] at makes
    exact makes
  | saved => cases failed

theorem Saves.tries (saves : Saves saving before outcome) {page : Page}
    (given : before.Gives saving page) :
    (∃ cause, (before.files.makeDirectories saving.directory).2 = .error cause ∧
      outcome.2 = .error (.io saving.directory cause)) ∨
    ∃ files, before.files.makeDirectories saving.directory = (files, .ok ()) ∧
      ((∃ cause, files.writeText saving.output (saving.content page) = .error cause ∧
        outcome.2 = .error (.io saving.output cause)) ∨
      files.writeText saving.output (saving.content page) = .ok outcome.1.files ∧
        outcome.2 = .ok ()) := by
  have ⟨surface, shown, readable⟩ := given
  cases saves with
  | noSurface gone => cases gone.symm.trans shown.1
  | noPage present blank => exact absurd shown (blankShows present blank)
  | unread there wrong =>
    obtain ⟨rfl, rfl⟩ := there.unique shown
    cases wrong.symm.trans readable
  | unmade _ made => exact .inl ⟨_, by rw [made], rfl⟩
  | unwritten there made failed =>
    obtain rfl := there.unique given
    exact .inr ⟨_, made, .inl ⟨_, failed, rfl⟩⟩
  | saved there made written =>
    obtain rfl := there.unique given
    exact .inr ⟨_, made, .inr ⟨written, rfl⟩⟩

/-- Directories made on the way to one, and then a file written: of what is no directory made, only
the place of the file can differ. -/
theorem FileTree.writtenOne {before files after : FileTree} {directory output text : String}
    (made : before.makeDirectories directory = (files, .ok ()))
    (written : files.writeText output text = .ok after) :
    ∃ place, after.locate output = .ok place ∧
      after.entry? place = some (.file text.toUTF8) ∧ after.readText output = .ok text ∧
      (directory ≠ "" → after.isDirectory directory = true) ∧
      ∀ other, other ≠ place → after.entry? other = before.entry? other ∨
        before.entry? other = none ∧ after.entry? other = some .directory ∧
          before.OnWay directory other := by
  have makes := before.makeDirectoriesMakes directory
  rw [made] at makes
  obtain ⟨place, located, free, wrote⟩ := FileTree.locateWritten written
  have entries := @FileTree.entryPut files _ (FileTree.freeFilled free) (.file text.toUTF8)
  rw [← wrote] at entries
  refine ⟨place, located, (entries place).trans (if_pos rfl),
    FileTree.readTextBytes (FileTree.readBytesWritten written), fun filled => ?_,
    fun other different => ?_⟩
  · have there := @FileTree.madeDirectories before _ filled (by rw [made])
    rw [made] at there
    rw [wrote]
    exact (FileTree.keepsPut free).isDirectory rfl there
  · rw [entries, if_neg different]
    exact makes.entries other

namespace Saves

variable (saves : Saves saving before outcome)
include saves

theorem withoutSurface (gone : before.surface = none) : outcome = (before, .error .noSurface) := by
  cases saves with
  | noSurface => rfl
  | noPage present => cases gone.symm.trans present
  | unread shown => exact absurd shown (goneShows gone)
  | unmade given | unwritten given | saved given =>
    obtain ⟨surface, shown, -⟩ := given
    exact absurd shown (goneShows gone)

theorem withoutPage {surface : Surface} (present : before.surface = some surface)
    (blank : surface.page? = none) : outcome = (before, .error .noPage) := by
  cases saves with
  | noSurface gone => cases gone.symm.trans present
  | noPage => rfl
  | unread shown => exact absurd shown (blankShows present blank)
  | unmade given | unwritten given | saved given =>
    obtain ⟨surface, shown, -⟩ := given
    exact absurd shown (blankShows present blank)

theorem withoutText {surface : Surface} {page : Page} {message : String}
    (shown : before.Shows surface page) (fault : saving.fault surface = some message) :
    outcome = (before, .error (.extraction saving.what (surface.error message))) := by
  cases saves with
  | noSurface gone => exact absurd shown (goneShows gone)
  | noPage present blank => exact absurd shown (blankShows present blank)
  | unread there wrong =>
    obtain ⟨rfl, rfl⟩ := there.unique shown
    cases fault.symm.trans wrong
    rfl
  | unmade given | unwritten given | saved given =>
    obtain ⟨surface, there, readable⟩ := given
    obtain ⟨rfl, rfl⟩ := there.unique shown
    cases fault.symm.trans readable

theorem makingFails {page : Page} {cause : FileFault} (given : before.Gives saving page)
    (failed : (before.files.makeDirectories saving.directory).2 = .error cause) :
    outcome.2 = .error (.io saving.directory cause) := by
  rcases saves.tries given with ⟨_, wrong, there⟩ | ⟨files, made, -⟩
  · cases wrong.symm.trans failed
    exact there
  · rw [made] at failed
    cases failed

theorem writes {page : Page} {files : FileTree} (given : before.Gives saving page)
    (made : before.files.makeDirectories saving.directory = (files, .ok ())) :
    (∃ cause, files.writeText saving.output (saving.content page) = .error cause ∧
      outcome.2 = .error (.io saving.output cause)) ∨
    files.writeText saving.output (saving.content page) = .ok outcome.1.files ∧
      outcome.2 = .ok () := by
  rcases saves.tries given with ⟨_, wrong, -⟩ | ⟨_, there, tried⟩
  · rw [made] at wrong
    cases wrong
  · cases there.symm.trans made
    exact tried

theorem writingFails {page : Page} {files : FileTree} {cause : FileFault}
    (given : before.Gives saving page)
    (made : before.files.makeDirectories saving.directory = (files, .ok ()))
    (failed : files.writeText saving.output (saving.content page) = .error cause) :
    outcome.2 = .error (.io saving.output cause) := by
  rcases saves.writes given made with ⟨_, wrong, same⟩ | ⟨done, -⟩
  · cases wrong.symm.trans failed
    exact same
  · cases done.symm.trans failed

theorem writingSucceeds {page : Page} {files after : FileTree} (given : before.Gives saving page)
    (made : before.files.makeDirectories saving.directory = (files, .ok ()))
    (written : files.writeText saving.output (saving.content page) = .ok after) :
    outcome.2 = .ok () ∧ outcome.1.files = after := by
  rcases saves.writes given made with ⟨_, wrong, -⟩ | ⟨done, same⟩
  · cases wrong.symm.trans written
  · cases done.symm.trans written
    exact ⟨same, rfl⟩

theorem faultNamed {path : String} {cause : FileFault}
    (failed : outcome.2 = .error (.io path cause)) :
    path = saving.directory ∧
        (before.files.makeDirectories saving.directory).2 = .error cause ∨
      path = saving.output ∧ (before.files.makeDirectories saving.directory).2 = .ok () ∧
        ∃ page, before.Gives saving page ∧
          outcome.1.files.writeText saving.output (saving.content page) = .error cause := by
  cases saves with
  | noSurface | noPage | unread => cases failed
  | unmade _ made =>
    cases failed
    exact .inl ⟨rfl, by rw [made]⟩
  | @unwritten page _ _ given made wrong =>
    cases failed
    exact .inr ⟨rfl, by rw [made], page, given, wrong⟩
  | saved => cases failed

theorem touchesOne : TouchesOne saving before outcome where
  noSurface := saves.withoutSurface
  noPage _ := saves.withoutPage
  unread _ _ _ := saves.withoutText
  unmade _ _ := saves.makingFails
  unwritten _ _ _ := saves.writingFails
  succeeds _ _ _ := saves.writingSucceeds
  saved done := by
    cases saves with
    | noSurface | noPage | unread | unmade | unwritten => cases done
    | @saved page _ _ given made written =>
      obtain ⟨place, written⟩ := FileTree.writtenOne made written
      exact ⟨page, place, given, written⟩
  failed _ failed := ⟨saves.makes failed, (saves.makes failed).file⟩
  named _ _ := saves.faultNamed

end Saves

end

/-- Saving markup, and saving text, change no file but the one at the output path. -/
theorem savesTouchOne :
    (∀ (command : SaveMarkup) (ctx : Context), TouchesOne
      { directory := command.path
        output := Path.join command.path command.filename
        what := "markup"
        fault := fun surface => surface.faults.markup
        content := Page.markup } ctx (command.execute ctx)) ∧
    ∀ (command : SaveText) (ctx : Context), TouchesOne
      { directory := command.resolveFolder ctx.settings
        output := command.output ctx
        what := "text"
        fault := fun surface => surface.faults.text
        content := Page.text } ctx (command.execute ctx) :=
  ⟨fun command ctx => (command.executeSaves ctx).touchesOne,
    fun command ctx => (command.executeSaves ctx).touchesOne⟩

-- A file stands where the last directory should be: it stays, and so does what was made before.
example : (SaveMarkup.execute ⟨"a.html", "out/../deep"⟩
    { surface := some { handle := { shown := some ⟨"u", "<p>", "p"⟩ } },
      files := ⟨[(["deep"], .file "x".toUTF8)], []⟩ }).1.files.entries =
    [(["out"], .directory), (["deep"], .file "x".toUTF8)] := by decide +kernel

end PageScript
