import PageScript.Proofs.Command.Canonical
import PageScript.Proofs.Files.Within
import PageScript.Proofs.Run.Civil

/-! Files that texts are captured in. A name of one of them is a single component of a path,
whatever the tag was made from, so the file is in the folder that was resolved; it tells the time
and the tag, and no other time and tag have the same name. -/
open PageScript.Path (Component)

namespace PageScript.SaveText

/-! ### Names -/

/-- The ending that a tag gives to a name. -/
def ending : Option String → List Char
  | some tag => '_' :: tag.toList
  | none => []

/-- Digits tell the time, a tag is made of what a tag may be made of, and dots stand where they are
put. -/
inductive Name : Option String → List Char → Prop
  | mk {tag : Option String} (stamp millis : List Char) (stampLength : stamp.length = 14)
      (stampDigits : ∀ c ∈ stamp, c.isDigit = true) (millisLength : millis.length = 3)
      (millisDigits : ∀ c ∈ millis, c.isDigit = true)
      (tagged : ∀ clean, tag = some clean → Clean clean.toList) :
      Name tag (stamp ++ '.' :: millis ++ ending tag ++ ".txt".toList)

variable {tag otherTag : Option String} {time other : CivilTime}

theorem captureParts (reading : time.Reading) (tag : Option String) :
    (captureName time tag).toList = time.stamp ++ ending tag ++ ".txt".toList := by
  have shown : min time.millisecond 999 = time.millisecond :=
    Nat.min_eq_left (Nat.le_of_lt_succ reading.millisecond)
  cases tag <;> simp [captureName, ending, shown]

theorem captureNamed (reading : time.Reading)
    (clean : ∀ clean, tag = some clean → Clean clean.toList) :
    Name tag (captureName time tag).toList := by
  rw [captureParts reading, CivilTime.stampParts]
  exact .mk _ _ reading.dateTimeLength time.dateTimeDigits reading.millisLength
    (CivilTime.paddedDigits 3 _) clean

theorem endingInjective (same : ending tag = ending otherTag) : tag = otherTag := by
  cases tag <;> cases otherTag <;> simp_all [ending, String.toList_inj]

theorem captureInjective (reading : time.Reading) (otherReading : other.Reading) :
    captureName time tag = captureName other otherTag ↔ time = other ∧ tag = otherTag := by
  refine ⟨fun same => ?_, fun ⟨times, tags⟩ => by rw [times, tags]⟩
  have chars := congrArg String.toList same
  rw [captureParts reading, captureParts otherReading, List.append_left_inj] at chars
  obtain ⟨stamps, endings⟩ :=
    List.append_inj chars (reading.stampLength.trans otherReading.stampLength.symm)
  exact ⟨reading.stampInjective otherReading stamps, endingInjective endings⟩

theorem digitTagChar {c : Char} (digit : c.isDigit = true) : isTagChar c = true := by
  simp [isTagChar, Text.isAlphanumeric, Char.isAlphanum, digit]

variable {name : List Char}

theorem Name.chars (named : Name tag name) : ∀ c ∈ name, isTagChar c = true ∨ c = '.' := by
  cases named with
  | mk stamp millis _ stampDigits _ millisDigits clean =>
    have suffix : ∀ c ∈ ending tag, isTagChar c = true := by
      cases tag with
      | none => nofun
      | some tag => exact List.forall_mem_cons.mpr ⟨rfl, (clean tag rfl).chars⟩
    intro c member
    simp only [List.mem_append, List.mem_cons] at member
    rcases member with ((first | rfl | second) | third) | last
    · exact .inl (digitTagChar (stampDigits c first))
    · exact .inr rfl
    · exact .inl (digitTagChar (millisDigits c second))
    · exact .inl (suffix c third)
    · have letters : ".txt".toList = ['.', 't', 'x', 't'] := rfl
      simp only [letters, List.mem_cons, List.not_mem_nil, or_false] at last
      rcases last with rfl | rfl | rfl | rfl
      · exact .inr rfl
      all_goals exact .inl rfl

theorem Name.long (named : Name tag name) : 22 ≤ name.length := by
  cases named with
  | mk stamp millis stampLength _ millisLength =>
    have last : ".txt".toList.length = 4 := rfl
    simp only [List.length_append, List.length_cons, stampLength, millisLength, last]
    omega

theorem Name.without (named : Name tag name) {c : Char} (other : isTagChar c = false)
    (notDot : c ≠ '.') : c ∉ name := by
  intro member
  rcases named.chars c member with tagChar | dot
  · exact absurd (tagChar.symm.trans other) (by decide)
  · exact notDot dot

theorem Name.component {name : String} (named : Name tag name.toList) : Component name where
  filled := by
    rintro rfl
    exact absurd named.long (by decide)
  noSlash := named.without (by decide +kernel) (by decide)
  noNul := named.without (by decide +kernel) (by decide)
  notHere := by
    rintro rfl
    exact absurd named.long (by decide)
  notUp := by
    rintro rfl
    exact absurd named.long (by decide)

/-! ### Folders -/

/-- The folder of the record, or else that of the settings, or else the default one. An empty text
names no folder. -/
inductive Resolved (record : Record) (settings : Option Settings) : String → Prop
  | given (folder : String) (found : record.text? "folder" = .ok (some folder))
      (filled : folder ≠ "") : Resolved record settings folder
  | setting (stored : Settings) (folder : String)
      (notGiven : ∀ given, record.text? "folder" = .ok (some given) → given = "")
      (store : settings = some stored)
      (found : stored.lookup? "save_folder" = some (.string folder)) (filled : folder ≠ "") :
      Resolved record settings folder
  | otherwise (notGiven : ∀ given, record.text? "folder" = .ok (some given) → given = "")
      (notSet : ∀ stored folder, settings = some stored →
        stored.lookup? "save_folder" = some (.string folder) → folder = "") :
      Resolved record settings "./output/captures"

variable {record : Record} {command : SaveText} {settings : Option Settings} {folder : String}

theorem Resolved.filled (resolved : Resolved record settings folder) : folder ≠ "" := by
  cases resolved with
  | given _ _ filled => exact filled
  | setting _ _ _ _ _ filled => exact filled
  | otherwise => decide

theorem builtParts (built : ofRecord record = .ok command) :
    ∃ tag folder, record.text? "tag" = .ok tag ∧ record.text? "folder" = .ok folder ∧
      command = make tag folder := by
  obtain ⟨tag, readTag, built⟩ := Result.bindOk.mp built
  obtain ⟨folder, readFolder, built⟩ := Result.bindOk.mp built
  exact ⟨tag, folder, readTag, readFolder, (Except.ok.inj built).symm⟩

theorem builtClean (built : ofRecord record = .ok command) :
    ∀ clean, command.tag = some clean → Clean clean.toList := by
  obtain ⟨tag, folder, -, -, rfl⟩ := builtParts built
  intro clean kept
  obtain ⟨raw, -, sanitized⟩ := Option.bind_eq_some_iff.mp kept
  exact sanitizeClean sanitized

theorem settingsResolved (notGiven : ∀ given, record.text? "folder" = .ok (some given) → given = "")
    (tag : Option String) (settings : Option Settings) :
    Resolved record settings (resolveFolder ⟨tag, none⟩ settings) := by
  cases settings with
  | none => exact .otherwise notGiven nofun
  | some stored =>
    simp only [resolveFolder, Settings.getText]
    split
    · rename_i folder found
      split
      · rename_i empty
        refine .otherwise notGiven ?_
        rintro stored' folder' ⟨⟩ found'
        cases found.symm.trans found'
        exact String.isEmpty_iff.mp empty
      · rename_i filled
        exact .setting stored folder notGiven rfl found (by simpa using filled)
    · rename_i other
      refine .otherwise notGiven ?_
      rintro stored' folder' ⟨⟩ found
      exact absurd found (other folder')

theorem resolveResolved (built : ofRecord record = .ok command) (settings : Option Settings) :
    Resolved record settings (command.resolveFolder settings) := by
  obtain ⟨tag, folder, -, read, rfl⟩ := builtParts built
  cases folder with
  | none => exact settingsResolved (by simp [read]) _ settings
  | some folder =>
    by_cases empty : folder = ""
    · have none : (some folder).filter (!·.isEmpty) = none := by simp [empty]
      rw [make, none]
      refine settingsResolved ?_ _ settings
      rintro given found
      rw [read] at found
      cases found
      exact empty
    · have filled : (some folder).filter (!·.isEmpty) = some folder := by simp [empty]
      rw [make, filled]
      exact .given folder read empty

/-! ### Runs -/

/-- The text of the page is in a file of that name in the folder, and the log tells its path. -/
structure Saved (folder name : String) (before after : Context) : Prop where
  file : ∃ surface page text files place, before.shownPage = .ok (surface, page) ∧
    surface.text page = .ok text ∧ before.files.makeDirectories folder = (files, .ok ()) ∧
    files.locate folder = .ok place ∧
    after.files = files.put (place ++ [name]) (.file text.toUTF8)
  told : after.log.toList.getLast?.map (·.message) =
    some s!"Saved TEXT to: {Path.join folder name}"

theorem madeDirectory {ctx next : Context} {path : String}
    (made : ctx.makeDirectory path = (next, .ok ())) :
    ∃ files, ctx.files.makeDirectories path = (files, .ok ()) ∧ next = { ctx with files } := by
  unfold Context.makeDirectory at made
  obtain ⟨rfl, ok⟩ := Prod.mk.inj made
  exact ⟨_, Prod.ext rfl (Result.mapErrorOk.mp ok), rfl⟩

theorem stored {ctx after : Context} {output text : String}
    (done : store output text ctx = (after, .ok ())) :
    ∃ files, ctx.files.writeText output text = .ok files ∧
      after = Context.info { ctx with files } s!"Saved TEXT to: {output}" := by
  unfold store Context.writeFile at done
  split at done
  · cases done
  · rename_i next written
    split at written
    · rename_i files wrote
      cases written
      exact ⟨files, wrote, (Prod.mk.inj done).1.symm⟩
    · cases written

theorem executeSaved {ctx after : Context} (resolved : Resolved record ctx.settings folder)
    (place : command.resolveFolder ctx.settings = folder)
    (component : Component (captureName (CivilTime.ofNanoseconds ctx.clock.now) command.tag))
    (done : command.execute ctx = (after, .ok ())) :
    Saved folder (captureName (CivilTime.ofNanoseconds ctx.clock.now) command.tag) ctx after := by
  unfold execute at done
  split at done
  · cases done
  rename_i surface page shown
  split at done
  · cases done
  rename_i text extracted
  dsimp only at done
  split at done
  · cases done
  rename_i next made
  rw [place] at made done
  obtain ⟨files, directories, rfl⟩ := madeDirectory made
  obtain ⟨written, wrote, rfl⟩ := stored done
  obtain ⟨parent, located, -, rfl⟩ :=
    FileTree.writtenWithin component resolved.filled wrote
  refine ⟨⟨surface, page, text, files, parent, shown, extracted, directories, located, rfl⟩, ?_⟩
  simp [Context.info, Context.logAt]

/-- A capture is in the folder that was resolved, under a name of its own component, and the name is
that of another capture only if both readings and both tags are the same. -/
theorem capturesStay (built : ofRecord record = .ok command) (settings : Option Settings)
    (reading : time.Reading) :
    let folder := command.resolveFolder settings
    let name := captureName time command.tag
    Resolved record settings folder ∧
    (∃ raw, record.text? "tag" = .ok raw ∧ command.tag = raw.bind sanitizeTag) ∧
    Name command.tag name.toList ∧ Component name ∧
    Path.components (Path.join folder name) = Path.components folder ++ [name] ∧
    (∀ ctx after, ctx.settings = settings → (CivilTime.ofNanoseconds ctx.clock.now).year < 10000 →
      command.execute ctx = (after, .ok ()) →
      Saved folder (captureName (CivilTime.ofNanoseconds ctx.clock.now) command.tag) ctx after) ∧
    ∀ otherRecord otherCommand, ofRecord otherRecord = .ok otherCommand →
      (∀ other : CivilTime, other.Reading → (name = captureName other otherCommand.tag ↔
        time = other ∧ command.tag = otherCommand.tag)) ∧
      ∀ now other, (CivilTime.ofNanoseconds now).year < 10000 →
        (CivilTime.ofNanoseconds other).year < 10000 →
        (captureName (CivilTime.ofNanoseconds now) command.tag =
            captureName (CivilTime.ofNanoseconds other) otherCommand.tag ↔
          now.millis = other.millis ∧ command.tag = otherCommand.tag) := by
  intro folder name
  have resolved := resolveResolved built settings
  have named (time : CivilTime) (reading : time.Reading) :
      Name command.tag (captureName time command.tag).toList :=
    captureNamed reading (builtClean built)
  have component := (named time reading).component
  obtain ⟨tag, _, readTag, -, same⟩ := builtParts built
  refine ⟨resolved, ⟨tag, readTag, by rw [same]; rfl⟩, named time reading, component,
    Path.componentsJoin component folder, ?_, ?_⟩
  · rintro ctx after rfl year done
    have shown := named _ (CivilTime.ofNanosecondsReading year)
    exact executeSaved resolved rfl shown.component done
  · intro otherRecord otherCommand _
    refine ⟨fun other => captureInjective reading, fun now other year otherYear => ?_⟩
    rw [captureInjective (CivilTime.ofNanosecondsReading year)
      (CivilTime.ofNanosecondsReading otherYear), CivilTime.ofNanosecondsSame]

theorem capturesStayTagged :
    let record : Record := ⟨saveTextKind, [("tag", .string "../a b/..")]⟩
    let command : SaveText := ⟨some "a_b", none⟩
    let settings := Settings.ofMembers [("save_folder", .string "out/")]
    let name := captureName ⟨2024, 2, 29, 23, 59, 59, 999⟩ command.tag
    ofRecord record = .ok command ∧ command.resolveFolder (some settings) = "out/" ∧
      name = "20240229235959.999_a_b.txt" ∧ Component name ∧
      Path.components (Path.join "out/" name) = ["out", name] := by
  intro record command settings name
  have built : ofRecord record = .ok command := by decide +kernel
  have reading : CivilTime.Reading ⟨2024, 2, 29, 23, 59, 59, 999⟩ := by constructor <;> decide
  obtain ⟨-, -, -, component, within, -, -⟩ := capturesStay built (some settings) reading
  have folder : command.resolveFolder (some settings) = "out/" := by decide +kernel
  have parts : Path.components "out/" = ["out"] := by decide +kernel
  rw [folder, parts] at within
  exact ⟨built, folder, by decide +kernel, component, within⟩

end PageScript.SaveText
