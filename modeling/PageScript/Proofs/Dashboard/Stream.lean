import Mathlib.Data.List.Forall2
import PageScript.Dashboard.Event
import PageScript.Proofs.Json.Compact

/-! What is read from the event stream. Events are told apart by empty lines, so that whatever their
data holds is read back from them, as long as no carriage return is in it; and no end of a line is
in the data of what a run publishes. -/
namespace PageScript.Dashboard

namespace StreamEvent

/-! ### Lines -/

def Unbroken (cs : List Char) : Prop := ∀ c ∈ cs, c ≠ '\n' ∧ c ≠ '\r'

theorem Unbroken.append {a b : List Char} (left : Unbroken a) (right : Unbroken b) :
    Unbroken (a ++ b) :=
  List.forall_mem_append.mpr ⟨left, right⟩

instance : DecidablePred Unbroken := List.decidableBAll _

theorem streamLinesOne {line : List Char} (unbroken : Unbroken line) (current rest : List Char) :
    streamLines current (line ++ '\n' :: rest) =
      (current.reverse ++ line) :: streamLines [] rest := by
  induction line generalizing current with
  | nil => simp [streamLines]
  | cons c line ih =>
    obtain ⟨⟨notFeed, notReturn⟩, others⟩ := List.forall_mem_cons.mp unbroken
    have further := ih others (c :: current)
    simp only [List.cons_append]
    rw [streamLines]
    · simp only [notFeed, notReturn, decide_false, Bool.or_self, Bool.false_eq_true, if_false]
      simpa using further
    · rintro _ rfl
      exact absurd rfl notReturn

theorem streamLinesAll {rows : List (List Char)} (unbroken : ∀ row ∈ rows, Unbroken row)
    (rest : List Char) :
    streamLines [] (rows.flatMap (· ++ ['\n']) ++ rest) = rows ++ streamLines [] rest := by
  induction rows with
  | nil => rfl
  | cons row rows ih =>
    obtain ⟨here, others⟩ := List.forall_mem_cons.mp unbroken
    have one := streamLinesOne here [] (rows.flatMap (· ++ ['\n']) ++ rest)
    rw [ih others] at one
    simpa using one

theorem dataLinesSplit (data : List Char) : dataLines data = data.splitOn '\n' := by
  induction data with
  | nil => rfl
  | cons c rest ih =>
    rw [List.splitOn_cons_eq_if_modifyHead, dataLines, ih]
    by_cases feed : c = '\n'
    · simp [feed]
    · cases split : rest.splitOn '\n' with
      | nil => exact absurd split (List.splitOn_ne_nil '\n' rest)
      | cons line others => simp [feed]

theorem dataLinesChars {data line : List Char} (member : line ∈ dataLines data) :
    ∀ c ∈ line, c ∈ data ∧ c ≠ '\n' := by
  induction data generalizing line with
  | nil =>
    rw [List.mem_singleton.mp member]
    exact List.forall_mem_nil _
  | cons d rest ih =>
    have later {line : List Char} (member : line ∈ dataLines rest) :
        ∀ c ∈ line, c ∈ d :: rest ∧ c ≠ '\n' :=
      fun c inside => (ih member c inside).imp_left (List.mem_cons_of_mem d)
    rw [dataLines] at member
    split at member
    · rcases List.mem_cons.mp member with rfl | member
      · exact List.forall_mem_nil _
      · exact later member
    · rename_i notFeed
      have here : d ∈ d :: rest ∧ d ≠ '\n' := ⟨List.mem_cons_self, notFeed⟩
      split at member
      · rw [List.mem_singleton.mp member]
        exact List.forall_mem_singleton.mpr here
      · rename_i first others split
        rw [split] at later
        rcases List.mem_cons.mp member with rfl | member
        · exact List.forall_mem_cons.mpr ⟨here, later List.mem_cons_self⟩
        · exact later (List.mem_cons_of_mem _ member)

/-! ### One event -/

def row (key value : List Char) : List Char := key ++ ':' :: ' ' :: value

theorem lineFieldRow {key : List Char} (plain : ':' ∉ key) (value : List Char) :
    lineField (row key value) = (key, value) := by
  have before : ∀ c ∈ key, decide (c ≠ ':') = true := by
    intro c member
    rw [decide_eq_true_eq]
    rintro rfl
    exact plain member
  have taken : (row key value).takeWhile (· ≠ ':') = key := by
    rw [row, List.takeWhile_append_of_pos before]
    simp
  have dropped : (row key value).dropWhile (· ≠ ':') = ':' :: ' ' :: value := by
    rw [row, List.dropWhile_append_of_pos before]
    simp
  rw [lineField, taken, dropped]
  rfl

def rows (e : StreamEvent) : List (List Char) :=
  row eventKey e.name :: (dataLines e.data).map (row dataKey)

theorem encodeRows (e : StreamEvent) :
    e.encode = (e.rows ++ [[]]).flatMap (· ++ ['\n']) := by
  have marked : (fun value => row dataKey value ++ ['\n']) = field dataKey := by
    funext value
    simp [row, field]
  rw [rows, List.flatMap_append, List.flatMap_cons, List.flatMap_map, marked]
  simp [encode, block, row, field]

theorem acceptData (p : Pending) (value : List Char) :
    p.accept (row dataKey value) = { p with data := some (match p.data with
      | some data => data ++ '\n' :: value
      | none => value) } := by
  rw [Pending.accept, lineFieldRow (by decide)]
  rfl

theorem collectRow (p : Pending) (key value : List Char) (rest : List (List Char)) :
    collect p (row key value :: rest) = collect (p.accept (row key value)) rest := by
  cases key <;> rfl

theorem collectData (name data : List Char) (lines : List (List Char))
    (rest : List (List Char)) :
    collect ⟨name, some data⟩ (lines.map (row dataKey) ++ [] :: rest) =
      ⟨name, ['\n'].intercalate (data :: lines)⟩ :: collect {} rest := by
  induction lines generalizing data with
  | nil => simp [collect]
  | cons line lines ih =>
    rw [List.map_cons, List.cons_append, collectRow, acceptData]
    dsimp only
    rw [ih]
    cases lines <;> simp

theorem collectRows (e : StreamEvent) (rest : List (List Char)) :
    collect {} (e.rows ++ [] :: rest) = e :: collect {} rest := by
  have named : Pending.accept {} (row eventKey e.name) = ⟨e.name, none⟩ := by
    rw [Pending.accept, lineFieldRow (by decide)]
    rfl
  cases split : dataLines e.data with
  | nil =>
    rw [dataLinesSplit] at split
    exact absurd split (List.splitOn_ne_nil '\n' e.data)
  | cons line others =>
    have whole : ['\n'].intercalate (line :: others) = e.data := by
      rw [← split, dataLinesSplit]
      exact List.intercalate_splitOn '\n'
    rw [rows, split, List.cons_append, collectRow, named, List.map_cons, List.cons_append,
      collectRow, acceptData]
    dsimp only
    rw [collectData, whole]

/-- Its data may have line feeds. -/
structure Framed (e : StreamEvent) : Prop where
  name : Unbroken e.name
  data : '\r' ∉ e.data

theorem Framed.unbroken {e : StreamEvent} (framed : e.Framed) :
    ∀ line ∈ e.rows ++ [[]], Unbroken line := by
  have marked {key value : List Char} (named : Unbroken key) (unbroken : Unbroken value) :
      Unbroken (row key value) := by
    have colon : Unbroken [':', ' '] := by decide
    simpa [row] using named.append (colon.append unbroken)
  intro line member
  rw [rows, List.cons_append, List.mem_cons, List.mem_append, List.mem_map,
    List.mem_singleton] at member
  rcases member with rfl | ⟨value, inside, rfl⟩ | rfl
  · exact marked (by decide) framed.name
  · refine marked (by decide) fun c here => ?_
    obtain ⟨within, notFeed⟩ := dataLinesChars inside c here
    exact ⟨notFeed, fun isReturn => framed.data (isReturn ▸ within)⟩
  · exact List.forall_mem_nil _

theorem decodeEncoded {events : List StreamEvent} (framed : ∀ e ∈ events, e.Framed) :
    decode (encodeAll events) = events := by
  have lines : streamLines [] (encodeAll events) = events.flatMap fun e => e.rows ++ [[]] := by
    induction events with
    | nil => rfl
    | cons e events ih =>
      obtain ⟨here, others⟩ := List.forall_mem_cons.mp framed
      rw [encodeAll, List.flatMap_cons, encodeRows, streamLinesAll here.unbroken,
        List.flatMap_cons]
      exact congrArg _ (ih others)
  rw [decode, lines]
  clear lines framed
  induction events with
  | nil => rfl
  | cons e events ih =>
    rw [List.flatMap_cons, List.append_assoc, List.singleton_append, collectRows, ih]

end StreamEvent

/-! ### Events of a run -/

namespace RunEvent

/-- Indices and totals are numbers of 64 bits. -/
def Sized : RunEvent → Prop
  | .progress index total _ => index < Nat.pow 2 64 ∧ total < Nat.pow 2 64
  | _ => True

def natural? (members : Json.Members) (key : String) : Option Nat :=
  match members.get? key with
  | some (.number (.whole (.ofNat n))) => some n
  | _ => none

def text? (members : Json.Members) (key : String) : Option String :=
  (members.get? key).bind Json.string?

def flag? (members : Json.Members) (key : String) : Option Bool :=
  (members.get? key).bind Json.bool?

def level? (members : Json.Members) : Option LogLevel := do
  let name ← text? members "level"
  [LogLevel.debug, .info, .warning, .error].find? (·.name = name)

/-- Data says nothing of the kind of its event; the name does. -/
def ofFields? (name : String) (members : Json.Members) : Option RunEvent :=
  if name = "progress" then do
    let index ← natural? members "index"
    let total ← natural? members "total"
    some (.progress index total (← text? members "description"))
  else if name = "log" then do
    some (.log (← level? members) (← text? members "line"))
  else if name = "finished" then do
    some (.finished (← flag? members "success") (← text? members "summary"))
  else none

def ofStream? (e : StreamEvent) : Option RunEvent := do
  let value ← (Json.read (String.ofList e.data)).toOption
  ofFields? (String.ofList e.name) (← value.object?)

theorem framed (event : RunEvent) : event.toStream.Framed where
  name := by
    rw [toStream]
    cases event
    all_goals
      dsimp only [name]
      decide
  data := fun carriage => absurd (Json.compactOneLine event.data _ carriage) (by decide)

theorem dataReads {event : RunEvent} (sized : event.Sized) :
    Json.read event.data.compact = .ok event.data.sorted := by
  have shallow : event.data.depth = 1 := by cases event <;> rfl
  refine Json.readWritten none ?_ (by rw [shallow]; decide)
  cases event with
  | progress index total description =>
    exact ⟨trivial, Json.Number.wholeReadsBack sized.1, Json.Number.wholeReadsBack sized.2, trivial,
      trivial⟩
  | log => exact ⟨trivial, trivial, trivial, trivial⟩
  | finished => exact ⟨trivial, trivial, trivial, trivial⟩

theorem dataFields (event : RunEvent) : ∃ pairs, event.data = .object pairs ∧
    event.data.sorted = .object (Json.Members.ofList pairs) ∧ (pairs.map Prod.fst).Nodup := by
  cases event with
  | progress => exact ⟨_, rfl, rfl, by simp⟩
  | log => exact ⟨_, rfl, rfl, by simp⟩
  | finished => exact ⟨_, rfl, rfl, by simp⟩

theorem ofFieldsBack (event : RunEvent) {pairs members : Json.Members}
    (data : event.data = .object pairs)
    (fields : ∀ key, Json.Members.get? members key = Json.Members.get? pairs key) :
    ofFields? event.name members = some event := by
  cases event with
  | progress index total description =>
    cases data
    have first : natural? members "index" = some index := by rw [natural?, fields]; rfl
    have second : natural? members "total" = some total := by rw [natural?, fields]; rfl
    have third : text? members "description" = some description := by rw [text?, fields]; rfl
    rw [ofFields?, name, if_pos rfl, first, second, third]
    rfl
  | log level line =>
    cases data
    have first : level? members = some level := by
      rw [level?, text?, fields]
      cases level <;> rfl
    have second : text? members "line" = some line := by rw [text?, fields]; rfl
    rw [ofFields?, name, if_neg (by decide), if_pos rfl, first, second]
    rfl
  | finished success summary =>
    cases data
    have first : flag? members "success" = some success := by rw [flag?, fields]; rfl
    have second : text? members "summary" = some summary := by rw [text?, fields]; rfl
    rw [ofFields?, name, if_neg (by decide), if_neg (by decide), if_pos rfl, first, second]
    rfl

theorem ofStreamBack {event : RunEvent} (sized : event.Sized) :
    ofStream? event.toStream = some event := by
  obtain ⟨pairs, data, sorted, distinct⟩ := dataFields event
  rw [ofStream?, toStream, String.ofList_toList, String.ofList_toList, dataReads sized, sorted]
  exact ofFieldsBack event data (Json.Members.getOfList distinct)

/-- What is found in a stream for an event. -/
structure Carried (event : RunEvent) (found : StreamEvent) : Prop where
  name : String.ofList found.name = event.name
  data : Json.read (String.ofList found.data) = .ok event.data.sorted
  whole : ofStream? found = some event

/-- Events whose texts are of any kind are read back from their stream one by one, so that no other
events have the same stream. -/
theorem streamReadsBack (events : List RunEvent) (sized : ∀ event ∈ events, event.Sized) :
    List.Forall₂ Carried events
      (StreamEvent.decode (StreamEvent.encodeAll (events.map toStream))) ∧
    ∀ others : List RunEvent, (∀ event ∈ others, event.Sized) →
      StreamEvent.encodeAll (others.map toStream) = StreamEvent.encodeAll (events.map toStream) →
      others = events := by
  have decoded (events : List RunEvent) :
      StreamEvent.decode (StreamEvent.encodeAll (events.map toStream)) = events.map toStream := by
    refine StreamEvent.decodeEncoded fun found member => ?_
    obtain ⟨event, -, rfl⟩ := List.mem_map.mp member
    exact event.framed
  constructor
  · rw [decoded, List.forall₂_map_right_iff, List.forall₂_same]
    intro event member
    exact {
      name := String.ofList_toList
      data := by rw [toStream, String.ofList_toList]; exact dataReads (sized event member)
      whole := ofStreamBack (sized event member) }
  · intro others othersSized same
    have found : others.map toStream = events.map toStream := by rw [← decoded, same, decoded]
    have back (events : List RunEvent) (sized : ∀ event ∈ events, event.Sized) :
        (events.map toStream).map ofStream? = events.map some := by
      rw [List.map_map]
      exact List.map_congr_left fun event member => ofStreamBack (sized event member)
    have read := congrArg (List.map ofStream?) found
    rw [back others othersSized, back events sized] at read
    exact List.map_injective_iff.mpr (fun _ _ => Option.some.inj) read

theorem streamReadsBackForgery :
    let forged := "\r\n\nevent: finished\ndata: \x7b\"success\":true\x7d\n\n\rdata: \\"
    let events := [.progress 0 2 forged, .log .error forged, .finished false forged]
    List.Forall₂ Carried events
      (StreamEvent.decode (StreamEvent.encodeAll (events.map toStream))) := by
  intro forged events
  refine (streamReadsBack events ?_).1
  simp [events, Sized]

end RunEvent

end PageScript.Dashboard
