import PageScript.Json.Shape
import PageScript.Script.Basic

/-! Reading records and scripts from JSON text. The kind of a record stands once; a parameter may be
repeated. A script is an object, whose other members are passed over, or the version and the
commands in an array. Every command has to be a record. -/
namespace PageScript

namespace Record

structure Parts where
  kind : Option String := none
  params : List (String × Json) := []

open Json in
def readMember (budget : Budget) (parts : Parts) (key : String) (cs : List Char) :
    Except Fault (Taken Parts) := do
  if key = kindKey then
    if parts.kind.isSome then .error .mistyped
    let (kind, rest) ← wantString (← readColon cs)
    .ok ({ parts with kind := some kind }, rest)
  else
    let (value, rest) ← keep budget (← readColon cs)
    .ok ({ parts with params := parts.params ++ [(key, value)] }, rest)

def ofParts (parts : Parts) : Except Json.Fault Record :=
  match parts.kind with
  | some kind => .ok ⟨kind, Json.Members.ofList parts.params⟩
  | none => .error .mistyped

def readFrom (budget : Json.Budget) (cs : List Char) : Except Json.Fault (Json.Taken Record) := do
  match Json.skipSpace cs with
  | [] => .error .truncated
  | c :: rest =>
    if c ≠ '{' then .error (Json.unwanted (c :: rest))
    else
      let (parts, rest) ← Json.foldMembers (readMember (budget - 1)) {} rest
      .ok (← ofParts parts, rest)

def read (text : String) : Except Json.Fault Record := do
  let (record, rest) ← readFrom Json.fullBudget text.toList
  Json.finish rest
  .ok record

end Record

namespace Script

structure Parts where
  version : Option String := none
  commands : Option (List Record) := none

open Json

def readCommands (cs : List Char) : Except Fault (Taken (List Record)) :=
  wantItems (Record.readFrom (fullBudget - 2)) cs

def readMember (parts : Parts) (key : String) (cs : List Char) : Except Fault (Taken Parts) := do
  if key = versionKey then
    if parts.version.isSome then .error .mistyped
    let (version, rest) ← wantString (← readColon cs)
    .ok ({ parts with version := some version }, rest)
  else if key = commandsKey then
    if parts.commands.isSome then .error .mistyped
    let (commands, rest) ← readCommands (← readColon cs)
    .ok ({ parts with commands := some commands }, rest)
  else
    .ok (parts, ← pass (← readColon cs))

def ofParts (parts : Parts) : Except Fault Script :=
  match parts.commands with
  | some commands => .ok ⟨parts.version.getD defaultVersion, commands⟩
  | none => .error .mistyped

def readPair (cs : List Char) : Except Fault (Taken Script) := do
  if (closedAtOnce? ']' cs).isSome then .error .mistyped
  let (version, rest) ← wantString cs
  match ← readSeparator ']' rest with
  | .closed _ => .error .mistyped
  | .more rest =>
    let (commands, rest) ← readCommands rest
    match ← readSeparator ']' rest with
    | .closed rest => .ok (⟨version, commands⟩, rest)
    | .more _ => .error .malformed

def readFrom (cs : List Char) : Except Fault (Taken Script) := do
  match skipSpace cs with
  | [] => .error .truncated
  | c :: rest =>
    if c = '[' then readPair rest
    else if c = '{' then
      let (parts, rest) ← foldMembers readMember {} rest
      .ok (← ofParts parts, rest)
    else .error (unwanted (c :: rest))

def read (text : String) : Except Fault Script := do
  let (script, rest) ← readFrom text.toList
  finish rest
  .ok script

end Script

end PageScript
