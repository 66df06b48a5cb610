import PageScript.Json.Numeral

/-! JSON text of a value, compact or indented by two spaces a level. -/
namespace PageScript.Json

def hexDigit (n : Nat) : Char := "0123456789abcdef".toList.getD n '0'

def escaped (c : Char) : List Char :=
  if c = '"' then ['\\', '"']
  else if c = '\\' then ['\\', '\\']
  else if c = '\n' then ['\\', 'n']
  else if c = '\r' then ['\\', 'r']
  else if c = '\t' then ['\\', 't']
  else if c = '\x08' then ['\\', 'b']
  else if c = '\x0c' then ['\\', 'f']
  else if c.toNat < 0x20 then
    ['\\', 'u', '0', '0', hexDigit (c.toNat / 16), hexDigit (c.toNat % 16)]
  else [c]

def quoted (s : String) : List Char := '"' :: s.toList.flatMap escaped ++ ['"']

abbrev Indent := Option Nat

namespace Indent

def deeper (indent : Indent) : Indent := indent.map (· + 1)

def gap : Indent → List Char
  | none => []
  | some depth => '\n' :: List.replicate (2 * depth) ' '

def colon : Indent → List Char
  | none => [':']
  | some _ => [':', ' ']

end Indent

mutual

def write (indent : Indent) : Json → List Char
  | .null => "null".toList
  | .bool true => "true".toList
  | .bool false => "false".toList
  | .number n => n.write
  | .string s => quoted s
  | .array [] => ['[', ']']
  | .array (item :: items) =>
    '[' :: indent.deeper.gap ++ write indent.deeper item ++ writeItems indent.deeper items ++
      indent.gap ++ [']']
  | .object [] => ['{', '}']
  | .object ((key, value) :: members) =>
    '{' :: indent.deeper.gap ++ quoted key ++ indent.colon ++ write indent.deeper value ++
      writeMembers indent.deeper members ++ indent.gap ++ ['}']

def writeItems (indent : Indent) : List Json → List Char
  | [] => []
  | item :: items => ',' :: indent.gap ++ write indent item ++ writeItems indent items

def writeMembers (indent : Indent) : List (String × Json) → List Char
  | [] => []
  | (key, value) :: members =>
    ',' :: indent.gap ++ quoted key ++ indent.colon ++ write indent value ++
      writeMembers indent members

end

def compact (value : Json) : String := String.ofList (write none value)

def pretty (value : Json) : String := String.ofList (write (some 0) value)

end PageScript.Json
