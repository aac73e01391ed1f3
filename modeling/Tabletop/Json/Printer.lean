/-
This file writes JSON text, on one line or with two blanks of indentation for each level.
-/

import Tabletop.Json.Value
import Tabletop.Number.Numeral
import Tabletop.Text.Quoted
import Tabletop.Text.Cut

namespace Tabletop.Json

open Number

/-- A character inside a string. -/
def stringChar (char : Char) : List Char :=
  match char with
  | '"' => ['\\', '"']
  | '\\' => ['\\', '\\']
  | '\x08' => ['\\', 'b']
  | '\x0c' => ['\\', 'f']
  | '\n' => ['\\', 'n']
  | '\r' => ['\\', 'r']
  | '\t' => ['\\', 't']
  | _ =>
    if char.toNat < 0x20 then
      let digits := Text.hexDigits char.toNat
      ['\\', 'u'] ++ List.replicate (4 - digits.length) '0' ++ digits
    else [char]

def stringText (text : String) : List Char :=
  ['"'] ++ text.toList.flatMap stringChar ++ ['"']

def numberText : JsonNumber → List Char
  | .whole value => writeInt value
  | .scaled negative digits exponent =>
    (if negative then ['-'] else []) ++ writeNat digits ++ ['e'] ++ writeInt exponent

mutual

/-- The value on one line. -/
def compact : Json → List Char
  | .null => "null".toList
  | .bool true => "true".toList
  | .bool false => "false".toList
  | .number value => numberText value
  | .string text => stringText text
  | .array items => ['['] ++ Text.join [','] (compactItems items) ++ [']']
  | .object fields => ['\x7b'] ++ Text.join [','] (compactFields fields) ++ ['\x7d']

def compactItems : List Json → List (List Char)
  | [] => []
  | item :: rest => compact item :: compactItems rest

def compactFields : List (String × Json) → List (List Char)
  | [] => []
  | (key, value) :: rest => (stringText key ++ [':'] ++ compact value) :: compactFields rest

end

/-- A new line with the blanks of a level. -/
def lineBreak (level : Nat) : List Char :=
  '\n' :: List.replicate (2 * level) ' '

/-- Indented parts between an opening and a closing sign. -/
def block (opening closing : Char) (level : Nat) (parts : List (List Char)) : List Char :=
  if parts.isEmpty then [opening, closing]
  else
    [opening] ++ lineBreak (level + 1) ++ Text.join (',' :: lineBreak (level + 1)) parts ++
      lineBreak level ++ [closing]

mutual

/-- The value with its parts on lines of their own. -/
def indented (level : Nat) : Json → List Char
  | .array items => block '[' ']' level (indentedItems (level + 1) items)
  | .object fields => block '\x7b' '\x7d' level (indentedFields (level + 1) fields)
  | value => compact value

def indentedItems (level : Nat) : List Json → List (List Char)
  | [] => []
  | item :: rest => indented level item :: indentedItems level rest

def indentedFields (level : Nat) : List (String × Json) → List (List Char)
  | [] => []
  | (key, value) :: rest =>
    (stringText key ++ [':', ' '] ++ indented level value) :: indentedFields level rest

end

/-- The text of a value on one line. -/
def toLine (value : Json) : String :=
  String.ofList (compact value)

/-- The text of a value with indentation. -/
def toLines (value : Json) : String :=
  String.ofList (indented 0 value)

end Tabletop.Json
