/-
This file reads JSON text.
-/

import Tabletop.Json.Value
import Tabletop.Number.Numeral
import Tabletop.Text.Cut

namespace Tabletop.Json

open Number

/-- Containers lie inside each other fewer than this many times. -/
def maxDepth : Nat := 128

def skipBlanks (text : List Char) : List Char :=
  text.dropWhile Text.isTokenBlank

def hexValue? (char : Char) : Option Nat :=
  if char.isDigit then some (Text.digitValue char)
  else if 'a' ≤ char ∧ char ≤ 'f' then some (char.toNat - 'a'.toNat + 10)
  else if 'A' ≤ char ∧ char ≤ 'F' then some (char.toNat - 'A'.toNat + 10)
  else none

/-- The number of four hexadecimal digits. -/
def hexWord? (first second third fourth : Char) : Option Nat := do
  return 4096 * (← hexValue? first) + 256 * (← hexValue? second) + 16 * (← hexValue? third) +
    (← hexValue? fourth)

def isHighSurrogate (code : Nat) : Bool := 0xD800 ≤ code && code < 0xDC00

def isLowSurrogate (code : Nat) : Bool := 0xDC00 ≤ code && code < 0xE000

/-- The character of an escape with one letter. -/
def simpleEscape? : Char → Option Char
  | '"' => some '"'
  | '\\' => some '\\'
  | '/' => some '/'
  | 'b' => some '\x08'
  | 'f' => some '\x0c'
  | 'n' => some '\n'
  | 'r' => some '\r'
  | 't' => some '\t'
  | _ => none

/-- Puts a character in front of what a reader found. -/
def prepend (char : Char) : Option (List Char × List Char) → Option (List Char × List Char)
  | some (chars, rest) => some (char :: chars, rest)
  | none => none

/-- Reads the inside of a string and its closing quote. -/
def readChars : List Char → Option (List Char × List Char)
  | '"' :: rest => some ([], rest)
  | '\\' :: 'u' :: a :: b :: c :: d :: '\\' :: 'u' :: e :: f :: g :: h :: rest =>
    match hexWord? a b c d with
    | none => none
    | some high =>
      if isHighSurrogate high then
        match hexWord? e f g h with
        | none => none
        | some low =>
          if isLowSurrogate low then
            prepend (Char.ofNat (0x10000 + 0x400 * (high - 0xD800) + (low - 0xDC00)))
              (readChars rest)
          else none
      else if isLowSurrogate high then none
      else prepend (Char.ofNat high) (readChars ('\\' :: 'u' :: e :: f :: g :: h :: rest))
  | '\\' :: 'u' :: a :: b :: c :: d :: rest =>
    match hexWord? a b c d with
    | none => none
    | some code =>
      if isHighSurrogate code || isLowSurrogate code then none
      else prepend (Char.ofNat code) (readChars rest)
  | '\\' :: escape :: rest =>
    match simpleEscape? escape with
    | none => none
    | some char => prepend char (readChars rest)
  | char :: rest => if char.toNat < 0x20 then none else prepend char (readChars rest)
  | [] => none

/-- Reads the digits, the fraction and the exponent of a number. -/
def readUnsigned (negative : Bool) (text : List Char) : Option (JsonNumber × List Char) := do
  let whole := text.takeWhile Char.isDigit
  let rest := text.dropWhile Char.isDigit
  if whole.isEmpty || (whole.head? = some '0' && 1 < whole.length) then none
  else
    let (fraction, rest) ← match rest with
      | '.' :: behind =>
        let digits := behind.takeWhile Char.isDigit
        if digits.isEmpty then none else some (some digits, behind.dropWhile Char.isDigit)
      | _ => some (none, rest)
    let (exponent, rest) ← match rest with
      | 'e' :: behind => readExponent behind
      | 'E' :: behind => readExponent behind
      | _ => some (none, rest)
    match fraction, exponent with
    | none, none =>
      let value := natOfDigits whole
      if negative && value = 0 then some (.scaled true 0 0, rest)
      else some (.whole (if negative then -(value : Int) else value), rest)
    | _, _ =>
      let places := fraction.getD []
      some (.scaled negative (natOfDigits (whole ++ places))
        (exponent.getD 0 - (places.length : Int)), rest)
where
  readExponent (text : List Char) : Option (Option Int × List Char) :=
    let (negative, text) := match text with
      | '+' :: rest => (false, rest)
      | '-' :: rest => (true, rest)
      | _ => (false, text)
    let digits := text.takeWhile Char.isDigit
    if digits.isEmpty then none
    else
      let value : Int := natOfDigits digits
      some (some (if negative then -value else value), text.dropWhile Char.isDigit)

def readNumber : List Char → Option (JsonNumber × List Char)
  | '-' :: rest => readUnsigned true rest
  | text => readUnsigned false text

/-- A reader of a first value. It gives back the text behind it. -/
abbrev Reader (α : Type) := List Char → Option (α × List Char)

/-- Reads `, item` until the closing bracket. The fuel bounds the items. -/
def readItems (item : Reader Json) : Nat → Reader (List Json)
  | 0, _ => none
  | fuel + 1, text =>
    match skipBlanks text with
    | ']' :: rest => some ([], rest)
    | ',' :: rest => do
      let (value, behind) ← item (skipBlanks rest)
      let (others, behind) ← readItems item fuel behind
      return (value :: others, behind)
    | _ => none

/-- Reads `"key": value`. -/
def readField (item : Reader Json) : Reader (String × Json)
  | '"' :: text => do
    let (key, rest) ← readChars text
    match skipBlanks rest with
    | ':' :: behind => do
      let (value, behind) ← item (skipBlanks behind)
      return ((String.ofList key, value), behind)
    | _ => none
  | _ => none

/-- Reads `, "key": value` until the closing brace. The fuel bounds the fields. -/
def readFields (item : Reader Json) : Nat → Reader (List (String × Json))
  | 0, _ => none
  | fuel + 1, text =>
    match skipBlanks text with
    | '\x7d' :: rest => some ([], rest)
    | ',' :: rest => do
      let (field, behind) ← readField item (skipBlanks rest)
      let (others, behind) ← readFields item fuel behind
      return (field :: others, behind)
    | _ => none

/-- Reads a value with room for fewer than `room` containers inside each other. -/
def readValue : (room : Nat) → Reader Json
  | 0, _ => none
  | room + 1, text =>
    match text with
    | '"' :: rest => (readChars rest).map fun (chars, behind) => (.text chars, behind)
    | '[' :: rest =>
      match skipBlanks rest with
      | ']' :: behind => if room = 0 then none else some (.array [], behind)
      | first => do
        let (value, behind) ← readValue room first
        let (others, behind) ← readItems (readValue room) behind.length behind
        return (.array (value :: others), behind)
    | '\x7b' :: rest =>
      match skipBlanks rest with
      | '\x7d' :: behind => if room = 0 then none else some (.object [], behind)
      | first => do
        let (field, behind) ← readField (readValue room) first
        let (others, behind) ← readFields (readValue room) behind.length behind
        return (.object (field :: others), behind)
    | 't' :: 'r' :: 'u' :: 'e' :: rest => some (.bool true, rest)
    | 'f' :: 'a' :: 'l' :: 's' :: 'e' :: rest => some (.bool false, rest)
    | 'n' :: 'u' :: 'l' :: 'l' :: rest => some (.null, rest)
    | _ => (readNumber text).map fun (value, behind) => (.number value, behind)

/-- Reads a text that holds one value. -/
def parse (text : List Char) : Option Json := do
  let (value, rest) ← readValue maxDepth (skipBlanks text)
  if (skipBlanks rest).isEmpty then some value else none

end Tabletop.Json
