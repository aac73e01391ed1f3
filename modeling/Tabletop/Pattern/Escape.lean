/-
This file reads the escapes of patterns and the sets that they stand for.
-/

import Tabletop.Json.Reader
import Tabletop.Pattern.Syntax
import Tabletop.Text.Letter
import Tabletop.Text.CodeRanges

namespace Tabletop.Pattern

open Text

/-- The ways of reading that can be switched inside a pattern. -/
structure Flags where
  ignoreCase : Bool := false
  multiLine : Bool := false
  dotAll : Bool := false
  swapGreed : Bool := false
  ascii : Bool := false
  verbose : Bool := false
deriving DecidableEq, Repr

namespace Flags

/-- The set with the other cases of its characters, if case does not matter. -/
def cased (flags : Flags) (set : CharSet) : CharSet :=
  if flags.ignoreCase then .anyCase set else set

def literal (flags : Flags) (char : Char) : Node :=
  .one (flags.cased (.single char))

end Flags

/-- What an escape stands for. -/
inductive Escape where
  | literal (char : Char)
  | set (set : CharSet)
  | place (place : Place)
deriving DecidableEq, Repr

def asciiDecimal : CharSet := .range '0' '9'

def asciiBlank : CharSet := .union (.range '\t' '\r') (.single ' ')

def asciiLetter : CharSet := .union (.range 'A' 'Z') (.range 'a' 'z')

def asciiWordChar : CharSet := .union (.union asciiDecimal asciiLetter) (.single '_')

/-- The sets that one letter stands for. -/
def letterSet? (flags : Flags) : Char → Option CharSet
  | 'd' => some (if flags.ascii then asciiDecimal else .decimal)
  | 's' => some (if flags.ascii then asciiBlank else .blank)
  | 'w' => some (if flags.ascii then asciiWordChar else .wordChar)
  | 'D' => some (.complement (if flags.ascii then asciiDecimal else .decimal))
  | 'S' => some (.complement (if flags.ascii then asciiBlank else .blank))
  | 'W' => some (.complement (if flags.ascii then asciiWordChar else .wordChar))
  | _ => none

/-- The sets of characters with a property, by the names of properties in lower case. -/
def propertySets : List (List String × CharSet) :=
  [(["l", "letter"], .property letterRanges),
   (["m", "mark"], .property markRanges),
   (["nd", "decimalnumber", "digit"], .decimal),
   (["n", "number"], .union .decimal (.property otherNumberRanges)),
   (["p", "punctuation", "punct"], .property punctuationRanges),
   (["han", "hani"], .property chineseRanges),
   (["alphabetic", "alpha"], .property alphabeticRanges),
   (["whitespace", "wspace", "space"], .blank),
   (["any"], .complement .none),
   (["ascii"], .range '\x00' '\x7f')]

/-- The set of a property. Blanks, lines and case in its name do not matter. -/
def propertySet? (name : List Char) : Option CharSet :=
  let plain (text : List Char) : String :=
    String.ofList ((text.filter fun char => !isBlank char && char != '_' && char != '-').map
      Char.toLower)
  let value := match cutAt? ['='] name with
    | some (kind, value) =>
      if ["script", "sc", "scx", "scriptextensions", "gc", "generalcategory"].contains (plain kind)
      then value else name
    | none => name
  (propertySets.find? fun entry => entry.1.contains (plain value)).map (·.2)

/-- Reads a property behind its letter. -/
def readProperty? (negated : Bool) (text : List Char) : Option (CharSet × List Char) :=
  let signed (negated : Bool) (set : CharSet) : CharSet :=
    if negated then .complement set else set
  match text with
  | '\x7b' :: '^' :: rest => do
    let (name, behind) ← cutAt? ['\x7d'] rest
    return (signed (!negated) (← propertySet? name), behind)
  | '\x7b' :: rest => do
    let (name, behind) ← cutAt? ['\x7d'] rest
    return (signed negated (← propertySet? name), behind)
  | letter :: rest => do return (signed negated (← propertySet? [letter]), rest)
  | [] => none

/-- The character with a code point in hexadecimal digits. -/
def hexChar? (digits : List Char) : Option Char := do
  if digits.isEmpty || 8 < digits.length then none
  else
    let values ← digits.mapM Json.hexValue?
    let code := values.foldl (fun code value => 16 * code + value) 0
    if h : code.isValidChar then some (Char.ofNatAux code h) else none

/-- Reads a code point: digits in braces, or so many digits. -/
def readHex? (width : Nat) (text : List Char) : Option (Char × List Char) :=
  match text with
  | '\x7b' :: rest => do
    let (digits, behind) ← cutAt? ['\x7d'] rest
    return (← hexChar? digits, behind)
  | _ =>
    if (text.take width).length < width then none
    else (hexChar? (text.take width)).map fun char => (char, text.drop width)

/-- Reads the place of an escape for word edges, which may name a side in braces. -/
def readWordEdge (text : List Char) : Place × List Char :=
  let sides : List (String × Place) :=
    [("\x7bstart\x7d", .wordStart), ("\x7bend\x7d", .wordEnd)]
  let found := sides.findSome? fun (name, place) =>
    (after? name.toList text).map fun rest => (place, rest)
  found.getD (.wordEdge, text)

/-- A sign that stands for itself behind a backslash. -/
def isPlainEscape (char : Char) : Bool :=
  char.toNat < 0x80 && !char.isAlphanum && char != '<' && char != '>'

/-- Reads an escape behind its backslash. -/
def readEscape? (flags : Flags) : List Char → Option (Escape × List Char)
  | [] => none
  | 'p' :: rest => (readProperty? false rest).map fun (set, rest) => (.set set, rest)
  | 'P' :: rest => (readProperty? true rest).map fun (set, rest) => (.set set, rest)
  | 'x' :: rest => (readHex? 2 rest).map fun (char, rest) => (.literal char, rest)
  | 'u' :: rest => (readHex? 4 rest).map fun (char, rest) => (.literal char, rest)
  | 'U' :: rest => (readHex? 8 rest).map fun (char, rest) => (.literal char, rest)
  | 'a' :: rest => some (.literal '\x07', rest)
  | 'f' :: rest => some (.literal '\x0c', rest)
  | 't' :: rest => some (.literal '\t', rest)
  | 'n' :: rest => some (.literal '\n', rest)
  | 'r' :: rest => some (.literal '\r', rest)
  | 'v' :: rest => some (.literal '\x0b', rest)
  | 'A' :: rest => some (.place .textStart, rest)
  | 'z' :: rest => some (.place .textEnd, rest)
  | 'b' :: rest =>
    let (place, rest) := readWordEdge rest
    some (.place place, rest)
  | 'B' :: rest => some (.place .wordInside, rest)
  | '<' :: rest => some (.place .wordStart, rest)
  | '>' :: rest => some (.place .wordEnd, rest)
  | char :: rest =>
    match letterSet? flags char with
    | some set => some (.set set, rest)
    | none => if isPlainEscape char then some (.literal char, rest) else none

end Tabletop.Pattern
