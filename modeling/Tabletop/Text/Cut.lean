/-
This file defines white space, and how texts are searched and cut at it and at other texts.
-/

import Tabletop.Number.Numeral

namespace Tabletop.Text

/-- A character with the property White Space. -/
def isBlank (char : Char) : Bool :=
  let code := char.toNat
  (0x09 ≤ code && code ≤ 0x0D) || code == 0x20 || code == 0x85 || code == 0xA0 ||
    code == 0x1680 || (0x2000 ≤ code && code ≤ 0x200A) || code == 0x2028 || code == 0x2029 ||
    code == 0x202F || code == 0x205F || code == 0x3000

/-- One of the four blanks that separate the tokens of notations and rules. -/
def isTokenBlank (char : Char) : Bool :=
  char == ' ' || char == '\t' || char == '\r' || char == '\n'

def trimStart (text : List Char) : List Char :=
  text.dropWhile isBlank

def trimEnd (text : List Char) : List Char :=
  (text.reverse.dropWhile isBlank).reverse

def trim (text : List Char) : List Char :=
  trimEnd (trimStart text)

/-- The text without its white space. -/
def squeeze (text : List Char) : List Char :=
  text.filter fun char => !isBlank char

/-- The maximal runs of characters that are not white space. -/
def words : List Char → List (List Char)
  | [] => []
  | char :: rest =>
    if isBlank char then words rest
    else
      match rest, words rest with
      | next :: _, word :: others =>
        if isBlank next then [char] :: word :: others else (char :: word) :: others
      | _, others => [char] :: others

/-- What follows `lead` in a text that starts with it. -/
def after? : (lead text : List Char) → Option (List Char)
  | [], text => some text
  | _ :: _, [] => none
  | expected :: lead, char :: text => if expected = char then after? lead text else none

/-- What stands before `tail` in a text that ends with it. -/
def before? (tail text : List Char) : Option (List Char) :=
  (after? tail.reverse text.reverse).map List.reverse

/-- The text before the first `mark`, and the text after it. -/
def cutAt? (mark : List Char) : List Char → Option (List Char × List Char)
  | [] => if mark.isEmpty then some ([], []) else none
  | char :: rest =>
    match after? mark (char :: rest) with
    | some behind => some ([], behind)
    | none => (cutAt? mark rest).map fun (before, behind) => (char :: before, behind)

/-- The text before the last `mark`, and the text after it. -/
def cutAtLast? (mark : List Char) : List Char → Option (List Char × List Char)
  | [] => if mark.isEmpty then some ([], []) else none
  | char :: rest =>
    match cutAtLast? mark rest with
    | some (before, behind) => some (char :: before, behind)
    | none => (after? mark (char :: rest)).map fun behind => ([], behind)

theorem lengthAfter {lead text rest : List Char} (found : after? lead text = some rest) :
    text.length = lead.length + rest.length := by
  induction lead generalizing text with
  | nil =>
    simp only [after?, Option.some.injEq] at found
    simp [found]
  | cons expected lead inductionHypothesis =>
    cases text with
    | nil => simp [after?] at found
    | cons char text =>
      simp only [after?] at found
      split at found
      · have tail := inductionHypothesis found
        simp [tail]
        omega
      · simp at found

theorem lengthCutAt {mark text before behind : List Char}
    (found : cutAt? mark text = some (before, behind)) :
    text.length = before.length + mark.length + behind.length := by
  induction text generalizing before behind with
  | nil =>
    simp only [cutAt?] at found
    split at found
    · rename_i empty
      simp only [List.isEmpty_iff] at empty
      simp only [Option.some.injEq, Prod.mk.injEq] at found
      simp [← found.1, ← found.2, empty]
    · simp at found
  | cons char rest inductionHypothesis =>
    simp only [cutAt?] at found
    split at found
    · rename_i tail here
      simp only [Option.some.injEq, Prod.mk.injEq] at found
      have size := lengthAfter here
      simp only [← found.1, ← found.2, size, List.length_nil]
      omega
    · cases deeper : cutAt? mark rest with
      | none => simp [deeper] at found
      | some parts =>
        obtain ⟨first, second⟩ := parts
        simp only [deeper, Option.map_some, Option.some.injEq, Prod.mk.injEq] at found
        have size := inductionHypothesis deeper
        simp only [← found.1, ← found.2, List.length_cons, size]
        omega

/-- Some part of the text is `mark`. -/
def includes (mark text : List Char) : Bool :=
  (cutAt? mark text).isSome

/-- The text with `new` in place of every `old`. An empty `old` stands around each character. -/
def replaceAll (old new text : List Char) : List Char :=
  match old with
  | [] => new ++ text.flatMap fun char => char :: new
  | first :: others =>
    match _found : cutAt? (first :: others) text with
    | some (before, behind) => before ++ new ++ replaceAll (first :: others) new behind
    | none => text
termination_by text.length
decreasing_by
  have size := lengthCutAt _found
  simp only [List.length_cons] at size
  omega

/-- The pieces of the text between the characters that satisfy `cut`. -/
def splitBy (cut : Char → Bool) : List Char → List (List Char)
  | [] => [[]]
  | char :: rest =>
    if cut char then [] :: splitBy cut rest
    else
      match splitBy cut rest with
      | piece :: others => (char :: piece) :: others
      | [] => [[char]]

/-- A line without the carriage return at its end. -/
def dropReturn (line : List Char) : List Char :=
  (before? ['\r'] line).getD line

/-- The lines of a text. A line feed ends a line, with or without a carriage return before it. -/
def lines (text : List Char) : List (List Char) :=
  let pieces := splitBy (· == '\n') text
  let last := pieces.getLast?.toList.filter fun line => !line.isEmpty
  pieces.dropLast.map dropReturn ++ last

/-- The number of bytes of the text in UTF-8. -/
def byteLength (text : List Char) : Nat :=
  Number.total (text.map Char.utf8Size)

/-- The texts in order, with `separator` between neighbours. -/
def join (separator : List Char) : List (List Char) → List Char
  | [] => []
  | [only] => only
  | text :: rest => text ++ separator ++ join separator rest

end Tabletop.Text
