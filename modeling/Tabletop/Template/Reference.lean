/-
This file finds the references in a template.

A reference is a dollar sign with a name, or with a name in braces. An exclamation mark at the start
of the braces hides what the reference stands for.
-/

import Tabletop.Number.Numeral
import Tabletop.Text.Cut

namespace Tabletop.Template

open Text

/-- A name in a template with the text in which it stands. -/
structure Reference where
  hidden : Bool
  name : List Char
  source : List Char
deriving DecidableEq, Repr

/-- A part of a template. -/
inductive Piece where
  | char (char : Char)
  | reference (reference : Reference)
deriving DecidableEq, Repr

/-- The characters that end a name without braces. -/
def endsName (char : Char) : Bool :=
  isBlank char || "$+-*/()[]\x7b\x7d,，。".toList.contains char

/-- The characters that a name without braces can start with. -/
def startsName (char : Char) : Bool :=
  !(endsName char || isDecimal char || char == '!')

/-- The reference with some text between its braces, unless there is none. -/
def bracedReference? (inside : List Char) : Option Reference :=
  let source := ['$', '\x7b'] ++ inside ++ ['\x7d']
  match inside with
  | [] => none
  | ['!'] => some ⟨false, inside, source⟩
  | '!' :: name => some ⟨true, trim name, source⟩
  | _ => some ⟨false, trim inside, source⟩

/-- The reference behind a dollar sign, and the text behind it. -/
def cutReference? : List Char → Option (Reference × List Char)
  | [] => none
  | '\x7b' :: text => do
    let (inside, rest) ← cutAt? ['\x7d'] text
    let reference ← bracedReference? inside
    return (reference, rest)
  | first :: text =>
    if startsName first then
      let name := first :: text.takeWhile (fun char => !endsName char)
      some (⟨false, name, '$' :: name⟩, text.dropWhile (fun char => !endsName char))
    else none

theorem lengthCutReference {text rest : List Char} {reference : Reference}
    (found : cutReference? text = some (reference, rest)) : rest.length ≤ text.length := by
  unfold cutReference? at found
  split at found
  · simp at found
  · rename_i tail
    cases here : cutAt? ['\x7d'] tail with
    | none => simp [here] at found
    | some parts =>
      obtain ⟨inside, behind⟩ := parts
      have size := lengthCutAt here
      cases braced : bracedReference? inside with
      | none => simp [here, braced] at found
      | some reference =>
        simp only [here, braced, Option.bind_eq_bind, Option.bind_some, Option.pure_def,
          Option.some.injEq, Prod.mk.injEq] at found
        rw [← found.2]
        simp only [List.length_cons, List.length_nil] at *
        omega
  · split at found
    · rename_i tail _ _
      have shorter := (List.dropWhile_suffix (l := tail) (fun char => !endsName char)).length_le
      simp only [Option.some.injEq, Prod.mk.injEq] at found
      rw [← found.2]
      simp only [List.length_cons]
      omega
    · simp at found

/-- The characters and references of a template. -/
def pieces (text : List Char) : List Piece :=
  match text with
  | [] => []
  | '$' :: rest =>
    match _found : cutReference? rest with
    | some (reference, behind) => .reference reference :: pieces behind
    | none => .char '$' :: pieces rest
  | char :: rest => .char char :: pieces rest
termination_by text.length
decreasing_by
  · have shorter := lengthCutReference _found
    simp only [List.length_cons]
    omega
  · simp
  · simp

/-- The number behind a dollar sign stands for the total of an earlier roll. -/
def earlierTotal (totals : List Int) (digits : List Char) : List Char :=
  let total? := (Number.readBelow? Number.wordRange digits).bind fun number =>
    if number = 0 then none else totals[number - 1]?
  match total? with
  | some total => Number.writeInt total
  | none => '$' :: digits

/-- Puts the totals of earlier rolls in for their numbers. -/
def withTotals (totals : List Int) (text : List Char) : List Char :=
  match text with
  | [] => []
  | '$' :: rest =>
    let digits := rest.takeWhile isDecimal
    if digits.isEmpty then '$' :: withTotals totals rest
    else earlierTotal totals digits ++ withTotals totals (rest.dropWhile isDecimal)
  | char :: rest => char :: withTotals totals rest
termination_by text.length
decreasing_by
  · simp
  · have shorter := (List.dropWhile_suffix (l := rest) isDecimal).length_le
    simp only [List.length_cons]
    omega
  · simp

end Tabletop.Template
