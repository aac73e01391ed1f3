/-
This file finds the first match of a pattern in a text and fills its groups into a replacement text.

Where a pattern leaves a choice, the match that is reached first counts: the left one of two
alternatives, and of a repetition the longest or the shortest one that lets the rest match.

In a replacement text, `$name` and `$` with a name in braces stand for groups by their names or
numbers, and two dollar signs for one. Groups that took no part in the match are empty.
-/

import Tabletop.Number.Numeral
import Tabletop.Pattern.Syntax

namespace Tabletop.Pattern

open Text

/-- A place in a text with the groups matched so far, the latest one first. -/
structure Cursor where
  /-- The text before the place, backwards. -/
  before : List Char
  rest : List Char
  groups : List (Nat × List Char)
deriving DecidableEq, Repr

namespace Cursor

def wordBefore (cursor : Cursor) : Bool :=
  match cursor.before with
  | char :: _ => isWordChar char
  | [] => false

def wordBehind (cursor : Cursor) : Bool :=
  match cursor.rest with
  | char :: _ => isWordChar char
  | [] => false

/-- The cursor stands at a place. -/
def isAt (cursor : Cursor) : Place → Bool
  | .textStart => cursor.before.isEmpty
  | .textEnd => cursor.rest.isEmpty
  | .lineStart => cursor.before.isEmpty || cursor.before.head? == some '\n'
  | .lineEnd => cursor.rest.isEmpty || cursor.rest.head? == some '\n'
  | .wordEdge => cursor.wordBefore != cursor.wordBehind
  | .wordInside => cursor.wordBefore == cursor.wordBehind
  | .wordStart => !cursor.wordBefore && cursor.wordBehind
  | .wordEnd => cursor.wordBefore && !cursor.wordBehind

/-- The text from an earlier cursor up to a later one. -/
def textSince (first last : Cursor) : List Char :=
  first.rest.take (first.rest.length - last.rest.length)

end Cursor

variable {α : Type}

/-- What comes after a part of a pattern. -/
abbrev Continuation (α : Type) := Cursor → Option α

/-- The answer of the first way to go on, or else that of the second one. -/
def firstOf (first second : Unit → Option α) : Option α :=
  match first () with
  | some answer => some answer
  | none => second ()

/-- Tries one more round before or after going on. -/
def oneMore (greedy : Bool) (round behind : Unit → Option α) : Option α :=
  if greedy then firstOf round behind else firstOf behind round

/-- Repeats a part behind a first time. A round that takes no character does not count. The fuel is
the text that is left. -/
def Node.again (round : Continuation α → Cursor → Option α) (greedy : Bool)
    (behind : Continuation α) : Nat → Cursor → Option α
  | 0, cursor => behind cursor
  | fuel + 1, cursor =>
    oneMore greedy
      (fun _ => round (fun next =>
        if next.rest.length < cursor.rest.length then Node.again round greedy behind fuel next
        else none) cursor)
      (fun _ => behind cursor)

/-- The first answer that a node and what comes after it reach from a cursor. -/
def Node.run : Node → Continuation α → Cursor → Option α
  | .empty, behind, cursor => behind cursor
  | .one set, behind, cursor =>
    match cursor.rest with
    | char :: rest =>
      if set.contains char then
        behind { cursor with before := char :: cursor.before, rest := rest }
      else none
    | [] => none
  | .anchor place, behind, cursor => if cursor.isAt place then behind cursor else none
  | .sequence first second, behind, cursor => first.run (fun next => second.run behind next) cursor
  | .choice first second, behind, cursor =>
    firstOf (fun _ => first.run behind cursor) (fun _ => second.run behind cursor)
  | .optional greedy inner, behind, cursor =>
    oneMore greedy (fun _ => inner.run behind cursor) (fun _ => behind cursor)
  | .repeated greedy inner, behind, cursor =>
    inner.run (fun next =>
      if next.rest.length < cursor.rest.length then
        Node.again (fun behind cursor => inner.run behind cursor) greedy behind next.rest.length next
      else behind next) cursor
  | .group index inner, behind, cursor =>
    inner.run (fun next =>
      behind { next with groups := (index, cursor.textSince next) :: next.groups }) cursor

end Tabletop.Pattern

namespace Tabletop

/-- A match with the text around it and the groups that took part in it. -/
structure PatternMatch where
  before : List Char
  matched : List Char
  rest : List Char
  groups : List (Nat × List Char)
deriving DecidableEq, Repr

namespace Pattern

/-- The match that begins at a cursor. -/
def matchAt? (pattern : Pattern) (cursor : Cursor) : Option PatternMatch :=
  (pattern.root.run some cursor).map fun last =>
    ⟨cursor.before.reverse, cursor.textSince last, last.rest, last.groups⟩

/-- The first match that begins behind some text. -/
def findFrom? (pattern : Pattern) (before : List Char) : List Char → Option PatternMatch
  | [] => pattern.matchAt? ⟨before, [], []⟩
  | char :: rest =>
    match pattern.matchAt? ⟨before, char :: rest, []⟩ with
    | some found => some found
    | none => pattern.findFrom? (char :: before) rest

/-- The first match in a text. -/
def find? (pattern : Pattern) (text : List Char) : Option PatternMatch :=
  pattern.findFrom? [] text

end Pattern

namespace PatternMatch

/-- The text of a group. The whole match has the number zero. -/
def group? (found : PatternMatch) (index : Nat) : Option (List Char) :=
  if index = 0 then some found.matched else (found.groups.find? (·.1 == index)).map (·.2)

end PatternMatch

/-- The text of the group that a reference names. -/
def PatternMatch.reference (found : PatternMatch) (pattern : Pattern) (name : List Char) :
    List Char :=
  let index := match Number.readBelow? Number.wordRange name with
    | some number => some number
    | none => pattern.groupNamed? (String.ofList name)
  ((index.bind found.group?).getD [])

/-- The name of a reference behind its dollar sign, and the text behind the name. -/
def Pattern.cutReference? : List Char → Option (List Char × List Char)
  | '\x7b' :: text =>
    let name := text.takeWhile (· != '\x7d')
    match text.dropWhile (· != '\x7d') with
    | _ :: rest => some (name, rest)
    | [] => none
  | text =>
    let isNamePart (char : Char) : Bool := char.isAlphanum || char == '_'
    let name := text.takeWhile isNamePart
    if name.isEmpty then none else some (name, text.dropWhile isNamePart)

theorem Pattern.lengthCutReference {text name rest : List Char}
    (found : Pattern.cutReference? text = some (name, rest)) : rest.length ≤ text.length := by
  unfold Pattern.cutReference? at found
  split at found
  · rename_i tail
    split at found
    · rename_i char behind here
      have shorter := (List.dropWhile_suffix (l := tail) (· != '\x7d')).length_le
      rw [here] at shorter
      simp only [Option.some.injEq, Prod.mk.injEq] at found
      rw [← found.2]
      simp at *
      omega
    · simp at found
  · simp only at found
    split at found
    · simp at found
    · simp only [Option.some.injEq, Prod.mk.injEq] at found
      rw [← found.2]
      exact (List.dropWhile_suffix _).length_le

/-- Fills the groups of a match into a text. -/
def PatternMatch.expand (found : PatternMatch) (pattern : Pattern) (text : List Char) : List Char :=
  match text with
  | [] => []
  | '$' :: '$' :: rest => '$' :: found.expand pattern rest
  | '$' :: rest =>
    match _found : Pattern.cutReference? rest with
    | some (name, behind) => found.reference pattern name ++ found.expand pattern behind
    | none => '$' :: found.expand pattern rest
  | char :: rest => char :: found.expand pattern rest
termination_by text.length
decreasing_by
  · simp only [List.length_cons]
    omega
  · have shorter := Pattern.lengthCutReference _found
    simp only [List.length_cons]
    omega
  · simp
  · simp

end Tabletop
