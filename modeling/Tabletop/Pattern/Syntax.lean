/-
This file defines patterns, which match parts of texts, and the sets of characters in them.
-/

import Tabletop.Text.Cut
import Tabletop.Text.CaseFold
import Tabletop.Text.WordChar

namespace Tabletop.Pattern

open Text

inductive CharSet where
  | none
  | range (first last : Char)
  | decimal
  | blank
  | wordChar
  | property (ranges : CodeRanges)
  | union (left right : CharSet)
  | intersection (left right : CharSet)
  | difference (left right : CharSet)
  | complement (inner : CharSet)
  /-- The characters that are equal to a member up to case. -/
  | anyCase (inner : CharSet)
deriving DecidableEq, Repr

namespace CharSet

def single (char : Char) : CharSet :=
  .range char char

def contains : CharSet → Char → Bool
  | .none, _ => false
  | .range first last, char => first ≤ char && char ≤ last
  | .decimal, char => isDecimal char
  | .blank, char => isBlank char
  | .wordChar, char => isWordChar char
  | .property ranges, char => ranges.contains char
  | .union left right, char => left.contains char || right.contains char
  | .intersection left right, char => left.contains char && right.contains char
  | .difference left right, char => left.contains char && !right.contains char
  | .complement inner, char => !inner.contains char
  | .anyCase inner, char => inner.contains char || (caseVariants char).any fun other =>
    inner.contains other

end CharSet

/-- A place in a text that a pattern can ask for. -/
inductive Place where
  | textStart
  | textEnd
  | lineStart
  | lineEnd
  | wordEdge
  | wordInside
  | wordStart
  | wordEnd
deriving DecidableEq, Repr

inductive Node where
  | empty
  | one (set : CharSet)
  | anchor (place : Place)
  | sequence (first second : Node)
  | choice (first second : Node)
  | optional (greedy : Bool) (inner : Node)
  /-- One or more times. -/
  | repeated (greedy : Bool) (inner : Node)
  | group (index : Nat) (inner : Node)
deriving DecidableEq, Repr

namespace Node

/-- The nodes one after the other. -/
def sequences : List Node → Node
  | [] => .empty
  | [only] => only
  | first :: rest => .sequence first (sequences rest)

/-- The first node that leads to a match. -/
def choices : List Node → Node
  | [] => .empty
  | [only] => only
  | first :: rest => .choice first (choices rest)

/-- Exactly so many times. -/
def times (inner : Node) : Nat → Node
  | 0 => .empty
  | 1 => inner
  | count + 1 => .sequence inner (times inner count)

/-- At most so many times. -/
def upTo (greedy : Bool) (inner : Node) : Nat → Node
  | 0 => .empty
  | count + 1 => .optional greedy (.sequence inner (upTo greedy inner count))

/-- At least so many times. -/
def atLeast (greedy : Bool) (inner : Node) : Nat → Node
  | 0 => .optional greedy (.repeated greedy inner)
  | 1 => .repeated greedy inner
  | least + 1 => .sequence (times inner least) (.repeated greedy inner)

end Node

end Tabletop.Pattern

namespace Tabletop

/-- A pattern with the names of its groups. The group of a name is one more than its place. -/
structure Pattern where
  root : Pattern.Node
  names : List (Option String)
deriving DecidableEq, Repr

/-- The number of the group with a name. -/
def Pattern.groupNamed? (pattern : Pattern) (name : String) : Option Nat :=
  (pattern.names.findIdx? (· == some name)).map (· + 1)

end Tabletop
