/-
This file reads the sets of characters that patterns write between brackets.
-/

import Tabletop.Pattern.Escape

namespace Tabletop.Pattern

open Text

/-- The sets that have a name between colons. -/
def namedSets : List (String × CharSet) :=
  [("alnum", .union asciiDecimal asciiLetter),
   ("alpha", asciiLetter),
   ("ascii", .range '\x00' '\x7f'),
   ("blank", .union (.single '\t') (.single ' ')),
   ("cntrl", .union (.range '\x00' '\x1f') (.single '\x7f')),
   ("digit", asciiDecimal),
   ("graph", .range '!' '~'),
   ("lower", .range 'a' 'z'),
   ("print", .range ' ' '~'),
   ("punct", .difference (.range '!' '~') (.union asciiDecimal asciiLetter)),
   ("space", asciiBlank),
   ("upper", .range 'A' 'Z'),
   ("word", asciiWordChar),
   ("xdigit", .union asciiDecimal (.union (.range 'A' 'F') (.range 'a' 'f')))]

/-- Reads `:name:]` or `:^name:]`. -/
def readNamedSet? : List Char → Option (CharSet × List Char)
  | ':' :: rest => do
    let (name, behind) ← cutAt? [':', ']'] rest
    let (negated, name) := match name with
      | '^' :: name => (true, name)
      | name => (false, name)
    let (_, set) ← namedSets.find? (·.1.toList == name)
    return (if negated then .complement set else set, behind)
  | _ => none

/-- How two sets are combined. -/
inductive SetOperation where
  | intersection
  | difference
  | symmetric
deriving DecidableEq, Repr

def SetOperation.apply (operation : SetOperation) (left right : CharSet) : CharSet :=
  match operation with
  | .intersection => .intersection left right
  | .difference => .difference left right
  | .symmetric => .union (.difference left right) (.difference right left)

/-- Reads one member: a character or a set. -/
def readMember? (flags : Flags) : List Char → Option (Escape × List Char)
  | '\\' :: rest =>
    match readEscape? flags rest with
    | some (.place _, _) => none
    | found => found
  | char :: rest => some (.literal char, rest)
  | [] => none

/-- Reads a member or a range of characters. -/
def readMembers? (flags : Flags) (text : List Char) : Option (CharSet × List Char) := do
  let (first, rest) ← readMember? flags text
  let alone : CharSet := match first with
    | .literal char => .single char
    | .set set => set
    | .place _ => .none
  match rest with
  | '-' :: ']' :: _ => return (alone, rest)
  | '-' :: '-' :: _ => return (alone, rest)
  | '-' :: behind =>
    match first, ← readMember? flags behind with
    | .literal low, (.literal high, behind) =>
      if low ≤ high then return (.range low high, behind) else none
    | _, _ => none
  | [] => none
  | _ => return (alone, rest)

/-- The set so far, and the operation that waits for its right side. -/
structure PendingSet where
  left : Option (CharSet × SetOperation)
  members : CharSet

def PendingSet.finish (flags : Flags) (pending : PendingSet) : CharSet :=
  match pending.left with
  | none => flags.cased pending.members
  | some (left, operation) => operation.apply left (flags.cased pending.members)

def PendingSet.add (pending : PendingSet) (set : CharSet) : PendingSet :=
  { pending with members := .union pending.members set }

/-- The members behind an operation. -/
def PendingSet.combine (flags : Flags) (pending : PendingSet) (operation : SetOperation) :
    PendingSet :=
  ⟨some (pending.finish flags, operation), .none⟩

/-- Reads the signs that are members at the start of a set alone: hyphens, or a closing bracket. -/
def readFirst (text : List Char) : PendingSet × List Char :=
  match text.takeWhile (· == '-'), text.dropWhile (· == '-') with
  | [], ']' :: rest => (PendingSet.add ⟨none, .none⟩ (.single ']'), rest)
  | [], rest => (⟨none, .none⟩, rest)
  | _ :: _, rest => (⟨none, .single '-'⟩, rest)

/-- Reads the members of a set up to its closing bracket. -/
def readSet (flags : Flags) : (fuel : Nat) → PendingSet → List Char → Option (CharSet × List Char)
  | 0, _, _ => none
  | fuel + 1, pending, text =>
    match text with
    | [] => none
    | ']' :: rest => some (pending.finish flags, rest)
    | '&' :: '&' :: rest => readSet flags fuel (pending.combine flags .intersection) rest
    | '-' :: '-' :: rest => readSet flags fuel (pending.combine flags .difference) rest
    | '~' :: '~' :: rest => readSet flags fuel (pending.combine flags .symmetric) rest
    | '[' :: rest =>
      match readNamedSet? rest with
      | some (set, behind) => readSet flags fuel (pending.add set) behind
      | none => do
        let (set, behind) ← readOpened fuel rest
        readSet flags fuel (pending.add set) behind
    | _ =>
      if flags.verbose && isBlank (text.headD ' ') then readSet flags fuel pending text.tail
      else do
        let (set, behind) ← readMembers? flags text
        readSet flags fuel (pending.add set) behind
where
  /-- Reads a set behind its opening bracket. -/
  readOpened : (fuel : Nat) → List Char → Option (CharSet × List Char)
    | 0, _ => none
    | fuel + 1, '^' :: text =>
      (readSet flags fuel (readFirst text).1 (readFirst text).2).map fun (set, rest) =>
        (.complement set, rest)
    | fuel + 1, text => readSet flags fuel (readFirst text).1 (readFirst text).2

/-- Reads a set behind its opening bracket. -/
def readBracket? (flags : Flags) (text : List Char) : Option (CharSet × List Char) :=
  readSet.readOpened flags (2 * text.length + 2) text

end Tabletop.Pattern
