/-
This file reads patterns.
-/

import Tabletop.Pattern.Bracket

namespace Tabletop.Pattern

open Text Number

/-- The flags that hold now, and the names of the groups so far. -/
structure Reading where
  flags : Flags
  names : List (Option String)

/-- The most rounds that a counted repetition can ask for. -/
def maxRounds : Nat := 100000

/-- The characters that names of groups can begin with. -/
def isGroupNameStart (char : Char) : Bool :=
  char == '_' || isAlphabetic char

/-- The characters that names of groups can go on with. -/
def isGroupNamePart (char : Char) : Bool :=
  char == '_' || char == '.' || char == '[' || char == ']' || isAlphabetic char ||
    isDecimal char || isOtherNumber char

/-- A text that can name a group. -/
def isGroupName : List Char → Bool
  | [] => false
  | first :: rest => isGroupNameStart first && rest.all isGroupNamePart

/-- Reads the name of a group up to its closing bracket. It differs from the names so far. -/
def readGroupName? (names : List (Option String)) (text : List Char) :
    Option (String × List Char) := do
  let (name, rest) ← cutAt? ['>'] text
  if isGroupName name && !names.contains (some (String.ofList name)) then
    return (String.ofList name, rest)
  else none

/-- Sets the flag of a letter. -/
def Flags.set? (flags : Flags) (letter : Char) (value : Bool) : Option Flags :=
  match letter with
  | 'i' => some { flags with ignoreCase := value }
  | 'm' => some { flags with multiLine := value }
  | 's' => some { flags with dotAll := value }
  | 'U' => some { flags with swapGreed := value }
  | 'u' => some { flags with ascii := !value }
  | 'x' => some { flags with verbose := value }
  | 'R' => some flags
  | _ => none

/-- Reads letters of flags up to a colon or a closing parenthesis. None stands twice. -/
def readFlags? (flags : Flags) (negated dangling : Bool) (used : List Char) :
    List Char → Option (Flags × Bool × List Char)
  | ':' :: rest => if dangling then none else some (flags, true, rest)
  | ')' :: rest => if dangling || used.isEmpty then none else some (flags, false, rest)
  | '-' :: rest => if negated then none else readFlags? flags true true used rest
  | letter :: rest =>
    if used.contains letter then none
    else
      match flags.set? letter (!negated) with
      | some flags => readFlags? flags negated false (letter :: used) rest
      | none => none
  | [] => none

/-- How often a part is repeated. -/
structure Rounds where
  least : Nat
  most : Option Nat

def Rounds.node (rounds : Rounds) (greedy : Bool) (inner : Node) : Node :=
  match rounds.most with
  | none => .atLeast greedy inner rounds.least
  | some most =>
    .sequence (.times inner rounds.least) (.upTo greedy inner (most - rounds.least))

def readCount? (text : List Char) : Option (Nat × List Char) :=
  let text := trimStart text
  let digits := text.takeWhile Char.isDigit
  if digits.isEmpty || maxRounds < natOfDigits digits then none
  else some (natOfDigits digits, trimStart (text.dropWhile Char.isDigit))

/-- Reads the numbers of a repetition up to the closing brace. -/
def readRounds? (text : List Char) : Option (Rounds × List Char) := do
  let (least, rest) ← readCount? text
  match rest with
  | '\x7d' :: behind => return (⟨least, some least⟩, behind)
  | ',' :: '\x7d' :: behind => return (⟨least, none⟩, behind)
  | ',' :: behind =>
    let (most, behind) ← readCount? behind
    match behind with
    | '\x7d' :: behind => if most < least then none else return (⟨least, some most⟩, behind)
    | _ => none
  | _ => none

/-- The parts of an alternative that is being read, the latest one first. A mark without a node is
left where flags were set. -/
abbrev Parts := List (Option Node)

def Parts.node (parts : Parts) : Node :=
  .sequences (parts.reverse.filterMap id)

/-- Repeats the latest part. A question mark behind the repetition turns its preference round. -/
def repeatLatest? (flags : Flags) (rounds : Rounds) (parts : Parts) (rest : List Char) :
    Option (Parts × List Char) :=
  match parts with
  | some inner :: others =>
    let (lazy, rest) := match rest with
      | '?' :: rest => (true, rest)
      | _ => (false, rest)
    some (some (rounds.node (lazy == flags.swapGreed) inner) :: others, rest)
  | _ => none

def Escape.node (flags : Flags) : Escape → Node
  | .literal sign => flags.literal sign
  | .set members => .one (flags.cased members)
  | .place spot => .anchor spot

/-- Reads one part that begins with the first character, groups apart. -/
def readPart? (flags : Flags) : List Char → Option (Node × List Char)
  | [] => none
  | '.' :: rest =>
    some (.one (if flags.dotAll then .complement .none else .complement (.single '\n')), rest)
  | '^' :: rest => some (.anchor (if flags.multiLine then .lineStart else .textStart), rest)
  | '$' :: rest => some (.anchor (if flags.multiLine then .lineEnd else .textEnd), rest)
  | '[' :: rest => (readBracket? flags rest).map fun (set, rest) => (.one set, rest)
  | '\\' :: rest => (readEscape? flags rest).map fun (escape, rest) => (escape.node flags, rest)
  | char :: rest => some (flags.literal char, rest)

/-- Reads alternatives up to the end of a group or of the text. -/
def readAlternatives : (fuel : Nat) → Reading → (done : List Node) → Parts → List Char →
    Option (Node × Reading × List Char)
  | 0, _, _, _, _ => none
  | fuel + 1, reading, done, parts, text =>
    let finish : Node := .choices ((parts.node :: done).reverse)
    match text with
    | [] => some (finish, reading, [])
    | ')' :: _ => some (finish, reading, text)
    | '|' :: rest => readAlternatives fuel reading (parts.node :: done) [] rest
    | '*' :: rest => do
      let (parts, rest) ← repeatLatest? reading.flags ⟨0, none⟩ parts rest
      readAlternatives fuel reading done parts rest
    | '+' :: rest => do
      let (parts, rest) ← repeatLatest? reading.flags ⟨1, none⟩ parts rest
      readAlternatives fuel reading done parts rest
    | '?' :: rest => do
      let (parts, rest) ← repeatLatest? reading.flags ⟨0, some 1⟩ parts rest
      readAlternatives fuel reading done parts rest
    | '\x7b' :: rest => do
      let (rounds, rest) ← readRounds? rest
      let (parts, rest) ← repeatLatest? reading.flags rounds parts rest
      readAlternatives fuel reading done parts rest
    | '(' :: '?' :: 'P' :: '<' :: rest => do
      let (name, rest) ← readGroupName? reading.names rest
      let (node, inside, rest) ← readGroup fuel reading (some name) rest
      readAlternatives fuel inside done (some node :: parts) rest
    | '(' :: '?' :: '<' :: rest => do
      let (name, rest) ← readGroupName? reading.names rest
      let (node, inside, rest) ← readGroup fuel reading (some name) rest
      readAlternatives fuel inside done (some node :: parts) rest
    | '(' :: '?' :: rest => do
      let (flags, opens, rest) ← readFlags? reading.flags false false [] rest
      if opens then
        let (node, inside, rest) ←
          readAlternatives fuel { reading with flags := flags } [] [] rest
        match rest with
        | ')' :: rest =>
          readAlternatives fuel { inside with flags := reading.flags } done (some node :: parts)
            rest
        | _ => none
      else readAlternatives fuel { reading with flags := flags } done (none :: parts) rest
    | '(' :: rest => do
      let (node, inside, rest) ← readGroup fuel reading none rest
      readAlternatives fuel inside done (some node :: parts) rest
    | char :: rest =>
      if reading.flags.verbose && isBlank char then readAlternatives fuel reading done parts rest
      else if reading.flags.verbose && char == '#' then
        readAlternatives fuel reading done parts (rest.dropWhile (· != '\n'))
      else do
        let (node, rest) ← readPart? reading.flags text
        readAlternatives fuel reading done (some node :: parts) rest
where
  /-- Reads a group with a number of its own, and its closing parenthesis. -/
  readGroup : (fuel : Nat) → Reading → Option String → List Char →
      Option (Node × Reading × List Char)
    | 0, _, _, _ => none
    | fuel + 1, reading, name, text => do
      let names := reading.names ++ [name]
      let (inner, inside, rest) ← readAlternatives fuel { reading with names := names } [] [] text
      match rest with
      | ')' :: rest =>
        some (.group names.length inner, { inside with flags := reading.flags }, rest)
      | _ => none

end Tabletop.Pattern

namespace Tabletop

/-- Reads a pattern. -/
def Pattern.parse? (text : List Char) : Option Pattern :=
  match Pattern.readAlternatives (2 * text.length + 2) ⟨⟨false, false, false, false, false, false⟩, []⟩
      [] [] text with
  | some (root, reading, []) => some ⟨root, reading.names⟩
  | _ => none

end Tabletop
