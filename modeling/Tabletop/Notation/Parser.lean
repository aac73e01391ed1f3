/-
This file reads dice notation, and takes the longest one off the start of a text.

  sum     := product (('+' | '-') product)*
  product := signed (('*' | '/') signed)*
  signed  := ('-' | '+')* primary
  primary := INT | INT? 'd' (INT | '%') modifier* | '(' sum ')'
-/

import Tabletop.Chain
import Tabletop.Notation.Expr
import Tabletop.Notation.Token
import Tabletop.Text.Cut

namespace Tabletop.Notation

open Text

/-- The most dice of one term. -/
def maxDice : Nat := 1000

/-- The largest die. -/
def maxSides : Nat := 100000

/-- The most bytes of a notation. -/
def maxBytes : Nat := 512

/-- The most parentheses around one place of a notation. -/
def maxNesting : Nat := 64

/-- Constants stay below this bound. -/
def constantBound : Nat := 0x8000000000000000

/-- A reader of a first expression. It gives back the other tokens. -/
abbrev Parser := TokenReader Token Error Expr

def additive? : Token → Option Operation
  | .plus => some .add
  | .minus => some .subtract
  | _ => none

def multiplicative? : Token → Option Operation
  | .star => some .multiply
  | .slash => some .divide
  | _ => none

/-- Reads the modifiers of a term. Of several selectors the last one holds. -/
def modifiers (term : DiceTerm) : List Token → DiceTerm × List Token
  | .explode :: rest => modifiers { term with explode := true } rest
  | .select selection :: .int count :: rest =>
    modifiers { term with selector := some ⟨selection, min count maxDice⟩ } rest
  | .select selection :: rest => modifiers { term with selector := some ⟨selection, 1⟩ } rest
  | rest => (term, rest)

/-- Reads what follows the `d` of `count` dice. -/
def diceBehind (count : Nat) (tokens : List Token) : Except Error (Expr × List Token) :=
  if maxDice < count then .error (.tooManyDice count)
  else do
    let (sides, rest) ← match tokens with
      | .int sides :: rest => .ok (sides, rest)
      | .percent :: rest => .ok (100, rest)
      | token :: _ => .error (.unexpectedToken token)
      | [] => .error .unexpectedEnd
    if sides = 0 ∨ maxSides < sides then .error (.invalidSides sides)
    else
      let (term, behind) := modifiers ⟨count, sides, none, false⟩ rest
      .ok (.dice term, behind)

/-- Reads a constant, a term or a group. `nested` reads the inside of a group. -/
def primary (nested : Parser) : Parser
  | .int count :: .die :: rest => diceBehind count rest
  | .int value :: rest =>
    if value < constantBound then .ok (.constant value, rest) else .error .overflow
  | .die :: rest => diceBehind 1 rest
  | .leftParen :: rest => do
    match ← nested rest with
    | (inner, .rightParen :: behind) => .ok (.group inner, behind)
    | (_, token :: _) => .error (.unexpectedToken token)
    | (_, []) => .error .unexpectedEnd
  | token :: _ => .error (.unexpectedToken token)
  | [] => .error .unexpectedEnd

def Token.isSign : Token → Bool
  | .plus => true
  | .minus => true
  | _ => false

/-- The signs amount to a negation: an odd number of them are minus signs. -/
def negates (signs : List Token) : Bool :=
  signs.count .minus % 2 = 1

/-- Reads signs and an operand. The signs become at most one negation. -/
def signed (nested : Parser) : Parser := fun tokens => do
  let (operand, rest) ← primary nested (tokens.dropWhile Token.isSign)
  return (if negates (tokens.takeWhile Token.isSign) then .negate operand else operand, rest)

def product (nested : Parser) : Parser :=
  chain multiplicative? .binary (signed nested)

def sum (nested : Parser) : Parser :=
  chain additive? .binary (product nested)

/-- Reads a sum with room for fewer than `room` groups around one place. -/
def sumWithin : (room : Nat) → Parser
  | 0 => fun _ => .error .tooDeep
  | room + 1 => sum (sumWithin room)

/-- Reads a whole token list. -/
def parseTokens (tokens : List Token) : Except Error Expr :=
  if tokens.isEmpty then .error .empty
  else do
    match ← sumWithin (maxNesting + 1) tokens with
    | (expr, []) => .ok expr
    | (_, token :: _) => .error (.unexpectedToken token)

/-- Reads a notation. -/
def parse (text : List Char) : Except Error Expr :=
  if maxBytes < Text.byteLength text then .error (.tooLong (Text.byteLength text))
  else
    match Token.lex text with
    | .error fault => .error (.ofLexFault fault)
    | .ok spans => parseTokens (spans.map (·.token))

/-- The text is a notation from end to end. -/
def isNotation (text : List Char) : Bool :=
  (parse text).isOk

/-- The longest notation among the first characters of a text, with the text behind it. -/
def splitWithin (text : List Char) : (length : Nat) → Option (List Char × List Char)
  | 0 => none
  | length + 1 =>
    let head := trimEnd (text.take (length + 1))
    if !head.isEmpty && isNotation head then some (head, trim (text.drop (length + 1)))
    else splitWithin text length

/-- The longest notation at the start of a text, with the text behind it. Both are trimmed. -/
def split? (text : List Char) : Option (List Char × List Char) :=
  let text := trim text
  splitWithin text (min (text.takeWhile isNotationChar).length maxBytes)

end Tabletop.Notation
