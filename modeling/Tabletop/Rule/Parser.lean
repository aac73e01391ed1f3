/-
This file reads rule expressions.

  choice         := or ('?' choice ':' choice)?
  or             := and ('||' and)*
  and            := equality ('&&' equality)*
  equality       := relation (('==' | '!=' | '===' | '!==') relation)*
  relation       := sum (('<' | '<=' | '>' | '>=') sum)*
  sum            := product (('+' | '-') product)*
  product        := signed (('*' | '/' | '%') signed)*
  signed         := ('!' | '-' | '+') signed | primary
  primary        := NUMBER | TRUTH | NAME | '(' choice ')'
-/

import Tabletop.Chain
import Tabletop.Rule.Expr
import Tabletop.Rule.Token

namespace Tabletop.Rule

/-- The most groups, signs and branches around one place of an expression. -/
def maxNesting : Nat := 64

abbrev Parser := TokenReader Token Error Expr

/-- The readers for what lies one step deeper. -/
structure Readers where
  choice : Parser
  signed : Parser

/-- A token that does not fit here, or the end. -/
def unexpected (tokens : List Token) : Error :=
  match tokens with
  | token :: _ => .unexpectedToken token
  | [] => .unexpectedEnd

def primary (inner : Readers) : Parser
  | .number value :: rest => .ok (.number value, rest)
  | .truth value :: rest => .ok (.truth value, rest)
  | .name name :: rest => .ok (.reference name, rest)
  | .leftParen :: rest => do
    match ← inner.choice rest with
    | (expr, .rightParen :: behind) => .ok (expr, behind)
    | (_, behind) => .error (unexpected behind)
  | tokens => .error (unexpected tokens)

def sign? : Token → Option Sign
  | .not => some .not
  | .minus => some .negate
  | .plus => some .keep
  | _ => none

def signed (inner : Readers) : Parser
  | [] => .error .unexpectedEnd
  | token :: rest =>
    match sign? token with
    | some sign => do
      let (operand, behind) ← inner.signed rest
      return (.unary sign operand, behind)
    | none => primary inner (token :: rest)

def multiplicative? : Token → Option Operation
  | .star => some .multiply
  | .slash => some .divide
  | .percent => some .remainder
  | _ => none

def additive? : Token → Option Operation
  | .plus => some .add
  | .minus => some .subtract
  | _ => none

def relational? : Token → Option Operation
  | .less => some .less
  | .lessEqual => some .lessEqual
  | .greater => some .greater
  | .greaterEqual => some .greaterEqual
  | _ => none

def equality? : Token → Option Operation
  | .equal => some .equal
  | .notEqual => some .notEqual
  | .strictEqual => some .strictEqual
  | .strictNotEqual => some .strictNotEqual
  | _ => none

def and? : Token → Option Operation
  | .and => some .and
  | _ => none

def or? : Token → Option Operation
  | .or => some .or
  | _ => none

/-- The levels of operators, from the tightest to the loosest. -/
def levels : List (Token → Option Operation) :=
  [multiplicative?, additive?, relational?, equality?, and?, or?]

/-- Reads an expression without a choice outside of groups. -/
def operators (inner : Readers) : Parser :=
  levels.foldl (fun operand level => chain level .binary operand) (signed inner)

def choice (inner : Readers) : Parser := fun tokens => do
  match ← operators inner tokens with
  | (condition, .question :: rest) => do
    match ← inner.choice rest with
    | (positive, .colon :: behind) => do
      let (negative, behind) ← inner.choice behind
      return (.choice condition positive negative, behind)
    | (_, behind) => .error (unexpected behind)
  | (expr, rest) => .ok (expr, rest)

/-- The readers with room for fewer than `room` steps into groups, signs and branches. -/
def readersWithin : (room : Nat) → Readers
  | 0 => ⟨fun _ => .error .tooDeep, fun _ => .error .tooDeep⟩
  | room + 1 => ⟨choice (readersWithin room), signed (readersWithin room)⟩

/-- Reads a whole token list. -/
def parseTokens (tokens : List Token) : Except Error Expr := do
  match ← (readersWithin (maxNesting + 1)).choice tokens with
  | (expr, []) => .ok expr
  | (_, token :: _) => .error (.unexpectedToken token)

/-- Reads an expression. -/
def parse (text : List Char) : Except Error Expr :=
  match Token.lex text with
  | .error char => .error (.unexpectedChar char)
  | .ok [] => .error .empty
  | .ok tokens => parseTokens tokens

/-- Reads an expression whose names are all allowed. -/
def compileWith (allowed : List String) (text : List Char) : Except Error Expr := do
  let expr ← parse text
  match expr.names.find? (!allowed.contains ·) with
  | some name => .error (.unknownVariable name)
  | none => .ok expr

end Tabletop.Rule
