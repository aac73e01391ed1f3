/-
This file defines the tokens of rule expressions, how text is cut into them, and why an expression cannot be read or
evaluated.
-/

import Tabletop.Text.Cut
import Tabletop.Number.Real
import Tabletop.Text.Quoted

namespace Tabletop.Rule

open Number

inductive Token where
  | number (value : Decimal)
  | truth (value : Bool)
  | name (text : String)
  | leftParen
  | rightParen
  | question
  | colon
  | or
  | and
  | not
  | equal
  | notEqual
  | strictEqual
  | strictNotEqual
  | less
  | lessEqual
  | greater
  | greaterEqual
  | plus
  | minus
  | star
  | slash
  | percent
deriving DecidableEq, Repr

/-- How error messages name a token. -/
def Token.label : Token → String
  | .number value =>
    "Num(" ++ String.ofList (markedFloat (floatOfDecimal value.digits value.exponent)) ++ ")"
  | .truth value => if value then "Bool(true)" else "Bool(false)"
  | .name word => "Ident(" ++ String.ofList (Text.quoted word.toList) ++ ")"
  | .leftParen => "LParen"
  | .rightParen => "RParen"
  | .question => "Question"
  | .colon => "Colon"
  | .or => "Or"
  | .and => "And"
  | .not => "Not"
  | .equal => "Eq"
  | .notEqual => "NotEq"
  | .strictEqual => "StrictEq"
  | .strictNotEqual => "StrictNotEq"
  | .less => "Lt"
  | .lessEqual => "Le"
  | .greater => "Gt"
  | .greaterEqual => "Ge"
  | .plus => "Plus"
  | .minus => "Minus"
  | .star => "Star"
  | .slash => "Slash"
  | .percent => "Percent"

def isNameStart (char : Char) : Bool :=
  char.isAlpha || char == '_'

def isNamePart (char : Char) : Bool :=
  char.isAlphanum || char == '_'

/-- The token of a word. -/
def wordToken (word : List Char) : Token :=
  if word = "true".toList then .truth true
  else if word = "false".toList then .truth false
  else .name (String.ofList word)

/-- The number at the start of a text: digits, then perhaps a point and digits. -/
def numberAhead (text : List Char) : Decimal × List Char :=
  let whole := text.takeWhile Char.isDigit
  match text.dropWhile Char.isDigit with
  | '.' :: digit :: rest =>
    if digit.isDigit then
      let places := digit :: rest.takeWhile Char.isDigit
      (⟨natOfDigits (whole ++ places), -(places.length : Int)⟩, rest.dropWhile Char.isDigit)
    else (⟨natOfDigits whole, 0⟩, '.' :: digit :: rest)
  | rest => (⟨natOfDigits whole, 0⟩, rest)

/-- The token at the start of a text, with the text behind it. The longest token is taken. -/
def Token.first? : List Char → Option (Token × List Char)
  | '=' :: '=' :: '=' :: rest => some (.strictEqual, rest)
  | '=' :: '=' :: rest => some (.equal, rest)
  | '!' :: '=' :: '=' :: rest => some (.strictNotEqual, rest)
  | '!' :: '=' :: rest => some (.notEqual, rest)
  | '!' :: rest => some (.not, rest)
  | '<' :: '=' :: rest => some (.lessEqual, rest)
  | '<' :: rest => some (.less, rest)
  | '>' :: '=' :: rest => some (.greaterEqual, rest)
  | '>' :: rest => some (.greater, rest)
  | '|' :: '|' :: rest => some (.or, rest)
  | '&' :: '&' :: rest => some (.and, rest)
  | '(' :: rest => some (.leftParen, rest)
  | ')' :: rest => some (.rightParen, rest)
  | '?' :: rest => some (.question, rest)
  | ':' :: rest => some (.colon, rest)
  | '+' :: rest => some (.plus, rest)
  | '-' :: rest => some (.minus, rest)
  | '*' :: rest => some (.star, rest)
  | '/' :: rest => some (.slash, rest)
  | '%' :: rest => some (.percent, rest)
  | char :: rest =>
    if char.isDigit then
      let (value, behind) := numberAhead (char :: rest)
      some (.number value, behind)
    else if isNameStart char then
      some (wordToken (char :: rest.takeWhile isNamePart), rest.dropWhile isNamePart)
    else none
  | [] => none

theorem lengthNumberAheadLt (char : Char) (rest : List Char) (digit : char.isDigit) :
    (numberAhead (char :: rest)).2.length < (char :: rest).length := by
  have shorter := (List.dropWhile_suffix (l := rest) Char.isDigit).length_le
  unfold numberAhead
  simp only [List.dropWhile_cons, digit, if_true]
  split
  · rename_i tail found
    have next := (List.dropWhile_suffix (l := tail) Char.isDigit).length_le
    rw [found] at shorter
    split <;> simp at * <;> omega
  · simp
    omega

/-- A token takes at least one character. -/
theorem lengthFirstLt {text rest : List Char} {token : Token}
    (found : Token.first? text = some (token, rest)) : rest.length < text.length := by
  unfold Token.first? at found
  split at found
  case h_21 char tail _ _ _ _ _ _ _ _ _ _ _ _ _ _ _ _ _ _ _ _ =>
    split at found
    · rename_i digit
      have shorter := lengthNumberAheadLt char tail digit
      simp only [Option.some.injEq, Prod.mk.injEq] at found
      rw [found.2] at shorter
      exact shorter
    · split at found
      · have shorter := (List.dropWhile_suffix (l := tail) isNamePart).length_le
        simp only [Option.some.injEq, Prod.mk.injEq] at found
        rw [← found.2]
        simp
        omega
      · simp at found
  case h_22 => simp at found
  all_goals
    simp only [Option.some.injEq, Prod.mk.injEq] at found
    obtain ⟨_, rfl⟩ := found
    simp
    try omega

/-- The tokens of a text, or the first character that starts none. -/
def Token.lex (text : List Char) : Except Char (List Token) :=
  match text with
  | [] => .ok []
  | char :: rest =>
    if Text.isTokenBlank char then Token.lex rest
    else
      match _found : Token.first? (char :: rest) with
      | none => .error char
      | some (token, behind) => do
        let others ← Token.lex behind
        return token :: others
termination_by text.length
decreasing_by
  · simp
  · exact lengthFirstLt _found

inductive Error where
  | unexpectedChar (char : Char)
  | unexpectedToken (token : Token)
  | unexpectedEnd
  | unknownVariable (name : String)
  | empty
  | tooDeep
deriving DecidableEq, Repr

/-- The name of the kind of an error. -/
def Error.name : Error → String
  | .unexpectedChar _ => "UnexpectedChar"
  | .unexpectedToken _ => "UnexpectedToken"
  | .unexpectedEnd => "UnexpectedEnd"
  | .unknownVariable _ => "UnknownVariable"
  | .empty => "Empty"
  | .tooDeep => "TooDeep"

def Error.message : Error → String
  | .unexpectedChar char => "unexpected character(s) " ++ String.ofList (Text.quoted [char])
  | .unexpectedToken token => "unexpected token " ++ token.label
  | .unexpectedEnd => "unexpected end of expression"
  | .unknownVariable name => "unknown variable '" ++ name ++ "'"
  | .empty => "empty expression"
  | .tooDeep => "expression nested too deeply"

end Tabletop.Rule
