/-
This file defines the tokens of dice notation, how text is cut into them, and why a notation cannot be read or rolled.
-/

import Tabletop.Number.Numeral
import Tabletop.Text.Cut
import Tabletop.Text.Quoted

namespace Tabletop.Notation

open Number

/-- How a selector picks dice: which end it looks at, and whether it keeps or drops there. -/
inductive Selection where
  | keepHighest
  | keepLowest
  | dropHighest
  | dropLowest
deriving DecidableEq, Repr

def Selection.text : Selection → List Char
  | .keepHighest => ['k', 'h']
  | .keepLowest => ['k', 'l']
  | .dropHighest => ['d', 'h']
  | .dropLowest => ['d', 'l']

inductive Token where
  | int (value : Nat)
  | die
  | percent
  | select (selection : Selection)
  | explode
  | plus
  | minus
  | star
  | slash
  | leftParen
  | rightParen
deriving DecidableEq, Repr

/-- The spelling of a token. It lexes to the token again. -/
def Token.text : Token → List Char
  | .int value => writeNat value
  | .die => ['d']
  | .percent => ['%']
  | .select selection => selection.text
  | .explode => ['!']
  | .plus => ['+']
  | .minus => ['-']
  | .star => ['*']
  | .slash => ['/']
  | .leftParen => ['(']
  | .rightParen => [')']

/-- A token with the byte offsets at which it starts and ends. -/
structure Spanned where
  token : Token
  first : Nat
  last : Nat
deriving DecidableEq, Repr

/-- Why a text is not cut into tokens. -/
inductive LexFault where
  | unexpectedChar (char : Char) (offset : Nat)
  | overflow
deriving DecidableEq, Repr

/-- Integers in notation stay below this bound. -/
def intBound : Nat := Number.wordRange

/-- The token at the start of a text, with the text behind it. Letters are in lower case. -/
def Token.first? : List Char → Option (Token × List Char)
  | 'k' :: 'h' :: rest => some (.select .keepHighest, rest)
  | 'k' :: 'l' :: rest => some (.select .keepLowest, rest)
  | 'k' :: rest => some (.select .keepHighest, rest)
  | 'd' :: 'h' :: rest => some (.select .dropHighest, rest)
  | 'd' :: 'l' :: rest => some (.select .dropLowest, rest)
  | 'd' :: rest => some (.die, rest)
  | '%' :: rest => some (.percent, rest)
  | '!' :: rest => some (.explode, rest)
  | '+' :: rest => some (.plus, rest)
  | '-' :: rest => some (.minus, rest)
  | '*' :: rest => some (.star, rest)
  | 'x' :: rest => some (.star, rest)
  | '/' :: rest => some (.slash, rest)
  | '(' :: rest => some (.leftParen, rest)
  | ')' :: rest => some (.rightParen, rest)
  | char :: rest =>
    if char.isDigit then
      some (.int (natOfDigits (char :: rest.takeWhile Char.isDigit)), rest.dropWhile Char.isDigit)
    else none
  | [] => none

/-- A token takes at least one character. -/
theorem lengthFirstLt {text rest : List Char} {token : Token}
    (found : Token.first? text = some (token, rest)) : rest.length < text.length := by
  unfold Token.first? at found
  split at found <;> simp at found
  case h_16 tail _ _ _ _ _ _ _ _ _ _ _ _ _ _ _ =>
    have shorter := (List.dropWhile_suffix (l := tail) Char.isDigit).length_le
    obtain ⟨_, _, rfl⟩ := found
    simp
    omega
  all_goals
    obtain ⟨_, rfl⟩ := found
    simp
    try omega

/-- The token is no integer that is too large. -/
def Token.fits : Token → Bool
  | .int value => value < intBound
  | _ => true

/-- The tokens of a text that starts at a byte offset. Letters are in lower case. -/
def Token.scan (offset : Nat) (text : List Char) : Except LexFault (List Spanned) :=
  match text with
  | [] => .ok []
  | char :: rest =>
    if Text.isTokenBlank char then Token.scan (offset + 1) rest
    else
      match _found : Token.first? (char :: rest) with
      | none => .error (.unexpectedChar char offset)
      | some (token, behind) =>
        if token.fits then do
          let last := offset + ((char :: rest).length - behind.length)
          let others ← Token.scan last behind
          return ⟨token, offset, last⟩ :: others
        else .error .overflow
termination_by text.length
decreasing_by
  · simp
  · exact lengthFirstLt _found

/-- The tokens of a text, in any case. -/
def Token.lex (text : List Char) : Except LexFault (List Spanned) :=
  Token.scan 0 (text.map Char.toLower)

/-- The character can stand in a notation. -/
def isNotationChar (char : Char) : Bool :=
  let lower := char.toLower
  lower.isDigit || Text.isTokenBlank lower ||
    ['d', '%', 'k', 'h', 'l', '!', '+', '-', '*', 'x', '/', '(', ')'].contains lower

inductive Error where
  | empty
  | unexpectedChar (char : Char) (offset : Nat)
  | unexpectedToken (token : Token)
  | unexpectedEnd
  | tooManyDice (count : Nat)
  | invalidSides (sides : Nat)
  | divisionByZero
  | tooLong (bytes : Nat)
  | tooDeep
  | overflow
deriving DecidableEq, Repr

def Error.ofLexFault : LexFault → Error
  | .unexpectedChar char offset => .unexpectedChar char offset
  | .overflow => .overflow

/-- The name of the kind of an error. -/
def Error.name : Error → String
  | .empty => "Empty"
  | .unexpectedChar _ _ => "UnexpectedChar"
  | .unexpectedToken _ => "UnexpectedToken"
  | .unexpectedEnd => "UnexpectedEnd"
  | .tooManyDice _ => "TooManyDice"
  | .invalidSides _ => "InvalidSides"
  | .divisionByZero => "DivisionByZero"
  | .tooLong _ => "TooLong"
  | .tooDeep => "TooDeep"
  | .overflow => "Overflow"

def Error.message : Error → String
  | .empty => "empty dice notation"
  | .unexpectedChar char offset =>
    "unexpected character " ++ String.ofList (Text.quoted [char]) ++ " at " ++
      String.ofList (writeNat offset)
  | .unexpectedToken token => "unexpected '" ++ String.ofList token.text ++ "'"
  | .unexpectedEnd => "unexpected end of notation"
  | .tooManyDice count => "too many dice: " ++ String.ofList (writeNat count)
  | .invalidSides sides => "invalid die size: d" ++ String.ofList (writeNat sides)
  | .divisionByZero => "division by zero"
  | .tooLong bytes => "dice notation too long: " ++ String.ofList (writeNat bytes) ++ " bytes"
  | .tooDeep => "dice notation nested too deeply"
  | .overflow => "arithmetic overflow"

end Tabletop.Notation
