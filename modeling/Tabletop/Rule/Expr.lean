/-
This file defines rule expressions and their values.
-/

import Tabletop.Rule.Token

namespace Tabletop.Rule

open Number

inductive Sign where
  | not
  | negate
  | keep
deriving DecidableEq, Repr

inductive Operation where
  | or
  | and
  | equal
  | notEqual
  | strictEqual
  | strictNotEqual
  | less
  | lessEqual
  | greater
  | greaterEqual
  | add
  | subtract
  | multiply
  | divide
  | remainder
deriving DecidableEq, Repr

inductive Expr where
  | number (value : Decimal)
  | truth (value : Bool)
  | reference (name : String)
  | unary (sign : Sign) (operand : Expr)
  | binary (left : Expr) (operation : Operation) (right : Expr)
  | choice (condition positive negative : Expr)
deriving DecidableEq, Repr

/-- The names in an expression, from left to right. -/
def Expr.names : Expr → List String
  | .number _ => []
  | .truth _ => []
  | .reference name => [name]
  | .unary _ operand => operand.names
  | .binary left _ right => left.names ++ right.names
  | .choice condition positive negative => condition.names ++ positive.names ++ negative.names

/-- The longest way from the root to a leaf. -/
def Expr.height : Expr → Nat
  | .number _ => 1
  | .truth _ => 1
  | .reference _ => 1
  | .unary _ operand => operand.height + 1
  | .binary left _ right => max left.height right.height + 1
  | .choice condition positive negative =>
    max condition.height (max positive.height negative.height) + 1

/-- The numbers that an expression computes with. -/
structure Arithmetic (α : Type) where
  ofDecimal : Decimal → α
  ofInt : Int → α
  isTruthy : α → Bool
  negate : α → α
  add : α → α → α
  subtract : α → α → α
  multiply : α → α → α
  divide : α → α → α
  remainder : α → α → α
  equal : α → α → Bool
  less : α → α → Bool
  lessEqual : α → α → Bool

/-- Binary floating point. Neither zero nor an undefined number is truthy. -/
def floating : Arithmetic Float where
  ofDecimal value := floatOfDecimal value.digits value.exponent
  ofInt value := floatOfInt value
  isTruthy number := number != 0.0 && !number.isNaN
  negate number := -number
  add left right := left + right
  subtract left right := left - right
  multiply left right := left * right
  divide left right := left / right
  remainder left right := floatRemainder left right
  equal left right := left == right
  less left right := left < right
  lessEqual left right := left ≤ right

inductive Value (α : Type) where
  | number (value : α)
  | truth (value : Bool)
deriving Repr

variable {α : Type}

/-- The value as a number: a truth value is one or zero. -/
def Value.asNumber (arithmetic : Arithmetic α) : Value α → α
  | .number value => value
  | .truth value => arithmetic.ofInt (if value then 1 else 0)

def Value.isTruthy (arithmetic : Arithmetic α) : Value α → Bool
  | .number value => arithmetic.isTruthy value
  | .truth value => value

/-- Equality that tells truth values from numbers. -/
def Value.strictEqual (arithmetic : Arithmetic α) : Value α → Value α → Bool
  | .number left, .number right => arithmetic.equal left right
  | .truth left, .truth right => left == right
  | _, _ => false

/-- How a value is written into a text. -/
def Value.text : Value Float → List Char
  | .number value => plainFloat value
  | .truth true => "true".toList
  | .truth false => "false".toList

end Tabletop.Rule
