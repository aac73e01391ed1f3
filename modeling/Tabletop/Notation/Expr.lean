/-
This file defines the syntax trees of dice notation.
-/

import Tabletop.Notation.Token

namespace Tabletop.Notation

/-- A selection with the number of dice that it keeps or drops. -/
structure Selector where
  selection : Selection
  count : Nat
deriving DecidableEq, Repr

/-- A number of equal dice that are rolled together. -/
structure DiceTerm where
  count : Nat
  sides : Nat
  selector : Option Selector
  explode : Bool
deriving DecidableEq, Repr

inductive Operation where
  | add
  | subtract
  | multiply
  | divide
deriving DecidableEq, Repr

def Operation.token : Operation → Token
  | .add => .plus
  | .subtract => .minus
  | .multiply => .star
  | .divide => .slash

inductive Expr where
  | constant (value : Nat)
  | dice (term : DiceTerm)
  | negate (inner : Expr)
  | binary (left : Expr) (operation : Operation) (right : Expr)
  | group (inner : Expr)
deriving DecidableEq, Repr

/-- The expression rolls at least one term. -/
def Expr.hasDice : Expr → Bool
  | .constant _ => false
  | .dice _ => true
  | .negate inner => inner.hasDice
  | .group inner => inner.hasDice
  | .binary left _ right => left.hasDice || right.hasDice

/-- The terms of the expression from left to right. -/
def Expr.terms : Expr → List DiceTerm
  | .constant _ => []
  | .dice term => [term]
  | .negate inner => inner.terms
  | .group inner => inner.terms
  | .binary left _ right => left.terms ++ right.terms

end Tabletop.Notation
