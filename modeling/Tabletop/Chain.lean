/-
This file reads operands with operators between them, for all grammars of the library.
-/

namespace Tabletop

/-- A reader of the first of some tokens. It gives back the others. -/
abbrev TokenReader (Token Error Tree : Type) := List Token → Except Error (Tree × List Token)

variable {Token Error Tree Operator : Type}

/-- Reads `(operator operand)*` behind `left`, joining to the left. The fuel bounds the operators. -/
def chainBehind (operator? : Token → Option Operator) (combine : Tree → Operator → Tree → Tree)
    (operand : TokenReader Token Error Tree) : Nat → Tree → TokenReader Token Error Tree
  | fuel + 1, left, token :: rest =>
    match operator? token with
    | none => .ok (left, token :: rest)
    | some operator => do
      let (right, behind) ← operand rest
      chainBehind operator? combine operand fuel (combine left operator right) behind
  | _, left, rest => .ok (left, rest)

/-- Reads operands with operators between them, joining to the left. -/
def chain (operator? : Token → Option Operator) (combine : Tree → Operator → Tree → Tree)
    (operand : TokenReader Token Error Tree) : TokenReader Token Error Tree := fun tokens => do
  let (first, rest) ← operand tokens
  chainBehind operator? combine operand rest.length first rest

end Tabletop
