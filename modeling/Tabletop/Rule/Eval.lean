/-
This file evaluates rule expressions.
-/

import Tabletop.Rule.Expr
import Tabletop.Rule.Token

namespace Tabletop.Rule

variable {α : Type}

/-- The value of a variable, for the names that have one. -/
abbrev Variables (α : Type) := String → Option α

/-- The variables of a list of pairs. The first pair with a name counts. -/
def Variables.ofList (pairs : List (String × α)) : Variables α := fun name =>
  (pairs.find? (·.1 == name)).map (·.2)

def Sign.apply (arithmetic : Arithmetic α) (sign : Sign) (value : Value α) : Value α :=
  match sign with
  | .not => .truth (!value.isTruthy arithmetic)
  | .negate => .number (arithmetic.negate (value.asNumber arithmetic))
  | .keep => .number (value.asNumber arithmetic)

/-- The value of an operation whose operands are both evaluated. -/
def Operation.apply (arithmetic : Arithmetic α) (operation : Operation) (left right : Value α) :
    Value α :=
  let first := left.asNumber arithmetic
  let second := right.asNumber arithmetic
  match operation with
  | .or => right
  | .and => right
  | .equal => .truth (arithmetic.equal first second)
  | .notEqual => .truth (!arithmetic.equal first second)
  | .strictEqual => .truth (left.strictEqual arithmetic right)
  | .strictNotEqual => .truth (!left.strictEqual arithmetic right)
  | .less => .truth (arithmetic.less first second)
  | .lessEqual => .truth (arithmetic.lessEqual first second)
  | .greater => .truth (arithmetic.less second first)
  | .greaterEqual => .truth (arithmetic.lessEqual second first)
  | .add => .number (arithmetic.add first second)
  | .subtract => .number (arithmetic.subtract first second)
  | .multiply => .number (arithmetic.multiply first second)
  | .divide => .number (arithmetic.divide first second)
  | .remainder => .number (arithmetic.remainder first second)

/-- The left operand alone decides the value. -/
def Operation.stopsAt (arithmetic : Arithmetic α) (operation : Operation) (left : Value α) : Bool :=
  match operation with
  | .or => left.isTruthy arithmetic
  | .and => !left.isTruthy arithmetic
  | _ => false

/-- The value of an expression. Operands that do not matter are not evaluated. -/
def Expr.eval (arithmetic : Arithmetic α) (bindings : Variables α) :
    Expr → Except Error (Value α)
  | .number value => .ok (.number (arithmetic.ofDecimal value))
  | .truth value => .ok (.truth value)
  | .reference name =>
    match bindings name with
    | some value => .ok (.number value)
    | none => .error (.unknownVariable name)
  | .unary sign operand => do
    let value ← operand.eval arithmetic bindings
    return sign.apply arithmetic value
  | .binary left operation right => do
    let first ← left.eval arithmetic bindings
    if operation.stopsAt arithmetic first then return first
    else
      let second ← right.eval arithmetic bindings
      return operation.apply arithmetic first second
  | .choice condition positive negative => do
    let value ← condition.eval arithmetic bindings
    if value.isTruthy arithmetic then positive.eval arithmetic bindings
    else negative.eval arithmetic bindings

end Tabletop.Rule
