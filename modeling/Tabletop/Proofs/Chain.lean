/-
This file proves how operands with operators between them are read.
-/

import Tabletop.Chain
import Tabletop.Proofs.Result

namespace Tabletop

variable {Token Error Tree Operator : Type} {operator? : Token → Option Operator}
  {combine : Tree → Operator → Tree → Tree} {operand : TokenReader Token Error Tree}
  {fuel : Nat} {left tree : Tree} {tokens rest behind : List Token}

section Complete

variable (operator? combine operand)

/-- The tokens behind a left operand start with operators and right operands that can be read, up to the rest. A left
operand and these give a tree. -/
inductive ReadsBehind : List Token → (Tree → Tree) → List Token → Prop where
  | stop {rest : List Token} (stops : ∀ token ∈ rest.head?, operator? token = none) : ReadsBehind rest id rest
  | more {token : Token} {operator : Operator} {tokens behind rest : List Token} {right : Tree} {join : Tree → Tree}
      (found : operator? token = some operator) (read : operand tokens = .ok (right, behind))
      (shorter : behind.length ≤ tokens.length) (others : ReadsBehind behind join rest) :
      ReadsBehind (token :: tokens) (fun left => join (combine left operator right)) rest

end Complete

/-- The fuel is enough for all operators. -/
theorem ReadsBehind.chainBehind {join : Tree → Tree} (reads : ReadsBehind operator? combine operand tokens join rest)
    (enough : tokens.length ≤ fuel) :
    chainBehind operator? combine operand fuel left tokens = .ok (join left, rest) := by
  induction reads generalizing fuel left with
  | @stop rest stops =>
      cases fuel with
      | zero => rfl
      | succ fuel =>
          cases rest with
          | nil => rfl
          | cons token rest =>
              have noOperator : operator? token = none := stops token rfl
              rw [Tabletop.chainBehind, noOperator]
              rfl
  | more found read shorter _ inductionHypothesis =>
      rw [List.length_cons] at enough
      cases fuel with
      | zero => omega
      | succ fuel =>
          rw [Tabletop.chainBehind, found]
          simp only [read]
          exact inductionHypothesis (by omega)

theorem ReadsBehind.chain {join : Tree → Tree} (reads : ReadsBehind operator? combine operand behind join rest)
    (read : operand tokens = .ok (left, behind)) : chain operator? combine operand tokens = .ok (join left, rest) :=
  bind_eq_ok.2 ⟨(left, behind), read, reads.chainBehind (Nat.le_refl _)⟩

/-- What holds where no operator is read, and with one more operator if it held behind it, holds of all that is
read behind a left operand. -/
theorem chainBehind_induction {Reads : List Token → (Tree → Tree) → List Token → Prop}
    (stop : ∀ tokens, Reads tokens id tokens)
    (more : ∀ {token operator others right behind join rest}, operator? token = some operator →
      operand others = .ok (right, behind) → Reads behind join rest →
        Reads (token :: others) (fun left => join (combine left operator right)) rest)
    (read : chainBehind operator? combine operand fuel left tokens = .ok (tree, rest)) :
    ∃ join, Reads tokens join rest ∧ join left = tree := by
  induction fuel generalizing left tokens with
  | zero =>
      cases read
      exact ⟨id, stop rest, rfl⟩
  | succ fuel inductionHypothesis =>
      cases tokens with
      | nil =>
          cases read
          exact ⟨id, stop [], rfl⟩
      | cons token others =>
          rw [chainBehind] at read
          cases found : operator? token with
          | none =>
              rw [found] at read
              cases read
              exact ⟨id, stop _, rfl⟩
          | some operator =>
              rw [found] at read
              obtain ⟨⟨right, behind⟩, operandRead, othersRead⟩ := bind_eq_ok.1 read
              obtain ⟨join, reads, joined⟩ := inductionHypothesis othersRead
              exact ⟨_, more found operandRead reads, joined⟩

end Tabletop
