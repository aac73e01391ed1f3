/-
This file states the grammar of rule expressions and proves that it is unambiguous.

  choice   := or ('?' choice ':' choice)?
  or       := and ('||' and)*
  and      := equality ('&&' equality)*
  equality := relation (('==' | '!=' | '===' | '!==') relation)*
  relation := sum (('<' | '<=' | '>' | '>=') sum)*
  sum      := product (('+' | '-') product)*
  product  := signed (('*' | '/' | '%') signed)*
  signed   := ('!' | '-' | '+') signed | primary
  primary  := NUMBER | TRUTH | NAME | '(' choice ')'

A derivation follows these rules. Its tokens, its tree and how deep each token is nested are computed from it.
-/

import Tabletop.Rule.Expr

namespace Tabletop.Rule

open Number

/-- How tightly an operation binds. A looser operation has operands with tighter ones. -/
def Operation.level : Operation → Nat
  | .multiply => 0
  | .divide => 0
  | .remainder => 0
  | .add => 1
  | .subtract => 1
  | .less => 2
  | .lessEqual => 2
  | .greater => 2
  | .greaterEqual => 2
  | .equal => 3
  | .notEqual => 3
  | .strictEqual => 3
  | .strictNotEqual => 3
  | .and => 4
  | .or => 5

def Operation.token : Operation → Token
  | .multiply => .star
  | .divide => .slash
  | .remainder => .percent
  | .add => .plus
  | .subtract => .minus
  | .less => .less
  | .lessEqual => .lessEqual
  | .greater => .greater
  | .greaterEqual => .greaterEqual
  | .equal => .equal
  | .notEqual => .notEqual
  | .strictEqual => .strictEqual
  | .strictNotEqual => .strictNotEqual
  | .and => .and
  | .or => .or

def Sign.token : Sign → Token
  | .not => .not
  | .negate => .minus
  | .keep => .plus

/-- The phrases of an expression. A signed operand has level 0, and each level of operations has the level below
for its operands, up to level 6 with `||`. The others are operations of a level with their right operands. -/
inductive Phrase where
  | primary
  | ofLevel (level : Nat)
  | others (level : Nat)
  | choice

/-- What a phrase means. Others wait for their left operand. -/
abbrev Phrase.Tree : Phrase → Type
  | .others _ => Expr → Expr
  | _ => Expr

inductive Derivation : Phrase → Type where
  | number (value : Decimal) : Derivation .primary
  | truth (value : Bool) : Derivation .primary
  | reference (name : String) : Derivation .primary
  | group (inner : Derivation .choice) : Derivation .primary
  | plain (operand : Derivation .primary) : Derivation (.ofLevel 0)
  | signed (sign : Sign) (operand : Derivation (.ofLevel 0)) : Derivation (.ofLevel 0)
  | chain {level : Nat} (first : Derivation (.ofLevel level)) (others : Derivation (.others level)) :
      Derivation (.ofLevel (level + 1))
  | none {level : Nat} : Derivation (.others level)
  | more {level : Nat} (operation : Operation) (fits : operation.level = level)
      (operand : Derivation (.ofLevel level)) (others : Derivation (.others level)) : Derivation (.others level)
  | operators (inner : Derivation (.ofLevel 6)) : Derivation .choice
  | choice (condition : Derivation (.ofLevel 6)) (positive negative : Derivation .choice) : Derivation .choice

namespace Derivation

def tokens : {phrase : Phrase} → Derivation phrase → List Token
  | _, .number value => [.number value]
  | _, .truth value => [.truth value]
  | _, .reference name => [.name name]
  | _, .group inner => .leftParen :: inner.tokens ++ [.rightParen]
  | _, .plain operand => operand.tokens
  | _, .signed sign operand => sign.token :: operand.tokens
  | _, .chain first others => first.tokens ++ others.tokens
  | _, .none => []
  | _, .more operation _ operand others => operation.token :: operand.tokens ++ others.tokens
  | _, .operators inner => inner.tokens
  | _, .choice condition positive negative =>
    condition.tokens ++ .question :: positive.tokens ++ .colon :: negative.tokens

/-- The expression that is derived. Operations join to the left. -/
def tree : {phrase : Phrase} → Derivation phrase → phrase.Tree
  | _, .number value => Expr.number value
  | _, .truth value => Expr.truth value
  | _, .reference name => Expr.reference name
  | _, .group inner => inner.tree
  | _, .plain operand => operand.tree
  | _, .signed sign operand => Expr.unary sign operand.tree
  | _, .chain first others => others.tree first.tree
  | _, .none => fun left => left
  | _, .more operation _ operand others => fun left => others.tree (Expr.binary left operation operand.tree)
  | _, .operators inner => inner.tree
  | _, .choice condition positive negative => Expr.choice condition.tree positive.tree negative.tree

/-- How many groups, operands of signs and branches are around each token, from left to right, for a phrase with
`depth` of them around it. -/
def depths : {phrase : Phrase} → Derivation phrase → (depth : Nat) → List Nat
  | _, .number _, depth => [depth]
  | _, .truth _, depth => [depth]
  | _, .reference _, depth => [depth]
  | _, .group inner, depth => depth :: inner.depths (depth + 1) ++ [depth]
  | _, .plain operand, depth => operand.depths depth
  | _, .signed _ operand, depth => depth :: operand.depths (depth + 1)
  | _, .chain first others, depth => first.depths depth ++ others.depths depth
  | _, .none, _ => []
  | _, .more _ _ operand others, depth => depth :: operand.depths depth ++ others.depths depth
  | _, .operators inner, depth => inner.depths depth
  | _, .choice condition positive negative, depth =>
    condition.depths depth ++ depth :: positive.depths (depth + 1) ++ depth :: negative.depths (depth + 1)

/-- The most groups, operands of signs and branches around one place. -/
def nesting : {phrase : Phrase} → Derivation phrase → Nat
  | _, .number _ => 0
  | _, .truth _ => 0
  | _, .reference _ => 0
  | _, .group inner => inner.nesting + 1
  | _, .plain operand => operand.nesting
  | _, .signed _ operand => operand.nesting + 1
  | _, .chain first others => max first.nesting others.nesting
  | _, .none => 0
  | _, .more _ _ operand others => max operand.nesting others.nesting
  | _, .operators inner => inner.nesting
  | _, .choice condition positive negative =>
    max condition.nesting (max (positive.nesting + 1) (negative.nesting + 1))

end Derivation

/-- A phrase of a level ends where these tokens start: with a closing parenthesis, a colon, a question mark or an
operation that binds no tighter, or the end of the expression. A choice has level 7. -/
def Ends (level : Nat) (rest : List Token) : Prop :=
  ∀ token ∈ rest.head?, token = .rightParen ∨ token = .colon ∨ token = .question ∧ level ≤ 6 ∨
    ∃ operation : Operation, operation.token = token ∧ level ≤ operation.level

/-- The level at which a phrase ends. -/
def Phrase.ending : Phrase → Nat
  | .primary => 0
  | .ofLevel level => level
  | .others level => level + 1
  | .choice => 7

variable {level : Nat} {token : Token} {rest behind : List Token}

@[simp] theorem ends_nil : Ends level [] := by simp [Ends]

@[simp] theorem ends_rightParen : Ends level (.rightParen :: rest) := by simp [Ends]

@[simp] theorem ends_colon : Ends level (.colon :: rest) := by simp [Ends]

theorem ends_question : Ends 6 (.question :: rest) := by simp [Ends]

/-- No choice ends at a question mark. -/
theorem not_ends_question : ¬Ends 7 (.question :: rest) := by
  intro ends
  rcases ends _ rfl with same | same | ⟨_, tooLoose⟩ | ⟨operation, same, _⟩
  · cases same
  · cases same
  · omega
  · cases operation <;> cases same

theorem Operation.token_injective {first second : Operation} (same : first.token = second.token) :
    first = second := by
  cases first <;> cases second <;> first | rfl | cases same

theorem Sign.token_injective {first second : Sign} (same : first.token = second.token) : first = second := by
  cases first <;> cases second <;> first | rfl | cases same

theorem Ends.le {operation : Operation} (ends : Ends level (operation.token :: rest)) :
    level ≤ operation.level := by
  rcases ends _ rfl with same | same | ⟨same, _⟩ | ⟨other, same, atLeast⟩
  · cases operation <;> cases same
  · cases operation <;> cases same
  · cases operation <;> cases same
  · rwa [← Operation.token_injective same]

theorem Ends.mono {tighter : Nat} (ends : Ends level rest) (le : tighter ≤ level) : Ends tighter rest := by
  intro token isHead
  rcases ends token isHead with paren | colon | ⟨question, atLeast⟩ | ⟨operation, same, atLeast⟩
  · exact .inl paren
  · exact .inr (.inl colon)
  · exact .inr (.inr (.inl ⟨question, Nat.le_trans le atLeast⟩))
  · exact .inr (.inr (.inr ⟨operation, same, Nat.le_trans le atLeast⟩))

namespace Derivation

/-- An operand ends where the others of its level start. -/
theorem ends_others (others : Derivation (.others level)) (ends : Ends (level + 1) rest) :
    Ends level (others.tokens ++ rest) := by
  cases others with
  | none => exact ends.mono (by omega)
  | more operation fits operand others =>
      intro token isHead
      cases isHead
      exact .inr (.inr (.inr ⟨operation, rfl, Nat.le_of_eq fits.symm⟩))

/-- A primary does not start with a sign. -/
theorem primary_start (primary : Derivation .primary) (sign : Sign) (more : List Token) :
    primary.tokens ++ rest ≠ sign.token :: more := by
  intro same
  cases primary <;> cases sign <;> cases same

/-- Tokens with an end behind them have one derivation. -/
theorem unique {phrase : Phrase} {first second : Derivation phrase} (ends : Ends phrase.ending rest)
    (otherEnds : Ends phrase.ending behind) (same : first.tokens ++ rest = second.tokens ++ behind) :
    first = second ∧ rest = behind := by
  induction first generalizing rest behind with
  | number value =>
      cases second <;> cases same
      exact ⟨rfl, rfl⟩
  | truth value =>
      cases second <;> cases same
      exact ⟨rfl, rfl⟩
  | reference name =>
      cases second <;> cases same
      exact ⟨rfl, rfl⟩
  | group inner inductionHypothesis =>
      cases second with
      | number value => cases same
      | truth value => cases same
      | reference name => cases same
      | group other =>
          simp only [tokens, List.cons_append, List.append_assoc, List.nil_append, List.cons.injEq, true_and]
            at same
          obtain ⟨rfl, sameRest⟩ := inductionHypothesis ends_rightParen ends_rightParen same
          exact ⟨rfl, List.tail_eq_of_cons_eq sameRest⟩
  | plain operand inductionHypothesis =>
      cases second with
      | plain other =>
          obtain ⟨rfl, rfl⟩ := inductionHypothesis ends otherEnds same
          exact ⟨rfl, rfl⟩
      | signed sign other => exact absurd same (primary_start operand sign _)
  | signed sign operand inductionHypothesis =>
      cases second with
      | plain other => exact absurd same.symm (primary_start other sign _)
      | signed otherSign other =>
          obtain ⟨sameSign, sameTokens⟩ := List.cons.inj same
          obtain rfl := Sign.token_injective sameSign
          obtain ⟨rfl, rfl⟩ := inductionHypothesis ends otherEnds sameTokens
          exact ⟨rfl, rfl⟩
  | chain head others headHypothesis othersHypothesis =>
      cases second with
      | chain otherHead otherOthers =>
          rw [tokens, tokens, List.append_assoc, List.append_assoc] at same
          have headEnds := ends_others others ends
          have otherHeadEnds := ends_others otherOthers otherEnds
          obtain ⟨rfl, sameOthers⟩ := headHypothesis headEnds otherHeadEnds same
          obtain ⟨rfl, rfl⟩ := othersHypothesis ends otherEnds sameOthers
          exact ⟨rfl, rfl⟩
  | none =>
      cases second with
      | none => exact ⟨rfl, same⟩
      | more operation fits operand others =>
          cases same
          have atLeast := ends.le
          simp only [Phrase.ending] at atLeast
          omega
  | more operation fits operand others operandHypothesis othersHypothesis =>
      cases second with
      | none =>
          cases same
          have atLeast := otherEnds.le
          simp only [Phrase.ending] at atLeast
          omega
      | more otherOperation otherFits otherOperand otherOthers =>
          simp only [tokens, List.cons_append, List.append_assoc, List.cons.injEq] at same
          obtain ⟨sameOperation, sameTokens⟩ := same
          obtain rfl := Operation.token_injective sameOperation
          have operandEnds := ends_others others ends
          have otherOperandEnds := ends_others otherOthers otherEnds
          obtain ⟨rfl, sameOthers⟩ := operandHypothesis operandEnds otherOperandEnds sameTokens
          obtain ⟨rfl, rfl⟩ := othersHypothesis ends otherEnds sameOthers
          exact ⟨rfl, rfl⟩
  | operators inner inductionHypothesis =>
      have innerEnds : Ends 6 rest := ends.mono (by decide)
      cases second with
      | operators other =>
          obtain ⟨rfl, rfl⟩ := inductionHypothesis innerEnds (otherEnds.mono (by decide)) same
          exact ⟨rfl, rfl⟩
      | choice condition positive negative =>
          simp only [tokens, List.cons_append, List.append_assoc] at same
          obtain ⟨rfl, rfl⟩ := inductionHypothesis innerEnds ends_question same
          exact absurd ends not_ends_question
  | choice condition positive negative conditionHypothesis positiveHypothesis negativeHypothesis =>
      cases second with
      | operators other =>
          simp only [tokens, List.cons_append, List.append_assoc] at same
          have innerEnds : Ends 6 behind := otherEnds.mono (by decide)
          obtain ⟨rfl, rfl⟩ := conditionHypothesis ends_question innerEnds same
          exact absurd otherEnds not_ends_question
      | choice otherCondition otherPositive otherNegative =>
          simp only [tokens, List.cons_append, List.append_assoc] at same
          obtain ⟨rfl, sameBranches⟩ := conditionHypothesis ends_question ends_question same
          obtain ⟨rfl, sameNegative⟩ :=
            positiveHypothesis ends_colon ends_colon (List.tail_eq_of_cons_eq sameBranches)
          obtain ⟨rfl, rfl⟩ := negativeHypothesis ends otherEnds (List.tail_eq_of_cons_eq sameNegative)
          exact ⟨rfl, rfl⟩

end Derivation

end Tabletop.Rule
