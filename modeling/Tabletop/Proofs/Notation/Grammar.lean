/-
This file states the grammar of dice notation and proves that it is unambiguous.

  sum      := product (('+' | '-') product)*
  product  := signed (('*' | '/') signed)*
  signed   := ('-' | '+') signed | primary
  primary  := INT | INT? 'd' (INT | '%') modifier* | '(' sum ')'
  modifier := '!' | selection INT?

A derivation follows these rules. Its tokens, its tree and the nesting of its groups are computed from it.
-/

import Tabletop.Notation.Expr

namespace Tabletop.Notation

/-- How tightly an operation binds: products are operands of sums. -/
def Operation.level : Operation → Nat
  | .multiply => 0
  | .divide => 0
  | .add => 1
  | .subtract => 1

/-- The phrases of a notation. A signed operand has level 0, a product level 1 and a sum level 2, and the others
are operations of a level with their right operands. -/
inductive Phrase where
  | primary
  | ofLevel (level : Nat)
  | others (level : Nat)

/-- What a phrase means. Others wait for their left operand. -/
abbrev Phrase.Tree : Phrase → Type
  | .primary => Expr
  | .ofLevel _ => Expr
  | .others _ => Expr → Expr

inductive Sign where
  | plus
  | minus

def Sign.token : Sign → Token
  | .plus => .plus
  | .minus => .minus

/-- How the sides of a die are written. -/
inductive Sides where
  | number (value : Nat)
  | percent

def Sides.token : Sides → Token
  | .number value => .int value
  | .percent => .percent

def Sides.value : Sides → Nat
  | .number value => value
  | .percent => 100

inductive Modifier where
  | explode
  | select (selection : Selection) (count : Option Nat)

def Modifier.tokens : Modifier → List Token
  | .explode => [.explode]
  | .select selection count => .select selection :: count.toList.map .int

/-- The term with a modifier. A selector replaces the one before it. -/
def Modifier.apply (term : DiceTerm) : Modifier → DiceTerm
  | .explode => { term with explode := true }
  | .select selection count => { term with selector := some ⟨selection, min (count.getD 1) 1000⟩ }

/-- The negation, without two minus signs in a row. -/
def Expr.opposite : Expr → Expr
  | .negate inner => inner
  | expr => .negate expr

inductive Derivation : Phrase → Type where
  | constant (value : Nat) : Derivation .primary
  | dice (count : Option Nat) (sides : Sides) (modifiers : List Modifier) : Derivation .primary
  | group (inner : Derivation (.ofLevel 2)) : Derivation .primary
  | plain (operand : Derivation .primary) : Derivation (.ofLevel 0)
  | signed (sign : Sign) (operand : Derivation (.ofLevel 0)) : Derivation (.ofLevel 0)
  | chain {level : Nat} (first : Derivation (.ofLevel level)) (others : Derivation (.others level)) :
      Derivation (.ofLevel (level + 1))
  | none {level : Nat} : Derivation (.others level)
  | more {level : Nat} (operation : Operation) (fits : operation.level = level)
      (operand : Derivation (.ofLevel level)) (others : Derivation (.others level)) : Derivation (.others level)

namespace Derivation

def tokens : {phrase : Phrase} → Derivation phrase → List Token
  | _, .constant value => [.int value]
  | _, .dice count sides modifiers =>
    count.toList.map .int ++ .die :: sides.token :: modifiers.flatMap Modifier.tokens
  | _, .group inner => .leftParen :: inner.tokens ++ [.rightParen]
  | _, .plain operand => operand.tokens
  | _, .signed sign operand => sign.token :: operand.tokens
  | _, .chain first others => first.tokens ++ others.tokens
  | _, .none => []
  | _, .more operation _ operand others => operation.token :: operand.tokens ++ others.tokens

/-- The expression that is derived. Operations join to the left, and signs become at most one negation. -/
def tree : {phrase : Phrase} → Derivation phrase → phrase.Tree
  | _, .constant value => Expr.constant value
  | _, .dice count sides modifiers =>
    Expr.dice (modifiers.foldl Modifier.apply ⟨count.getD 1, sides.value, Option.none, false⟩)
  | _, .group inner => Expr.group inner.tree
  | _, .plain operand => operand.tree
  | _, .signed .plus operand => operand.tree
  | _, .signed .minus operand => Expr.opposite operand.tree
  | _, .chain first others => others.tree first.tree
  | _, .none => fun left => left
  | _, .more operation _ operand others => fun left => others.tree (Expr.binary left operation operand.tree)

/-- Constants and terms keep to their limits. -/
def Legal : {phrase : Phrase} → Derivation phrase → Prop
  | _, .constant value => value < 2 ^ 63
  | _, .dice count sides _ => count.getD 1 ≤ 1000 ∧ 1 ≤ sides.value ∧ sides.value ≤ 100000
  | _, .group inner => inner.Legal
  | _, .plain operand => operand.Legal
  | _, .signed _ operand => operand.Legal
  | _, .chain first others => first.Legal ∧ others.Legal
  | _, .none => True
  | _, .more _ _ operand others => operand.Legal ∧ others.Legal

/-- The most groups around one place. -/
def nesting : {phrase : Phrase} → Derivation phrase → Nat
  | _, .constant _ => 0
  | _, .dice _ _ _ => 0
  | _, .group inner => inner.nesting + 1
  | _, .plain operand => operand.nesting
  | _, .signed _ operand => operand.nesting
  | _, .chain first others => max first.nesting others.nesting
  | _, .none => 0
  | _, .more _ _ operand others => max operand.nesting others.nesting

end Derivation

/-- A phrase of a level ends where these tokens start: with a closing parenthesis, an operation that binds no
tighter or the end of the notation. -/
def Ends (level : Nat) (rest : List Token) : Prop :=
  ∀ token ∈ rest.head?, token = .rightParen ∨
    ∃ operation : Operation, operation.token = token ∧ level ≤ operation.level

/-- The level at which a phrase ends. -/
def Phrase.ending : Phrase → Nat
  | .primary => 0
  | .ofLevel level => level
  | .others level => level + 1

variable {level : Nat} {token : Token} {rest behind : List Token}

@[simp] theorem ends_nil : Ends level [] := by simp [Ends]

@[simp] theorem ends_rightParen : Ends level (.rightParen :: rest) := by simp [Ends]

theorem Ends.head (ends : Ends level (token :: rest)) :
    token ∈ [.rightParen, .plus, .minus, .star, .slash] := by
  rcases ends token rfl with rfl | ⟨operation, rfl, _⟩
  · simp
  · cases operation <;> simp [Operation.token]

theorem Operation.token_injective {first second : Operation} (same : first.token = second.token) :
    first = second := by
  cases first <;> cases second <;> first | rfl | cases same

theorem Ends.le {operation : Operation} (ends : Ends level (operation.token :: rest)) :
    level ≤ operation.level := by
  rcases ends _ rfl with same | ⟨other, same, atLeast⟩
  · cases operation <;> cases same
  · rwa [← Operation.token_injective same]

theorem Ends.mono {tighter : Nat} (ends : Ends level rest) (le : tighter ≤ level) : Ends tighter rest := by
  intro token isHead
  rcases ends token isHead with paren | ⟨operation, same, atLeast⟩
  · exact .inl paren
  · exact .inr ⟨operation, same, Nat.le_trans le atLeast⟩

theorem count_unique {first second : Option Nat}
    (same : first.toList.map Token.int ++ .die :: rest = second.toList.map Token.int ++ .die :: behind) :
    first = second ∧ rest = behind := by
  cases first <;> cases second <;> cases same <;> exact ⟨rfl, rfl⟩

theorem modifier_unique {first second : Modifier} (noInt : ∀ value more, rest ≠ .int value :: more)
    (otherNoInt : ∀ value more, behind ≠ .int value :: more)
    (same : first.tokens ++ rest = second.tokens ++ behind) : first = second ∧ rest = behind := by
  cases first with
  | explode =>
      cases second <;> cases same
      exact ⟨rfl, rfl⟩
  | select selection count =>
      cases second with
      | explode => cases same
      | select otherSelection otherCount =>
          obtain ⟨sameSelection, sameCount⟩ := List.cons.inj same
          cases sameSelection
          cases count with
          | none =>
              cases otherCount with
              | none => exact ⟨rfl, sameCount⟩
              | some value => exact absurd sameCount (noInt value behind)
          | some value =>
              cases otherCount with
              | none => exact absurd sameCount.symm (otherNoInt value rest)
              | some otherValue =>
                  cases sameCount
                  exact ⟨rfl, rfl⟩

/-- Modifiers do not start with a number, nor does what ends them. -/
theorem modifiers_start (modifiers : List Modifier) (ends : Ends 0 rest) (value : Nat) (more : List Token) :
    modifiers.flatMap Modifier.tokens ++ rest ≠ .int value :: more := by
  intro same
  cases modifiers with
  | nil =>
      cases same
      simpa using ends.head
  | cons modifier others => cases modifier <;> cases same

theorem modifiers_unique {first second : List Modifier} (ends : Ends 0 rest) (otherEnds : Ends 0 behind)
    (same : first.flatMap Modifier.tokens ++ rest = second.flatMap Modifier.tokens ++ behind) :
    first = second ∧ rest = behind := by
  induction first generalizing second with
  | nil =>
      cases second with
      | nil => exact ⟨rfl, same⟩
      | cons modifier others =>
          cases modifier <;> cases same <;> simpa using ends.head
  | cons modifier others inductionHypothesis =>
      cases second with
      | nil => cases modifier <;> cases same <;> simpa using otherEnds.head
      | cons otherModifier otherOthers =>
          rw [List.flatMap_cons, List.flatMap_cons, List.append_assoc, List.append_assoc] at same
          have noInt := modifiers_start others ends
          have otherNoInt := modifiers_start otherOthers otherEnds
          obtain ⟨rfl, sameOthers⟩ := modifier_unique noInt otherNoInt same
          obtain ⟨rfl, rfl⟩ := inductionHypothesis sameOthers
          exact ⟨rfl, rfl⟩

theorem Sides.token_injective {first second : Sides} (same : first.token = second.token) : first = second := by
  cases first <;> cases second <;> cases same <;> rfl

namespace Derivation

/-- An operand ends where the others of its level start. -/
theorem ends_others (others : Derivation (.others level)) (ends : Ends (level + 1) rest) :
    Ends level (others.tokens ++ rest) := by
  cases others with
  | none => exact ends.mono (by omega)
  | more operation fits operand others =>
      intro token isHead
      cases isHead
      exact .inr ⟨operation, rfl, Nat.le_of_eq fits.symm⟩

/-- A primary does not start with a sign. -/
theorem primary_start (primary : Derivation .primary) (sign : Sign) (more : List Token) :
    primary.tokens ++ rest ≠ sign.token :: more := by
  intro same
  cases primary with
  | constant value => cases sign <;> cases same
  | dice count sides modifiers => cases count <;> cases sign <;> cases same
  | group inner => cases sign <;> cases same

/-- Tokens with an end behind them have one derivation. -/
theorem unique {phrase : Phrase} {first second : Derivation phrase} (ends : Ends phrase.ending rest)
    (otherEnds : Ends phrase.ending behind) (same : first.tokens ++ rest = second.tokens ++ behind) :
    first = second ∧ rest = behind := by
  induction first generalizing rest behind with
  | constant value =>
      cases second with
      | constant other =>
          cases same
          exact ⟨rfl, rfl⟩
      | dice count sides modifiers =>
          cases count with
          | none => cases same
          | some count =>
              cases same
              simpa using ends.head
      | group inner => cases same
  | dice count sides modifiers =>
      cases second with
      | constant other =>
          cases count with
          | none => cases same
          | some count =>
              cases same
              simpa using otherEnds.head
      | dice otherCount otherSides otherModifiers =>
          rw [tokens, tokens, List.append_assoc, List.append_assoc] at same
          obtain ⟨rfl, sameSides⟩ := count_unique same
          obtain ⟨sameToken, sameModifiers⟩ := List.cons.inj sameSides
          obtain rfl := Sides.token_injective sameToken
          obtain ⟨rfl, rfl⟩ := modifiers_unique ends otherEnds sameModifiers
          exact ⟨rfl, rfl⟩
      | group inner => cases count <;> cases same
  | group inner inductionHypothesis =>
      cases second with
      | constant value => cases same
      | dice count sides modifiers => cases count <;> cases same
      | group other =>
          simp only [tokens, List.cons_append, List.append_assoc, List.nil_append, List.cons.injEq, true_and]
            at same
          obtain ⟨rfl, sameRest⟩ := inductionHypothesis ends_rightParen ends_rightParen same
          exact ⟨rfl, List.tail_eq_of_cons_eq sameRest⟩
  | plain operand inductionHypothesis =>
      cases second with
      | plain other =>
          obtain ⟨rfl, rfl⟩ := inductionHypothesis ends otherEnds same
          exact ⟨rfl, rfl⟩
      | signed sign other => exact absurd same (primary_start operand sign _)
  | signed sign operand inductionHypothesis =>
      cases second with
      | plain other => exact absurd same.symm (primary_start other sign _)
      | signed otherSign other =>
          obtain ⟨sameSign, sameTokens⟩ := List.cons.inj same
          obtain ⟨rfl, rfl⟩ := inductionHypothesis ends otherEnds sameTokens
          cases sign <;> cases otherSign <;> cases sameSign <;> exact ⟨rfl, rfl⟩
  | chain head others headHypothesis othersHypothesis =>
      cases second with
      | chain otherHead otherOthers =>
          rw [tokens, tokens, List.append_assoc, List.append_assoc] at same
          have headEnds := ends_others others ends
          have otherHeadEnds := ends_others otherOthers otherEnds
          obtain ⟨rfl, sameOthers⟩ := headHypothesis headEnds otherHeadEnds same
          obtain ⟨rfl, rfl⟩ := othersHypothesis ends otherEnds sameOthers
          exact ⟨rfl, rfl⟩
  | none =>
      cases second with
      | none => exact ⟨rfl, same⟩
      | more operation fits operand others =>
          cases same
          have atLeast := ends.le
          simp only [Phrase.ending] at atLeast
          omega
  | more operation fits operand others operandHypothesis othersHypothesis =>
      cases second with
      | none =>
          cases same
          have atLeast := otherEnds.le
          simp only [Phrase.ending] at atLeast
          omega
      | more otherOperation otherFits otherOperand otherOthers =>
          simp only [tokens, List.cons_append, List.append_assoc, List.cons.injEq] at same
          obtain ⟨sameOperation, sameTokens⟩ := same
          obtain rfl := Operation.token_injective sameOperation
          have operandEnds := ends_others others ends
          have otherOperandEnds := ends_others otherOthers otherEnds
          obtain ⟨rfl, sameOthers⟩ := operandHypothesis operandEnds otherOperandEnds sameTokens
          obtain ⟨rfl, rfl⟩ := othersHypothesis ends otherEnds sameOthers
          exact ⟨rfl, rfl⟩

end Derivation

end Tabletop.Notation
