/-
This file proves how high the trees of rule expressions are, and so how many calls inside each other are made to collect
their names and to evaluate them.

A chain of operations of one level joins to the left, and its tree is as high as the chain is long. Nothing bounds that
length. All else that makes a tree higher is a group, an operand of a sign or a branch, and there are at most 64 of these
around one place. So the height has no bound for all expressions, but it has one for all whose chains are no longer than
a given length.
-/

import Tabletop.Proofs.Rule.Counter

namespace Tabletop.Rule

/-! Calls inside each other -/

variable {α : Type} {arithmetic : Arithmetic α} {bindings : Variables α} {expr : Expr} {calls : Nat}

/-- Collects the names in an expression with at most `calls` calls inside each other. There is no result if these are
too few. -/
def Expr.namesWithin : (calls : Nat) → Expr → Option (List String)
  | 0, _ => none
  | _ + 1, .number _ => some []
  | _ + 1, .truth _ => some []
  | _ + 1, .reference name => some [name]
  | calls + 1, .unary _ operand => operand.namesWithin calls
  | calls + 1, .binary left _ right => do
    let first ← left.namesWithin calls
    let second ← right.namesWithin calls
    return first ++ second
  | calls + 1, .choice condition positive negative => do
    let first ← condition.namesWithin calls
    let second ← positive.namesWithin calls
    let third ← negative.namesWithin calls
    return first ++ second ++ third

/-- Evaluates an expression with at most `calls` calls inside each other. If these are too few, it fails without an
error of the expression. -/
def Expr.evalWithin (arithmetic : Arithmetic α) (bindings : Variables α) :
    (calls : Nat) → Expr → Except (Option Error) (Value α)
  | 0, _ => .error none
  | _ + 1, .number value => .ok (.number (arithmetic.ofDecimal value))
  | _ + 1, .truth value => .ok (.truth value)
  | _ + 1, .reference name =>
    match bindings name with
    | some value => .ok (.number value)
    | none => .error (some (.unknownVariable name))
  | calls + 1, .unary sign operand => do
    let value ← operand.evalWithin arithmetic bindings calls
    return sign.apply arithmetic value
  | calls + 1, .binary left operation right => do
    let first ← left.evalWithin arithmetic bindings calls
    if operation.stopsAt arithmetic first then return first
    else
      let second ← right.evalWithin arithmetic bindings calls
      return operation.apply arithmetic first second
  | calls + 1, .choice condition positive negative => do
    let value ← condition.evalWithin arithmetic bindings calls
    if value.isTruthy arithmetic then positive.evalWithin arithmetic bindings calls
    else negative.evalWithin arithmetic bindings calls

theorem Expr.height_pos (expr : Expr) : 0 < expr.height := by
  cases expr <;> simp [height]

/-- Collecting the names takes as many calls inside each other as the tree is high. -/
theorem Expr.namesWithin_eq (calls : Nat) (expr : Expr) :
    expr.namesWithin calls = if expr.height ≤ calls then some expr.names else none := by
  induction calls generalizing expr with
  | zero =>
      have positive := expr.height_pos
      rw [namesWithin, if_neg (by omega)]
  | succ calls inductionHypothesis =>
      cases expr with
      | number value => simp [namesWithin, height, names]
      | truth value => simp [namesWithin, height, names]
      | reference name => simp [namesWithin, height, names]
      | unary sign operand => simp [namesWithin, height, names, inductionHypothesis]
      | binary left operation right =>
          simp only [namesWithin, height, names, inductionHypothesis, Nat.add_le_add_iff_right, Nat.max_le]
          by_cases leftFits : left.height ≤ calls <;> by_cases rightFits : right.height ≤ calls <;>
            simp [leftFits, rightFits]
      | choice condition positive negative =>
          simp only [namesWithin, height, names, inductionHypothesis, Nat.add_le_add_iff_right, Nat.max_le]
          by_cases conditionFits : condition.height ≤ calls <;> by_cases positiveFits : positive.height ≤ calls <;>
            by_cases negativeFits : negative.height ≤ calls <;> simp [conditionFits, positiveFits, negativeFits]

/-- As many calls inside each other as the tree is high are enough to evaluate. -/
theorem Expr.evalWithin_of_height_le (fits : expr.height ≤ calls) :
    expr.evalWithin arithmetic bindings calls = (expr.eval arithmetic bindings).mapError some := by
  induction calls generalizing expr with
  | zero =>
      have positive := expr.height_pos
      omega
  | succ calls inductionHypothesis =>
      cases expr with
      | number value => rfl
      | truth value => rfl
      | reference name =>
          simp only [evalWithin, eval]
          cases bindings name <;> rfl
      | unary sign operand =>
          have operandFits : operand.height ≤ calls := Nat.le_of_succ_le_succ fits
          simp only [evalWithin, eval, inductionHypothesis operandFits, mapError_bind]
          rfl
      | binary left operation right =>
          obtain ⟨leftFits, rightFits⟩ := Nat.max_le.1 (Nat.le_of_succ_le_succ fits)
          simp only [evalWithin, eval, inductionHypothesis leftFits, inductionHypothesis rightFits, mapError_bind]
          congr 1
          funext first
          cases operation.stopsAt arithmetic first with
          | true => rfl
          | false =>
              simp only [Bool.false_eq_true, if_false, mapError_bind]
              rfl
      | choice condition positive negative =>
          obtain ⟨conditionFits, branchesFit⟩ := Nat.max_le.1 (Nat.le_of_succ_le_succ fits)
          obtain ⟨positiveFits, negativeFits⟩ := Nat.max_le.1 branchesFit
          simp only [evalWithin, eval, inductionHypothesis conditionFits, inductionHypothesis positiveFits,
            inductionHypothesis negativeFits, mapError_bind]
          congr 1
          funext value
          cases value.isTruthy arithmetic <;> rfl

/-- The calls inside each other down to what is evaluated first. -/
def Expr.spine : Expr → Nat
  | .number _ => 1
  | .truth _ => 1
  | .reference _ => 1
  | .unary _ operand => operand.spine + 1
  | .binary left _ _ => left.spine + 1
  | .choice condition _ _ => condition.spine + 1

/-- What is evaluated first is reached whatever the values are, so fewer calls inside each other are too few. -/
theorem Expr.evalWithin_of_lt_spine (few : calls < expr.spine) :
    expr.evalWithin arithmetic bindings calls = .error none := by
  induction calls generalizing expr with
  | zero => rfl
  | succ calls inductionHypothesis =>
      cases expr with
      | number => exact absurd few (by simp [spine])
      | truth => exact absurd few (by simp [spine])
      | reference => exact absurd few (by simp [spine])
      | unary sign operand =>
          rw [evalWithin, inductionHypothesis (Nat.lt_of_succ_lt_succ few)]
          rfl
      | binary left operation right =>
          rw [evalWithin, inductionHypothesis (Nat.lt_of_succ_lt_succ few)]
          rfl
      | choice condition positive negative =>
          rw [evalWithin, inductionHypothesis (Nat.lt_of_succ_lt_succ few)]
          rfl

/-! Heights of derived trees -/

/-- The longest way from the root to a leaf, where a step to a left operand counts `step`. -/
def Expr.heightBy (step : Nat) : Expr → Nat
  | .number _ => 1
  | .truth _ => 1
  | .reference _ => 1
  | .unary _ operand => operand.heightBy step + 1
  | .binary left _ right => max (left.heightBy step + step) (right.heightBy step + 1)
  | .choice condition positive negative =>
    max (condition.heightBy step) (max (positive.heightBy step) (negative.heightBy step)) + 1

theorem Expr.heightBy_one (expr : Expr) : expr.heightBy 1 = expr.height := by
  induction expr with
  | number => rfl
  | truth => rfl
  | reference => rfl
  | unary sign operand operandHeight => rw [heightBy, height, operandHeight]
  | binary left operation right leftHeight rightHeight =>
      rw [heightBy, height, leftHeight, rightHeight, Nat.add_max_add_right]
  | choice condition positive negative conditionHeight positiveHeight negativeHeight =>
      rw [heightBy, height, conditionHeight, positiveHeight, negativeHeight]

namespace Derivation

/-- How many operations stand behind the first operand of a chain. -/
def operations : {phrase : Phrase} → Derivation phrase → Nat
  | _, .more _ _ _ others => others.operations + 1
  | _, _ => 0

/-- The most operations of one chain. -/
def longestChain : {phrase : Phrase} → Derivation phrase → Nat
  | _, .number _ => 0
  | _, .truth _ => 0
  | _, .reference _ => 0
  | _, .group inner => inner.longestChain
  | _, .plain operand => operand.longestChain
  | _, .signed _ operand => operand.longestChain
  | _, .chain first others => max first.longestChain (max others.operations others.longestChain)
  | _, .none => 0
  | _, .more _ _ operand others => max operand.longestChain others.longestChain
  | _, .operators inner => inner.longestChain
  | _, .choice condition positive negative =>
    max condition.longestChain (max positive.longestChain negative.longestChain)

/-- The most that a tree with so much nesting is high if no chain makes its level higher by more than `growth`. -/
def choiceHeight (growth nesting : Nat) : Nat :=
  (nesting + 1) * (levels.length * growth + 1)

/-- The most that the tree of a signed operand is high. -/
def operandHeight (growth nesting : Nat) : Nat :=
  max 1 (nesting * (levels.length * growth + 1))

theorem operandHeight_mono (growth : Nat) {nesting deeper : Nat} (le : nesting ≤ deeper) :
    operandHeight growth nesting ≤ operandHeight growth deeper := by
  have grows := Nat.mul_le_mul_right (levels.length * growth + 1) le
  unfold operandHeight
  omega

theorem choiceHeight_le_operandHeight (growth nesting : Nat) :
    choiceHeight growth nesting ≤ operandHeight growth (nesting + 1) :=
  Nat.le_max_right _ _

/-- A sign makes an operand higher by one, for which there is room in what one more nesting allows. -/
theorem operandHeight_succ {growth : Nat} (nesting : Nat) (positive : 0 < growth) :
    operandHeight growth nesting + 1 ≤ operandHeight growth (nesting + 1) := by
  have deeper := Nat.add_one_mul nesting (levels.length * growth + 1)
  have count : levels.length = 6 := rfl
  simp only [operandHeight, count] at deeper ⊢
  omega

theorem operandHeight_levels (growth nesting : Nat) :
    operandHeight growth nesting + 6 * growth ≤ choiceHeight growth nesting := by
  have deeper := Nat.add_one_mul nesting (levels.length * growth + 1)
  have count : levels.length = 6 := rfl
  simp only [operandHeight, choiceHeight, count] at deeper ⊢
  omega

/-- Where something is nested there is room for a choice above its condition. -/
theorem operandHeight_condition (growth : Nat) {nesting : Nat} (nested : 0 < nesting) :
    operandHeight growth nesting + 6 * growth + 1 ≤ choiceHeight growth nesting := by
  have deeper := Nat.add_one_mul nesting (levels.length * growth + 1)
  have inside := Nat.le_mul_of_pos_left (levels.length * growth + 1) nested
  have count : levels.length = 6 := rfl
  simp only [operandHeight, choiceHeight, count] at deeper inside ⊢
  omega

/-- A tree is no higher than its nesting and its level allow. Behind a left operand, each operation makes it higher by
`step`, and no less than one level of right operands fits under them. -/
def Low (step growth : Nat) : {phrase : Phrase} → Derivation phrase → Prop
  | .primary, derivation => derivation.tree.heightBy step ≤ operandHeight growth derivation.nesting
  | .ofLevel level, derivation =>
    derivation.tree.heightBy step ≤ operandHeight growth derivation.nesting + level * growth
  | .others level, derivation => ∀ left : Expr, (derivation.tree left).heightBy step ≤
      max (left.heightBy step + step * derivation.operations)
        (operandHeight growth derivation.nesting + level * growth + max 1 (step * derivation.operations))
  | .choice, derivation => derivation.tree.heightBy step ≤ choiceHeight growth derivation.nesting

section Low

variable {step growth level : Nat}

theorem Low.group {inner : Derivation .choice} (innerLow : inner.Low step growth) :
    (Derivation.group inner).Low step growth :=
  Nat.le_trans innerLow (choiceHeight_le_operandHeight growth inner.nesting)

theorem Low.plain {operand : Derivation .primary} (operandLow : operand.Low step growth) :
    (Derivation.plain operand).Low step growth :=
  Nat.le_add_right_of_le operandLow

theorem Low.signed {sign : Sign} {operand : Derivation (.ofLevel 0)} (positive : 0 < growth)
    (operandLow : operand.Low step growth) : (Derivation.signed sign operand).Low step growth := by
  have room := operandHeight_succ operand.nesting positive
  simp only [Low, tree, nesting, Expr.heightBy] at operandLow ⊢
  omega

theorem Low.chain {first : Derivation (.ofLevel level)} {others : Derivation (.others level)} (positive : 0 < growth)
    (fits : step * others.operations ≤ growth) (firstLow : first.Low step growth) (othersLow : others.Low step growth) :
    (Derivation.chain first others).Low step growth := by
  have whole := othersLow first.tree
  have firstDeeper := operandHeight_mono growth (Nat.le_max_left first.nesting others.nesting)
  have othersDeeper := operandHeight_mono growth (Nat.le_max_right first.nesting others.nesting)
  simp only [Low, tree, nesting, Nat.add_one_mul] at firstLow ⊢
  omega

theorem Low.more {operation : Operation} {fits : operation.level = level} {operand : Derivation (.ofLevel level)}
    {others : Derivation (.others level)} (operandLow : operand.Low step growth) (othersLow : others.Low step growth) :
    (Derivation.more operation fits operand others).Low step growth := by
  intro left
  have whole := othersLow (.binary left operation operand.tree)
  have operandDeeper := operandHeight_mono growth (Nat.le_max_left operand.nesting others.nesting)
  have othersDeeper := operandHeight_mono growth (Nat.le_max_right operand.nesting others.nesting)
  simp only [Low, tree, nesting, operations, Expr.heightBy, Nat.mul_add_one] at operandLow whole ⊢
  -- Without a count for steps to the left, one more operation makes the level higher by one only once.
  by_cases still : step = 0
  · subst still
    omega
  · omega

theorem Low.operators {inner : Derivation (.ofLevel 6)} (innerLow : inner.Low step growth) :
    (Derivation.operators inner).Low step growth :=
  Nat.le_trans innerLow (operandHeight_levels growth inner.nesting)

theorem Low.choice {condition : Derivation (.ofLevel 6)} {positive negative : Derivation .choice}
    (conditionLow : condition.Low step growth) (positiveLow : positive.Low step growth)
    (negativeLow : negative.Low step growth) : (Derivation.choice condition positive negative).Low step growth := by
  have positiveFits := choiceHeight_le_operandHeight growth positive.nesting
  have negativeFits := choiceHeight_le_operandHeight growth negative.nesting
  simp only [Low, tree, nesting, Expr.heightBy] at conditionLow positiveLow negativeLow ⊢
  generalize deepest : max condition.nesting (max (positive.nesting + 1) (negative.nesting + 1)) = nesting
  have conditionDeeper := operandHeight_mono growth (show condition.nesting ≤ nesting by omega)
  have positiveDeeper := operandHeight_mono growth (show positive.nesting + 1 ≤ nesting by omega)
  have negativeDeeper := operandHeight_mono growth (show negative.nesting + 1 ≤ nesting by omega)
  have room := operandHeight_condition growth (show 0 < nesting by omega)
  omega

end Low

/-- Chains with at most `widest` operations make their levels higher by at most `step * widest`, or else by one. -/
theorem low {phrase : Phrase} (step widest : Nat) (derivation : Derivation phrase)
    (short : derivation.longestChain ≤ widest) : derivation.Low step (max 1 (step * widest)) := by
  have positive : 0 < max 1 (step * widest) := by omega
  induction derivation with
  | number value => exact Nat.le_max_left 1 _
  | truth value => exact Nat.le_max_left 1 _
  | reference name => exact Nat.le_max_left 1 _
  | group inner innerLow => exact (innerLow short).group
  | plain operand operandLow => exact (operandLow short).plain
  | signed sign operand operandLow => exact (operandLow short).signed positive
  | chain first others firstLow othersLow =>
      obtain ⟨firstShort, othersShort⟩ := Nat.max_le.1 short
      obtain ⟨few, othersShort⟩ := Nat.max_le.1 othersShort
      have fits := Nat.le_trans (Nat.mul_le_mul_left step few) (Nat.le_max_right 1 _)
      exact .chain positive fits (firstLow firstShort) (othersLow othersShort)
  | none => exact fun left => Nat.le_max_left (left.heightBy step) _
  | more operation fits operand others operandLow othersLow =>
      obtain ⟨operandShort, othersShort⟩ := Nat.max_le.1 short
      exact .more (operandLow operandShort) (othersLow othersShort)
  | operators inner innerLow => exact (innerLow short).operators
  | choice condition positive negative conditionLow positiveLow negativeLow =>
      obtain ⟨conditionShort, branchesShort⟩ := Nat.max_le.1 short
      obtain ⟨positiveShort, negativeShort⟩ := Nat.max_le.1 branchesShort
      exact .choice (conditionLow conditionShort) (positiveLow positiveShort) (negativeLow negativeShort)

/-- A tree is higher than any of its chains is long. Behind a left operand, each operation makes it higher. -/
def Steep : {phrase : Phrase} → Derivation phrase → Prop
  | .primary, derivation => derivation.longestChain < derivation.tree.height
  | .ofLevel _, derivation => derivation.longestChain < derivation.tree.height
  | .others _, derivation => ∀ left : Expr,
      left.height + derivation.operations ≤ (derivation.tree left).height ∧
        derivation.longestChain < (derivation.tree left).height
  | .choice, derivation => derivation.longestChain < derivation.tree.height

theorem steep {phrase : Phrase} (derivation : Derivation phrase) : derivation.Steep := by
  induction derivation with
  | number value => exact Nat.zero_lt_one
  | truth value => exact Nat.zero_lt_one
  | reference name => exact Nat.zero_lt_one
  | group inner innerSteep => exact innerSteep
  | plain operand operandSteep => exact operandSteep
  | signed sign operand operandSteep => exact Nat.lt_succ_of_lt operandSteep
  | chain first others firstSteep othersSteep =>
      obtain ⟨grows, longer⟩ := othersSteep first.tree
      simp only [Steep, longestChain, tree] at firstSteep ⊢
      omega
  | none => exact fun left => ⟨Nat.le_refl _, left.height_pos⟩
  | more operation fits operand others operandSteep othersSteep =>
      intro left
      obtain ⟨grows, longer⟩ := othersSteep (.binary left operation operand.tree)
      simp only [Steep, longestChain, operations, tree, Expr.height] at operandSteep grows ⊢
      omega
  | operators inner innerSteep => exact innerSteep
  | choice condition positive negative conditionSteep positiveSteep negativeSteep =>
      simp only [Steep, longestChain, tree, Expr.height] at conditionSteep positiveSteep negativeSteep ⊢
      omega

end Derivation

/-! Reading and nesting -/

theorem parse_eq_ok {text : List Char} : parse text = .ok expr ↔
    ∃ tokens, Token.lex text = .ok tokens ∧ parseTokens tokens = .ok expr := by
  unfold parse
  split
  · next char failed => simp [failed]
  · next lexed =>
      have empty : parseTokens [] = .error .unexpectedEnd := rfl
      simp [lexed, empty]
  · next tokens _ lexed => simp [lexed]

/-- The most that the tree of an expression is high whose chains have at most so many operations. -/
def greatestHeight (longestChain : Nat) : Nat :=
  (maxNesting + 1) * (levels.length * max 1 longestChain + 1)

/-- Trees of derivations that are read are bounded by their longest chains, and where left operands do not count they
are bounded alike. -/
theorem Derivation.heightBy_le (derivation : Derivation .choice) (few : derivation.nesting ≤ maxNesting) (step : Nat) :
    derivation.tree.heightBy step ≤ greatestHeight (step * derivation.longestChain) := by
  have bound : derivation.tree.heightBy step ≤
      choiceHeight (max 1 (step * derivation.longestChain)) derivation.nesting := derivation.low step _ (Nat.le_refl _)
  exact Nat.le_trans bound (Nat.mul_le_mul_right _ (Nat.succ_le_succ few))

theorem Token.lex_cons {char : Char} {rest behind : List Char} {token : Token}
    (visible : Text.isTokenBlank char = false) (found : Token.first? (char :: rest) = some (token, behind)) :
    Token.lex (char :: rest) = (Token.lex behind).map (token :: ·) := by
  rw [Token.lex]
  simp only [visible, Bool.false_eq_true, if_false]
  split
  · next missing => cases missing.symm.trans found
  · next _ same =>
      cases same.symm.trans found
      rfl

/-! Sums, whose chains are as long as one likes -/

/-- The sum of so many more ones than one. -/
def sum : (additions : Nat) → Expr
  | 0 => .number ⟨1, 0⟩
  | additions + 1 => .binary (sum additions) .add (.number ⟨1, 0⟩)

/-- How the sum is written. -/
def sumText (additions : Nat) : List Char :=
  '1' :: (List.replicate additions ['+', '1']).flatten

def sumTokens (additions : Nat) : List Token :=
  .number ⟨1, 0⟩ :: (List.replicate additions [.plus, .number ⟨1, 0⟩]).flatten

theorem lex_sumText (additions : Nat) : Token.lex (sumText additions) = .ok (sumTokens additions) := by
  induction additions with
  | zero =>
      have first : Token.first? (sumText 0) = some (.number ⟨1, 0⟩, []) := rfl
      rw [sumText, Token.lex_cons rfl first, Token.lex]
      rfl
  | succ additions inductionHypothesis =>
      have first : Token.first? (sumText (additions + 1)) = some (.number ⟨1, 0⟩, '+' :: sumText additions) := rfl
      have plus : Token.first? ('+' :: sumText additions) = some (.plus, sumText additions) := rfl
      rw [sumText, Token.lex_cons rfl first, Token.lex_cons rfl plus, inductionHypothesis]
      rfl

namespace Derivation

/-- The ones of a sum behind the first one. -/
def addends : (additions : Nat) → Derivation (.others 1)
  | 0 => .none
  | additions + 1 => .more .add rfl (.chain (.plain (.number ⟨1, 0⟩)) .none) (addends additions)

def ofSum (additions : Nat) : Derivation .choice :=
  let one : Derivation (.ofLevel 1) := .chain (.plain (.number ⟨1, 0⟩)) .none
  .operators (.chain (.chain (.chain (.chain (.chain one (addends additions)) .none) .none) .none) .none)

theorem tokens_addends (additions : Nat) :
    (addends additions).tokens = (List.replicate additions [.plus, .number ⟨1, 0⟩]).flatten := by
  induction additions with
  | zero => rfl
  | succ additions inductionHypothesis =>
      change .plus :: .number ⟨1, 0⟩ :: (addends additions).tokens = _
      rw [inductionHypothesis]
      rfl

theorem tree_addends (additions before : Nat) : (addends additions).tree (sum before) = sum (before + additions) := by
  induction additions generalizing before with
  | zero => rfl
  | succ additions inductionHypothesis =>
      change (addends additions).tree (sum (before + 1)) = _
      rw [inductionHypothesis, Nat.add_right_comm, Nat.add_assoc]

theorem nesting_addends (additions : Nat) : (addends additions).nesting = 0 := by
  induction additions with
  | zero => rfl
  | succ additions inductionHypothesis =>
      change max 0 (addends additions).nesting = 0
      rw [inductionHypothesis]
      rfl

end Derivation

theorem parse_sumText (additions : Nat) : parse (sumText additions) = .ok (sum additions) := by
  refine parse_eq_ok.2 ⟨_, lex_sumText additions, parseTokens_eq_ok.2 ⟨.ofSum additions, ?_, ?_, ?_⟩⟩
  · simp [Derivation.ofSum, Derivation.tokens, Derivation.tokens_addends, sumTokens]
  · simp [Derivation.ofSum, Derivation.nesting, Derivation.nesting_addends]
  · have joined := Derivation.tree_addends additions 0
    rwa [Nat.zero_add] at joined

theorem names_sum (additions : Nat) : (sum additions).names = [] := by
  induction additions with
  | zero => rfl
  | succ additions inductionHypothesis => rw [sum, Expr.names, inductionHypothesis, Expr.names, List.append_nil]

theorem height_sum (additions : Nat) : (sum additions).height = additions + 1 := by
  induction additions with
  | zero => rfl
  | succ additions inductionHypothesis =>
      rw [sum, Expr.height, inductionHypothesis, Expr.height, Nat.max_eq_left (Nat.le_add_left 1 additions)]

theorem spine_sum (additions : Nat) : (sum additions).spine = additions + 1 := by
  induction additions with
  | zero => rfl
  | succ additions inductionHypothesis => rw [sum, Expr.spine, inductionHypothesis]

theorem compileWith_sumText (allowed : List String) (additions : Nat) :
    compileWith allowed (sumText additions) = .ok (sum additions) :=
  bind_eq_ok.2 ⟨sum additions, parse_sumText additions, by rw [names_sum]; rfl⟩

/-! Heights of expressions that are read -/

/-- An expression that is read is higher than its longest chain has operations, and its height is bounded by that chain:
by 455, which is 65 times seven, if no chain has more than one operation. Only left operands can exceed that: where
steps to them do not count, no tree is higher. Collecting the names takes as many calls inside each other as the tree is
high, and that many are enough to evaluate. -/
theorem parse_height {text : List Char} (accepted : parse text = .ok expr) (arithmetic : Arithmetic α)
    (bindings : Variables α) :
    ∃ derivation : Derivation .choice, Token.lex text = .ok derivation.tokens ∧ derivation.tree = expr ∧
      derivation.longestChain < expr.height ∧ expr.height ≤ greatestHeight derivation.longestChain ∧
      expr.heightBy 0 ≤ 455 ∧
      (∀ calls, expr.namesWithin calls = if expr.height ≤ calls then some expr.names else none) ∧
      ∀ calls, expr.height ≤ calls →
        expr.evalWithin arithmetic bindings calls = (expr.eval arithmetic bindings).mapError some := by
  obtain ⟨tokens, lexed, read⟩ := parse_eq_ok.1 accepted
  obtain ⟨derivation, rfl, few, rfl⟩ := parseTokens_eq_ok.1 read
  have bounded := derivation.heightBy_le few 1
  have aside := derivation.heightBy_le few 0
  rw [Expr.heightBy_one, Nat.one_mul] at bounded
  rw [Nat.zero_mul] at aside
  exact ⟨derivation, lexed, rfl, derivation.steep, bounded, aside, fun calls => Expr.namesWithin_eq calls _,
    fun _ => Expr.evalWithin_of_height_le⟩

theorem parse_height_differences :
    let text := "roll <= 5 || !(roll - 1 - 2)".toList
    let first := Expr.binary (.reference "roll") .lessEqual (.number ⟨5, 0⟩)
    let second := Expr.binary (.binary (.reference "roll") .subtract (.number ⟨1, 0⟩)) .subtract (.number ⟨2, 0⟩)
    let expr := Expr.binary first .or (.unary .not second)
    parse text = .ok expr ∧ expr.height = 5 ∧ expr.heightBy 0 = 4 ∧
      ∃ derivation : Derivation .choice, Token.lex text = .ok derivation.tokens ∧ derivation.tree = expr ∧
        derivation.longestChain < 5 ∧ 5 ≤ greatestHeight derivation.longestChain ∧ 4 ≤ 455 ∧
        (∀ calls, expr.namesWithin calls = if 5 ≤ calls then some ["roll", "roll"] else none) ∧
        ∀ calls, 5 ≤ calls → expr.evalWithin floating (.ofList [("roll", 3.0)]) calls =
          (expr.eval floating (.ofList [("roll", 3.0)])).mapError some :=
  have accepted := toOption_eq_some.1 (by decide +kernel)
  ⟨accepted, rfl, rfl, parse_height accepted floating (.ofList [("roll", 3.0)])⟩

/-- No height bounds all expressions that are read, and no number of calls inside each other is enough to collect the
names of all of them or to evaluate them. A sum with as many additions is too high. -/
theorem height_unbounded :
    (¬∃ bound, ∀ text expr, parse text = .ok expr → expr.height ≤ bound) ∧
      ∀ calls, ∃ text expr, (∀ allowed, compileWith allowed text = .ok expr) ∧ expr.namesWithin calls = none ∧
        ∀ bindings, expr.evalWithin floating bindings calls = .error none := by
  refine ⟨?_, fun calls => ⟨sumText calls, sum calls, fun allowed => compileWith_sumText allowed calls, ?_, ?_⟩⟩
  · rintro ⟨bound, bounded⟩
    have height := bounded _ _ (parse_sumText bound)
    rw [height_sum] at height
    omega
  · rw [Expr.namesWithin_eq, height_sum, if_neg (by omega)]
  · exact fun bindings => Expr.evalWithin_of_lt_spine (by rw [spine_sum]; omega)

end Tabletop.Rule
