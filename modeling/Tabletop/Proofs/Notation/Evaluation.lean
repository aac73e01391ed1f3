/-
This file proves that rolling dice notation calculates exactly.

An expression whose dice are thrown has a value over all integers, and calculations that lead to it from left to
right. Rolling gives this value, or it stops at the first calculation that divides by zero or leaves 64 bits.
-/

import Tabletop.Proofs.Notation.Dice
import Tabletop.Proofs.Notation.Parsing

namespace Tabletop.Notation

/-! Limits of terms -/

/-- A term keeps to the limits of the notation. -/
structure DiceTerm.Legal (term : DiceTerm) : Prop where
  few : term.count ≤ 1000
  positive : 1 ≤ term.sides
  small : term.sides ≤ 100000

def Expr.Legal (expr : Expr) : Prop :=
  ∀ term ∈ expr.terms, term.Legal

/-- Others keep to the limits if they do so behind every left operand that does. -/
def Phrase.LegalTree : (phrase : Phrase) → phrase.Tree → Prop
  | .primary => fun expr => expr.Legal
  | .ofLevel _ => fun expr => expr.Legal
  | .others _ => fun join => ∀ left : Expr, left.Legal → (join left).Legal

theorem modifiers_limits (modifiers : List Modifier) (term : DiceTerm) :
    (modifiers.foldl Modifier.apply term).count = term.count ∧
      (modifiers.foldl Modifier.apply term).sides = term.sides := by
  induction modifiers generalizing term with
  | nil => exact ⟨rfl, rfl⟩
  | cons modifier modifiers inductionHypothesis =>
      rw [List.foldl_cons, (inductionHypothesis _).1, (inductionHypothesis _).2]
      cases modifier <;> exact ⟨rfl, rfl⟩

theorem Expr.opposite_terms (expr : Expr) : expr.opposite.terms = expr.terms := by
  cases expr <;> rfl

theorem Derivation.tree_legal {phrase : Phrase} (derivation : Derivation phrase) (legal : derivation.Legal) :
    phrase.LegalTree derivation.tree := by
  induction derivation with
  | constant value => exact fun term member => absurd member List.not_mem_nil
  | dice count sides modifiers =>
      intro term member
      obtain rfl := List.mem_singleton.1 member
      obtain ⟨sameCount, sameSides⟩ :=
        modifiers_limits modifiers ⟨count.getD 1, sides.value, Option.none, false⟩
      refine ⟨?_, ?_, ?_⟩
      · rw [sameCount]
        exact legal.1
      · rw [sameSides]
        exact legal.2.1
      · rw [sameSides]
        exact legal.2.2
  | group inner inductionHypothesis => exact inductionHypothesis legal
  | plain operand inductionHypothesis => exact inductionHypothesis legal
  | signed sign operand inductionHypothesis =>
      have operandLegal := inductionHypothesis legal
      cases sign with
      | plus => exact operandLegal
      | minus =>
          intro term member
          exact operandLegal term (operand.tree.opposite_terms ▸ member)
  | chain first others firstHypothesis othersHypothesis =>
      exact othersHypothesis legal.2 _ (firstHypothesis legal.1)
  | none => exact fun left leftLegal => leftLegal
  | more operation fits operand others operandHypothesis othersHypothesis =>
      intro left leftLegal
      refine othersHypothesis legal.2 _ fun term member => ?_
      exact (List.mem_append.1 member).elim (leftLegal term) (operandHypothesis legal.1 term)

theorem parse_legal {text : List Char} {expr : Expr} (parsed : parse text = .ok expr) : expr.Legal := by
  obtain ⟨_, _, _, parsedTokens⟩ := parse_eq_ok.1 parsed
  obtain ⟨derivation, _, legal, _, rfl⟩ := parseTokens_eq_ok.1 parsedTokens
  exact derivation.tree_legal legal

/-! Exact arithmetic -/

/-- An expression with its dice on the table. -/
inductive Thrown where
  | constant (value : Nat)
  | dice (dice : List Die)
  | negate (inner : Thrown)
  | binary (left : Thrown) (operation : Operation) (right : Thrown)
  | group (inner : Thrown)

/-- The value of an operation over all integers. Division drops the fraction. -/
def Operation.value : Operation → Int → Int → Int
  | .add, left, right => left + right
  | .subtract, left, right => left - right
  | .multiply, left, right => left * right
  | .divide, left, right => left.tdiv right

/-- The divisor of an operation that divides. -/
def Operation.divisor? : Operation → Int → Option Int
  | .divide, right => some right
  | _, _ => none

/-- A calculation: the dice that were thrown before it, its divisor if it divides, and its exact result. -/
structure Calculation where
  thrown : Nat
  divisor? : Option Int
  result : Int

/-- Why a calculation fails. A division by zero has no result. -/
inductive Calculation.Fails (calculation : Calculation) : Error → Prop where
  | byZero (zero : calculation.divisor? = some 0) : Fails calculation .divisionByZero
  | leaves (divides : calculation.divisor? ≠ some 0)
      (outside : calculation.result < -2 ^ 63 ∨ 2 ^ 63 ≤ calculation.result) : Fails calculation .overflow

/-- A calculation that does not fail. -/
def Calculation.Fine (calculation : Calculation) : Prop :=
  ∀ error, ¬calculation.Fails error

namespace Thrown

/-- The dice from left to right. -/
def allDice : Thrown → List Die
  | .constant _ => []
  | .dice shown => shown
  | .negate inner => inner.allDice
  | .binary left _ right => left.allDice ++ right.allDice
  | .group inner => inner.allDice

/-- The dice of each term from left to right. -/
def terms : Thrown → List (List Die)
  | .constant _ => []
  | .dice shown => [shown]
  | .negate inner => inner.terms
  | .binary left _ right => left.terms ++ right.terms
  | .group inner => inner.terms

/-- The value over all integers. -/
def value : Thrown → Int
  | .constant value => value
  | .dice shown => sumOf shown
  | .negate inner => -inner.value
  | .binary left operation right => operation.value left.value right.value
  | .group inner => inner.value

/-- The calculations from left to right, after `thrown` dice. Operands come before their operation. -/
def calculations : (thrown : Nat) → Thrown → List Calculation
  | _, .constant _ => []
  | _, .dice _ => []
  | thrown, .negate inner =>
    inner.calculations thrown ++ [⟨thrown + inner.allDice.length, none, -inner.value⟩]
  | thrown, .binary left operation right =>
    left.calculations thrown ++ right.calculations (thrown + left.allDice.length) ++
      [⟨thrown + left.allDice.length + right.allDice.length, operation.divisor? right.value,
        operation.value left.value right.value⟩]
  | thrown, .group inner => inner.calculations thrown

end Thrown

/-- The dice of an expression are thrown from left to right, after `thrown` others. -/
inductive Expr.Throws (mode : Mode) (faces : Faces) : (thrown : Nat) → Expr → Thrown → Prop where
  | constant {thrown value : Nat} : Throws mode faces thrown (.constant value) (.constant value)
  | dice {thrown : Nat} {term : DiceTerm} {dice : List Die} (throws : term.Throws mode faces thrown dice) :
      Throws mode faces thrown (.dice term) (.dice dice)
  | negate {thrown : Nat} {inner : Expr} {shown : Thrown} (throws : Throws mode faces thrown inner shown) :
      Throws mode faces thrown (.negate inner) (.negate shown)
  | binary {thrown : Nat} {left right : Expr} {leftShown rightShown : Thrown} {operation : Operation}
      (leftThrows : Throws mode faces thrown left leftShown)
      (rightThrows : Throws mode faces (thrown + leftShown.allDice.length) right rightShown) :
      Throws mode faces thrown (.binary left operation right) (.binary leftShown operation rightShown)
  | group {thrown : Nat} {inner : Expr} {shown : Thrown} (throws : Throws mode faces thrown inner shown) :
      Throws mode faces thrown (.group inner) (.group shown)

/-- A calculation that fails for a reason, after others that do not fail. -/
def FirstFailure (calculations : List Calculation) (failing : Calculation) (error : Error) : Prop :=
  ∃ earlier later, calculations = earlier ++ failing :: later ∧
    (∀ calculation ∈ earlier, calculation.Fine) ∧ failing.Fails error

theorem Calculation.Fails.unique {calculation : Calculation} {first second : Error}
    (fails : calculation.Fails first) (again : calculation.Fails second) : first = second := by
  cases fails with
  | byZero zero =>
      cases again with
      | byZero => rfl
      | leaves divides => exact absurd zero divides
  | leaves divides =>
      cases again with
      | byZero zero => exact absurd zero divides
      | leaves => rfl

namespace FirstFailure

variable {calculations others : List Calculation} {failing : Calculation} {error : Error}

/-- What comes later does not matter. -/
theorem append (first : FirstFailure calculations failing error) (others : List Calculation) :
    FirstFailure (calculations ++ others) failing error := by
  obtain ⟨earlier, later, rfl, fine, fails⟩ := first
  exact ⟨earlier, later ++ others, by simp, fine, fails⟩

/-- What comes before does not matter if none of it fails. -/
theorem behind (fine : ∀ calculation ∈ others, calculation.Fine)
    (first : FirstFailure calculations failing error) : FirstFailure (others ++ calculations) failing error := by
  obtain ⟨earlier, later, rfl, earlierFine, fails⟩ := first
  refine ⟨others ++ earlier, later, by simp, ?_, fails⟩
  exact fun calculation member => (List.mem_append.1 member).elim (fine calculation) (earlierFine calculation)

theorem unique {other : Calculation} {reason : Error} (first : FirstFailure calculations failing error)
    (second : FirstFailure calculations other reason) : failing = other ∧ error = reason := by
  obtain ⟨earlier, later, same, fine, fails⟩ := first
  obtain ⟨otherEarlier, otherLater, rfl, otherFine, otherFails⟩ := second
  induction earlier generalizing otherEarlier with
  | nil =>
      cases otherEarlier with
      | nil =>
          cases same
          exact ⟨rfl, fails.unique otherFails⟩
      | cons calculation otherEarlier =>
          cases same
          exact absurd fails (otherFine _ List.mem_cons_self error)
  | cons calculation earlier inductionHypothesis =>
      cases otherEarlier with
      | nil =>
          cases same
          exact absurd otherFails (fine _ List.mem_cons_self reason)
      | cons otherCalculation otherEarlier =>
          obtain ⟨rfl, sameOthers⟩ := List.cons.inj same
          exact inductionHypothesis (fun _ member => fine _ (List.mem_cons_of_mem _ member)) otherEarlier
            sameOthers fun _ member => otherFine _ (List.mem_cons_of_mem _ member)

theorem not_fine (first : FirstFailure calculations failing error) :
    ¬∀ calculation ∈ calculations, calculation.Fine := by
  obtain ⟨earlier, later, rfl, _, fails⟩ := first
  exact fun fine => fine failing (by simp) error fails

end FirstFailure

/-! Rolling -/

section Rolling

variable {α β : Type} {first : Rolling α} {next : α → Rolling β} {faces after : Faces}

theorem rolling_bind_ok {value : α} (done : first faces = (.ok value, after)) :
    (first >>= next) faces = next value after := by
  simp only [bind, ExceptT.bind, ExceptT.mk, StateT.bind, done]
  rfl

theorem rolling_bind_error {error : Error} (failed : first faces = (.error error, after)) :
    (first >>= next) faces = (.error error, after) := by
  simp only [bind, ExceptT.bind, ExceptT.mk, StateT.bind, failed]
  rfl

/-- What is made from a value takes no faces. -/
theorem rolling_map (first : Rolling α) (change : α → β) (faces : Faces) :
    (first >>= fun value => pure (change value)) faces = ((first faces).1.map change, (first faces).2) := by
  simp only [bind, ExceptT.bind, ExceptT.mk, StateT.bind]
  rcases first faces with ⟨result, after⟩
  cases result <;> rfl

end Rolling

/-- A number that fits is kept, and any other one is an overflow. -/
theorem exact_cases {calculation : Calculation} (divides : calculation.divisor? ≠ some 0) :
    (exact calculation.result = .ok calculation.result ∧ calculation.Fine) ∨
      ∃ error, exact calculation.result = .error error ∧ calculation.Fails error := by
  unfold exact
  by_cases fits : Number.isWord calculation.result = true
  · refine .inl ⟨if_pos fits, fun reason fails => ?_⟩
    rw [Number.isWord_iff, Number.minWord, Number.maxWord] at fits
    cases fails with
    | byZero zero => exact divides zero
    | leaves _ outside => omega
  · refine .inr ⟨.overflow, if_neg fits, .leaves divides ?_⟩
    rw [Number.isWord_iff, Number.minWord, Number.maxWord] at fits
    omega

/-- An operation gives its exact value, or it fails. -/
theorem Operation.apply_cases (operation : Operation) (left right : Int) (thrown : Nat) :
    let calculation : Calculation := ⟨thrown, operation.divisor? right, operation.value left right⟩
    (operation.apply left right = .ok calculation.result ∧ calculation.Fine) ∨
      ∃ error, operation.apply left right = .error error ∧ calculation.Fails error := by
  intro calculation
  have applied : operation.apply left right =
      if calculation.divisor? = some 0 then .error .divisionByZero else exact calculation.result := by
    cases operation with
    | divide => simp only [apply, calculation, divisor?, Option.some.injEq, value]
    | add => rfl
    | subtract => rfl
    | multiply => rfl
  rw [applied]
  by_cases zero : calculation.divisor? = some 0
  · rw [if_pos zero]
    exact .inr ⟨_, rfl, .byZero zero⟩
  · rw [if_neg zero]
    exact exact_cases zero

/-- How rolling ends: with the exact value and all dice, or at the first calculation that fails. The source goes on
behind the dice that were thrown. -/
inductive Thrown.Ends (mode : Mode) (faces : Faces) (thrown : Nat) (shown : Thrown) :
    Except Error Outcome × Faces → Prop where
  | value (working : List Char)
      (fine : ∀ calculation ∈ shown.calculations thrown, calculation.Fine) :
      Ends mode faces thrown shown
        (.ok ⟨shown.value, working, shown.allDice⟩, mode.facesAfter faces (thrown + shown.allDice.length))
  | failure {failing : Calculation} {error : Error}
      (first : FirstFailure (shown.calculations thrown) failing error) :
      Ends mode faces thrown shown (.error error, mode.facesAfter faces failing.thrown)

variable {mode : Mode} {faces : Faces}

/-- The last calculation decides how rolling ends if none before it fails. -/
theorem Thrown.Ends.last {shown : Thrown} {thrown : Nat} {earlier : List Calculation} {last : Calculation}
    {result : Except Error Int} (working : List Char)
    (calculations : shown.calculations thrown = earlier ++ [last]) (value : shown.value = last.result)
    (behind : last.thrown = thrown + shown.allDice.length) (fine : ∀ calculation ∈ earlier, calculation.Fine)
    (cases : (result = .ok last.result ∧ last.Fine) ∨ ∃ error, result = .error error ∧ last.Fails error) :
    shown.Ends mode faces thrown (result.map fun total => ⟨total, working, shown.allDice⟩,
      mode.facesAfter faces last.thrown) := by
  rcases cases with ⟨rfl, lastFine⟩ | ⟨error, rfl, fails⟩
  · rw [behind, Except.map, ← value]
    refine .value working ?_
    rw [calculations]
    exact List.forall_mem_append.2 ⟨fine, by simpa using lastFine⟩
  · refine .failure ?_
    rw [calculations]
    exact FirstFailure.behind fine ⟨[], [], rfl, by simp, fails⟩

/-- Every expression is rolled from left to right. The induction is on the expression. -/
theorem Expr.roll_ends (mode : Mode) (inRange : faces.InRange) (expr : Expr) (legal : expr.Legal) (thrown : Nat) :
    ∃ shown, expr.Throws mode faces thrown shown ∧
      shown.Ends mode faces thrown (expr.roll mode (mode.facesAfter faces thrown)) := by
  induction expr generalizing thrown with
  | constant value => exact ⟨.constant value, .constant, .value _ (by simp [Thrown.calculations])⟩
  | dice term =>
      have positive := (legal term (List.mem_singleton_self term)).positive
      obtain ⟨dice, throws, done⟩ := term.roll_throws mode inRange positive thrown
      refine ⟨.dice dice, .dice throws, ?_⟩
      have rolled : Expr.roll mode (.dice term) (mode.facesAfter faces thrown) =
          (.ok ⟨sumOf dice, diceText dice, dice⟩, mode.facesAfter faces (thrown + dice.length)) := by
        change (Except.ok (term.roll mode (mode.facesAfter faces thrown)).1,
          (term.roll mode (mode.facesAfter faces thrown)).2) = _
        rw [done]
      rw [rolled]
      exact .value (diceText dice) (by simp [Thrown.calculations])
  | negate inner inductionHypothesis =>
      obtain ⟨shown, throws, ends⟩ := inductionHypothesis legal thrown
      refine ⟨.negate shown, .negate throws, ?_⟩
      generalize rolled : inner.roll mode (mode.facesAfter faces thrown) = result at ends
      cases ends with
      | failure first =>
          unfold Expr.roll
          rw [rolling_bind_error rolled]
          exact .failure (first.append _)
      | value working fine =>
          unfold Expr.roll
          rw [rolling_bind_ok rolled]
          have divides : (Calculation.mk (thrown + shown.allDice.length) none (-shown.value)).divisor? ≠ some 0 :=
            nofun
          rw [rolling_map]
          exact Thrown.Ends.last ('-' :: working) rfl rfl rfl fine (exact_cases divides)
  | group inner inductionHypothesis =>
      obtain ⟨shown, throws, ends⟩ := inductionHypothesis legal thrown
      refine ⟨.group shown, .group throws, ?_⟩
      generalize rolled : inner.roll mode (mode.facesAfter faces thrown) = result at ends
      cases ends with
      | failure first =>
          unfold Expr.roll
          rw [rolling_bind_error rolled]
          exact .failure first
      | value working fine =>
          unfold Expr.roll
          rw [rolling_bind_ok rolled]
          exact .value (['('] ++ working ++ [')']) fine
  | binary left operation right leftHypothesis rightHypothesis =>
      obtain ⟨leftShown, leftThrows, leftEnds⟩ :=
        leftHypothesis (fun term member => legal term (List.mem_append_left _ member)) thrown
      obtain ⟨rightShown, rightThrows, rightEnds⟩ :=
        rightHypothesis (fun term member => legal term (List.mem_append_right _ member))
          (thrown + leftShown.allDice.length)
      refine ⟨.binary leftShown operation rightShown, .binary leftThrows rightThrows, ?_⟩
      unfold Expr.roll
      generalize leftRolled : left.roll mode (mode.facesAfter faces thrown) = leftResult at leftEnds
      cases leftEnds with
      | failure first =>
          rw [rolling_bind_error leftRolled]
          exact .failure ((first.append _).append _)
      | value leftWorking leftFine =>
          rw [rolling_bind_ok leftRolled]
          generalize rightRolled : right.roll mode
            (mode.facesAfter faces (thrown + leftShown.allDice.length)) = rightResult at rightEnds
          cases rightEnds with
          | failure first =>
              rw [rolling_bind_error rightRolled]
              exact .failure ((first.behind leftFine).append _)
          | value rightWorking rightFine =>
              rw [rolling_bind_ok rightRolled]
              have fine := List.forall_mem_append.2 ⟨leftFine, rightFine⟩
              have thrownBefore : thrown + leftShown.allDice.length + rightShown.allDice.length =
                  thrown + (leftShown.allDice ++ rightShown.allDice).length := by
                rw [List.length_append, Nat.add_assoc]
              rw [rolling_map]
              exact Thrown.Ends.last (leftWorking ++ operation.token.text ++ rightWorking) rfl rfl thrownBefore fine
                (operation.apply_cases leftShown.value rightShown.value _)

/-! Rolling texts -/

namespace Expr.Throws

variable {thrown : Nat} {expr : Expr} {shown : Thrown}

/-- Each of the dice on the table belongs to a term of the expression. -/
theorem exists_term (throws : expr.Throws mode faces thrown shown) :
    ∀ dice ∈ shown.terms, ∃ term ∈ expr.terms, ∃ before, term.Throws mode faces before dice := by
  induction throws with
  | constant => simp [Thrown.terms]
  | @dice thrown term dice throws =>
      intro other member
      obtain rfl := List.mem_singleton.1 member
      exact ⟨term, List.mem_singleton_self term, thrown, throws⟩
  | negate throws inductionHypothesis => exact inductionHypothesis
  | group throws inductionHypothesis => exact inductionHypothesis
  | binary leftThrows rightThrows leftHypothesis rightHypothesis =>
      intro dice member
      rcases List.mem_append.1 member with member | member
      · obtain ⟨term, found, throws⟩ := leftHypothesis dice member
        exact ⟨term, List.mem_append_left _ found, throws⟩
      · obtain ⟨term, found, throws⟩ := rightHypothesis dice member
        exact ⟨term, List.mem_append_right _ found, throws⟩

/-- The dice show the faces of the source in their order. -/
theorem inOrder (throws : expr.Throws mode faces thrown shown) :
    InOrder mode faces thrown shown.allDice := by
  induction throws with
  | constant => exact .nil
  | dice throws => exact throws.rolled.inOrder
  | negate throws inductionHypothesis => exact inductionHypothesis
  | group throws inductionHypothesis => exact inductionHypothesis
  | binary leftThrows rightThrows leftHypothesis rightHypothesis =>
      exact leftHypothesis.append rightHypothesis

end Expr.Throws

/-- Rolling a text is exact if `shown` is what its expression throws. The dice take their faces from left to right,
the running sum of a term stays in 64 bits, and the end is the exact value or the first calculation that fails. -/
structure RollsExactly (text : String) (mode : Mode) (faces : Faces) (expr : Expr) (shown : Thrown) : Prop where
  throws : expr.Throws mode faces 0 shown
  inOrder : InOrder mode faces 0 shown.allDice
  sums : ∀ dice ∈ shown.terms, ∀ count, sumOf (dice.take count) < 2 ^ 63
  ok : (∀ calculation ∈ shown.calculations 0, calculation.Fine) → ∃ result,
    roll text mode faces = (.ok result, mode.facesAfter faces shown.allDice.length) ∧
      result.total = shown.value ∧ result.dice = shown.allDice
  error : ∀ reason, (roll text mode faces).1 = .error reason ↔
    ∃ failing, FirstFailure (shown.calculations 0) failing reason
  taken : ∀ failing reason, FirstFailure (shown.calculations 0) failing reason →
    (roll text mode faces).2 = mode.facesAfter faces failing.thrown

theorem roll_of_parse {text : String} {expr : Expr} (parsed : parse text.toList = .ok expr) (mode : Mode)
    (faces : Faces) : roll text mode faces = ((expr.roll mode faces).1.map fun outcome =>
      ⟨String.ofList (Text.squeeze text.toList), String.ofList outcome.working, outcome.total, outcome.dice⟩,
      (expr.roll mode faces).2) := by
  have started : (liftM (parse text.toList) : Rolling Expr) faces = (.ok expr, faces) := by
    rw [parsed]
    rfl
  unfold roll
  rw [rolling_bind_ok started, rolling_map]

/-- Every text that is read as notation is rolled exactly. -/
theorem roll_exact {text : String} {expr : Expr} (parsed : parse text.toList = .ok expr) (mode : Mode)
    {faces : Faces} (inRange : faces.InRange) : ∃ shown, RollsExactly text mode faces expr shown := by
  have legal := parse_legal parsed
  obtain ⟨shown, throws, ends⟩ := expr.roll_ends mode inRange legal 0
  have sums (dice : List Die) (member : dice ∈ shown.terms) (count : Nat) : sumOf (dice.take count) < 2 ^ 63 := by
    obtain ⟨term, found, before, thrown⟩ := throws.exists_term dice member
    have limits := legal term found
    have bound := thrown.sum_le inRange limits.few limits.positive limits.small count
    omega
  have rolled := roll_of_parse parsed mode faces
  rw [mode.facesAfter_zero] at ends
  generalize expr.roll mode faces = result at ends rolled
  refine ⟨shown, throws, throws.inOrder, sums, ?_, ?_, ?_⟩
  · -- No calculation fails.
    intro fine
    cases ends with
    | value working =>
        refine ⟨⟨String.ofList (Text.squeeze text.toList), String.ofList working, shown.value, shown.allDice⟩,
          ?_, rfl, rfl⟩
        rw [rolled, Nat.zero_add]
        rfl
    | failure first => exact absurd fine first.not_fine
  · intro reason
    constructor
    · intro failed
      rw [rolled] at failed
      cases ends with
      | value => cases failed
      | failure first =>
          cases failed
          exact ⟨_, first⟩
    · rintro ⟨failing, first⟩
      rw [rolled]
      cases ends with
      | value working fine => exact absurd fine first.not_fine
      | failure other =>
          rw [(other.unique first).2]
          rfl
  · intro failing reason first
    rw [rolled]
    cases ends with
    | value working fine => exact absurd fine first.not_fine
    | failure other => rw [(other.unique first).1]

/-- A division by zero comes before an operation that leaves 64 bits. -/
theorem roll_exact_seeded : ∃ expr shown,
    parse "2d6!kh1/0-9223372036854775807*2".toList = .ok expr ∧
      (Faces.seeded 7).InRange ∧
      RollsExactly "2d6!kh1/0-9223372036854775807*2" .random (Faces.seeded 7) expr shown := by
  have parsed : parse "2d6!kh1/0-9223372036854775807*2".toList = .ok
      (.binary (.binary (.dice ⟨2, 6, some ⟨.keepHighest, 1⟩, true⟩) .divide (.constant 0)) .subtract
        (.binary (.constant 9223372036854775807) .multiply (.constant 2))) := by
    decide +kernel
  obtain ⟨shown, exactly⟩ := roll_exact parsed .random (Faces.seeded_inRange 7)
  exact ⟨_, shown, parsed, Faces.seeded_inRange 7, exactly⟩

end Tabletop.Notation
