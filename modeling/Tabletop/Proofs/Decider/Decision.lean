/-
This file proves that rules that compile can always be tested, and which rule of a decider decides.

A rule compiles if its expression can be read and uses only known names. Each attempt binds all of them, so only a rule
that does not compile can fail. The first rule that holds decides, unless one that fails stands before it.
-/

import Tabletop.Decider
import Tabletop.Proofs.Result
import Tabletop.Proofs.Rule.Parsing

namespace Tabletop

variable {α : Type} {arithmetic : Rule.Arithmetic α} {attempt : Attempt}

/-- Each name that rules may use stands for a number of the attempt. -/
theorem Attempt.bindings_isSome (arithmetic : Rule.Arithmetic α) (attempt : Attempt) (name : String)
    (known : name ∈ names) : (attempt.bindings arithmetic name).isSome := by
  simp only [names, List.mem_cons, List.not_mem_nil, or_false] at known
  rcases known with rfl | rfl | rfl | rfl <;> rfl

namespace DeciderRule

variable {rule : DeciderRule} {rules : List DeciderRule} {level : Level}

/-- The expression of the rule can be read, and all its names are among those that rules may use. -/
def Compiles (rule : DeciderRule) : Prop :=
  ∃ expr, Rule.compileWith Attempt.names rule.expression.toList = .ok expr

/-- The rules that compile are those that can be tested, whatever the attempt is. -/
theorem compiles_iff (arithmetic : Rule.Arithmetic α) (attempt : Attempt) :
    rule.Compiles ↔ ∃ truth, rule.holds arithmetic attempt = .ok truth := by
  constructor
  · rintro ⟨expr, compiled⟩
    obtain ⟨value, evaluated⟩ := Rule.eval_of_compileWith compiled (attempt.bindings_isSome arithmetic)
    exact ⟨_, bind_eq_ok.2 ⟨expr, compiled, bind_eq_ok.2 ⟨value, evaluated, rfl⟩⟩⟩
  · rintro ⟨truth, tested⟩
    obtain ⟨expr, compiled, _⟩ := bind_eq_ok.1 tested
    exact ⟨expr, compiled⟩

theorem firstHolding_of_true {others : List DeciderRule} (holds : rule.holds arithmetic attempt = .ok true) :
    firstHolding arithmetic attempt (rule :: others) = some rule.level := by
  rw [firstHolding, holds]

theorem firstHolding_of_false {others : List DeciderRule} (fails : rule.holds arithmetic attempt = .ok false) :
    firstHolding arithmetic attempt (rule :: others) = firstHolding arithmetic attempt others := by
  rw [firstHolding, fails]

theorem firstHolding_of_not_compiles {others : List DeciderRule} (broken : ¬rule.Compiles) :
    firstHolding arithmetic attempt (rule :: others) = none := by
  rw [firstHolding]
  split
  · next holds => exact absurd ((compiles_iff arithmetic attempt).2 ⟨true, holds⟩) broken
  · next fails => exact absurd ((compiles_iff arithmetic attempt).2 ⟨false, fails⟩) broken
  · rfl

/-- A rule holds, or it does not, or it does not compile. -/
theorem trichotomy (arithmetic : Rule.Arithmetic α) (attempt : Attempt) (rule : DeciderRule) :
    rule.holds arithmetic attempt = .ok true ∨ rule.holds arithmetic attempt = .ok false ∨ ¬rule.Compiles := by
  by_cases compiles : rule.Compiles
  · obtain ⟨truth, tested⟩ := (compiles_iff arithmetic attempt).1 compiles
    cases truth with
    | true => exact .inl tested
    | false => exact .inr (.inl tested)
  · exact .inr (.inr compiles)

/-- In front of rules of which none decides, a rule that does not hold changes nothing. -/
theorem firstHolding_cons_eq_none {others : List DeciderRule} (notHolds : rule.holds arithmetic attempt ≠ .ok true)
    (missing : firstHolding arithmetic attempt others = none) :
    firstHolding arithmetic attempt (rule :: others) = none := by
  rcases trichotomy arithmetic attempt rule with holds | fails | broken
  · exact absurd holds notHolds
  · rw [firstHolding_of_false fails, missing]
  · exact firstHolding_of_not_compiles broken

/-- A rule decides that holds while all rules before it can be tested and do not hold. -/
theorem firstHolding_eq_some : firstHolding arithmetic attempt rules = some level ↔
    ∃ before rule behind, rules = before ++ rule :: behind ∧ rule.level = level ∧
      (∀ earlier ∈ before, earlier.holds arithmetic attempt = .ok false) ∧
        rule.holds arithmetic attempt = .ok true := by
  constructor
  · intro found
    induction rules with
    | nil => cases found
    | cons rule others inductionHypothesis =>
      rcases trichotomy arithmetic attempt rule with holds | fails | broken
      · rw [firstHolding_of_true holds] at found
        exact ⟨[], rule, others, rfl, Option.some.inj found, by simp, holds⟩
      · rw [firstHolding_of_false fails] at found
        obtain ⟨before, decisive, behind, rfl, reached, allFail, holds⟩ := inductionHypothesis found
        exact ⟨rule :: before, decisive, behind, rfl, reached, List.forall_mem_cons.2 ⟨fails, allFail⟩, holds⟩
      · rw [firstHolding_of_not_compiles broken] at found
        cases found
  · rintro ⟨before, rule, behind, rfl, rfl, allFail, holds⟩
    induction before with
    | nil => exact firstHolding_of_true holds
    | cons earlier before inductionHypothesis =>
      obtain ⟨fails, allFail⟩ := List.forall_mem_cons.1 allFail
      rw [List.cons_append, firstHolding_of_false fails]
      exact inductionHypothesis allFail

/-- No rule decides if one that does not compile stands before all that hold, or if none holds. -/
theorem firstHolding_eq_none : firstHolding arithmetic attempt rules = none ↔
    (∃ before rule behind, rules = before ++ rule :: behind ∧ ¬rule.Compiles ∧
        ∀ earlier ∈ before, earlier.holds arithmetic attempt ≠ .ok true) ∨
      ∀ rule ∈ rules, rule.holds arithmetic attempt ≠ .ok true := by
  constructor
  · intro missing
    induction rules with
    | nil => exact .inr (by simp)
    | cons rule others inductionHypothesis =>
      rcases trichotomy arithmetic attempt rule with holds | fails | broken
      · cases (firstHolding_of_true holds).symm.trans missing
      · have notHolds : rule.holds arithmetic attempt ≠ .ok true := by simp [fails]
        rw [firstHolding_of_false fails] at missing
        rcases inductionHypothesis missing with ⟨before, last, behind, rfl, broken, noneHolds⟩ | noneHolds
        · exact .inl ⟨rule :: before, last, behind, rfl, broken, List.forall_mem_cons.2 ⟨notHolds, noneHolds⟩⟩
        · exact .inr (List.forall_mem_cons.2 ⟨notHolds, noneHolds⟩)
      · exact .inl ⟨[], rule, others, rfl, broken, by simp⟩
  · rintro (⟨before, rule, behind, rfl, broken, noneHolds⟩ | noneHolds)
    · induction before with
      | nil => exact firstHolding_of_not_compiles broken
      | cons earlier before inductionHypothesis =>
        obtain ⟨notHolds, noneHolds⟩ := List.forall_mem_cons.1 noneHolds
        exact firstHolding_cons_eq_none notHolds (inductionHypothesis noneHolds)
    · induction rules with
      | nil => rfl
      | cons rule others inductionHypothesis =>
        obtain ⟨notHolds, noneHolds⟩ := List.forall_mem_cons.1 noneHolds
        exact firstHolding_cons_eq_none notHolds (inductionHypothesis noneHolds)

end DeciderRule

namespace Decider

/-- Rules that compile cannot fail. An expression that compiles with some allowed names has a value wherever these
names have values. So a decider gives the level of a rule exactly if the rule and all before it compile, those before
it do not hold and it holds, and gives none exactly if a rule that does not compile stands before all that hold, or if
no rule holds. Floating point numbers are one of the arithmetics. -/
theorem decideOver_checked (arithmetic : Rule.Arithmetic α) (decider : Decider) (attempt : Attempt) :
    (∀ allowed text expr, Rule.compileWith allowed text = .ok expr → ∀ bindings : Rule.Variables α,
      (∀ name ∈ allowed, (bindings name).isSome) → ∃ value, expr.eval arithmetic bindings = .ok value) ∧
    (∀ level, decider.decideOver arithmetic attempt = some level ↔
      ∃ before rule behind, decider.rules = before ++ rule :: behind ∧ rule.level = level ∧
        (∀ checked ∈ before ++ [rule], checked.Compiles) ∧
        (∀ earlier ∈ before, earlier.holds arithmetic attempt = .ok false) ∧
        rule.holds arithmetic attempt = .ok true) ∧
    (decider.decideOver arithmetic attempt = none ↔
      (∃ before rule behind, decider.rules = before ++ rule :: behind ∧ ¬rule.Compiles ∧
        ∀ earlier ∈ before, earlier.holds arithmetic attempt ≠ .ok true) ∨
      ∀ rule ∈ decider.rules, rule.holds arithmetic attempt ≠ .ok true) := by
  refine ⟨fun allowed text expr compiled bindings covers => Rule.eval_of_compileWith compiled covers,
    fun level => DeciderRule.firstHolding_eq_some.trans ?_, DeciderRule.firstHolding_eq_none⟩
  constructor
  · rintro ⟨before, rule, behind, split, reached, allFail, holds⟩
    refine ⟨before, rule, behind, split, reached, fun checked member => ?_, allFail, holds⟩
    rcases List.mem_append.1 member with earlier | last
    · exact (DeciderRule.compiles_iff arithmetic attempt).2 ⟨false, allFail checked earlier⟩
    · obtain rfl := List.mem_singleton.1 last
      exact (DeciderRule.compiles_iff arithmetic attempt).2 ⟨true, holds⟩
  · rintro ⟨before, rule, behind, split, reached, _, allFail, holds⟩
    exact ⟨before, rule, behind, split, reached, allFail, holds⟩

theorem decideOver_checked_late :
    let expr := Rule.Expr.binary (.reference "roll") .or (.binary (.reference "roll") .divide (.number ⟨0, 0⟩))
    let late : Decider := ⟨"late", "late", "", [⟨.worst, "false"⟩, ⟨.success, "true"⟩, ⟨.best, "luck > 3"⟩]⟩
    Rule.compileWith ["roll"] "roll || roll / 0".toList = .ok expr ∧
      (∃ value, expr.eval Rule.floating (.ofList [("roll", 3.0)]) = .ok value) ∧
      late.decideOver Rule.floating ⟨40, 40, 2, none⟩ = some .success := by
  intro expr late
  have compiled : Rule.compileWith ["roll"] "roll || roll / 0".toList = .ok expr :=
    toOption_eq_some.1 (by decide +kernel)
  have readFalse : Rule.compileWith Attempt.names "false".toList = .ok (.truth false) :=
    toOption_eq_some.1 (by decide +kernel)
  have readTrue : Rule.compileWith Attempt.names "true".toList = .ok (.truth true) :=
    toOption_eq_some.1 (by decide +kernel)
  obtain ⟨evaluates, decides, _⟩ := decideOver_checked Rule.floating late ⟨40, 40, 2, none⟩
  refine ⟨compiled, evaluates _ _ _ compiled _ (by simp [Rule.Variables.ofList]), (decides .success).2 ?_⟩
  refine ⟨[⟨.worst, "false"⟩], ⟨.success, "true"⟩, [⟨.best, "luck > 3"⟩], rfl, rfl, ?_, ?_, ?_⟩
  · intro checked member
    rcases List.mem_cons.1 member with rfl | last
    · exact ⟨_, readFalse⟩
    · obtain rfl := List.mem_singleton.1 last
      exact ⟨_, readTrue⟩
  · intro earlier member
    obtain rfl := List.mem_singleton.1 member
    exact bind_eq_ok.2 ⟨_, readFalse, rfl⟩
  · exact bind_eq_ok.2 ⟨_, readTrue, rfl⟩

end Decider

end Tabletop
