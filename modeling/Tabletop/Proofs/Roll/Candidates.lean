/-
This file proves which skills a standard roll lets grow.

They are told from the state that the hooks behind the dice leave. A roll whose expression is written with a selector
that keeps the lowest dice lets nothing grow. Dice that drop the highest ones do the same to a roll, but they count
like any others.
-/

import Tabletop.Proofs.Notation.Selectors
import Tabletop.Proofs.Roll.Tests

namespace Tabletop

open Number Step Text

namespace StandardRoll

variable {scene : Scene} {start after : StandardRoll} {faces rest : Faces}

/-- The skills that grow are told from the last state. -/
theorem roll_growth (made : roll scene start faces = ((.ok (), after), rest)) :
    after.growth = growthOf after.state := by
  obtain ⟨_, _, worked, _, _, work, written⟩ := roll_ok made
  obtain ⟨_, _, _, _, _, _, _, told⟩ := work_ok work
  exact (write_keeps (fun roll => roll.growth = growthOf roll.state) fun _ _ _ held => held).after told written

/-- Each key is listed once, in the order of the first places. -/
theorem mem_distinct {keys listed : List String} {key : String} :
    key ∈ keys.foldl (fun keys key => if keys.contains key then keys else keys ++ [key]) listed ↔
      key ∈ listed ∨ key ∈ keys := by
  induction keys generalizing listed with
  | nil => simp
  | cons first keys inductionHypothesis =>
      rw [List.foldl_cons, inductionHypothesis, List.mem_cons]
      split
      · next there =>
        have member := List.contains_iff_mem.1 there
        constructor
        · exact Or.imp_right .inr
        · rintro (old | rfl | later)
          · exact .inl old
          · exact .inl member
          · exact .inr later
      · rw [List.mem_append, List.mem_singleton, or_assoc]

/-- Some test of the state lets the skill with the key grow. -/
def Earns (state : RollState) (key : String) : Prop :=
  ∃ rolled ∈ state.rolls, ∃ test ∈ rolled.tests, grows test = true ∧ test.key = key

/-- The skills that grow are those that earn it in an open roll of the one game system with growth, if nothing in the
expression keeps the lowest dice. -/
theorem mem_growthOf {state : RollState} {expr : Notation.Expr} {key : String}
    (parsed : Notation.parse state.expression.toList = .ok expr) :
    key ∈ growthOf state ↔ state.cardKind = .coc ∧ state.versus = false ∧
      ¬Notation.WritesSelector state.expression.toList .keepLowest ∧ Earns state key := by
  have earned : key ∈ (((state.rolls.flatMap (·.tests)).filter grows).map (·.key)) ↔ Earns state key := by
    simp only [Earns, List.mem_map, List.mem_filter, List.mem_flatMap]
    constructor
    · rintro ⟨test, ⟨⟨rolled, member, tested⟩, earns⟩, same⟩
      exact ⟨rolled, member, test, tested, earns, same⟩
    · rintro ⟨rolled, member, test, tested, earns, same⟩
      exact ⟨test, ⟨⟨rolled, member, tested⟩, earns⟩, same⟩
  rw [← Notation.includes_keepLowest parsed, growthOf]
  split
  · next closed =>
    simp only [Bool.or_eq_true, decide_eq_true_eq] at closed
    refine iff_of_false List.not_mem_nil fun ⟨coc, alone, unwritten, _⟩ => ?_
    rcases closed with (other | versus) | written
    · exact other coc
    · exact Bool.false_ne_true (alone.symm.trans versus)
    · exact unwritten written
  · next opened =>
    simp only [Bool.or_eq_true, decide_eq_true_eq, not_or, Decidable.not_not, Bool.not_eq_true] at opened
    obtain ⟨⟨coc, alone⟩, unwritten⟩ := opened
    rw [mem_distinct, earned]
    simp [coc, alone, unwritten]

/-- A card with some training in one skill. -/
def trained : Card :=
  .coc { CocCard.new "A" .epoch with skills := .ofPairs [("侦查", 40)] }

/-- The entry of the skill. -/
def spotting : Entry :=
  ⟨"侦查", "侦查", 40, 40, false, false, .skills, .difficulty .normal⟩

end StandardRoll

end Tabletop
