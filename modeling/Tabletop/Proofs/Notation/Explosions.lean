/-
This file proves how exploding dice are thrown.

Each throw brings a run of dice: those that exploded, and behind them one that did not. All throws of a term take their
explosions from the same store, so a run may end on a highest face once nothing is left in it.
-/

import Tabletop.Proofs.Notation.Dice

namespace Tabletop.Notation

variable {mode : Mode} {sides left unused count : Nat} {dice more earlier later : List Die} {die : Die}

/-! One throw -/

/-- The dice of a throw that may use `left` explosions, of which some are unused. It goes on with every highest face,
unless no explosion is left. -/
inductive Burst (sides : Nat) : (left : Nat) → List Die → (unused : Nat) → Prop where
  | plain {left value : Nat} {kept : Bool} (stops : value = sides → left = 0) :
      Burst sides left [⟨sides, value, kept, false⟩] left
  | explosion {left unused : Nat} {kept : Bool} {dice : List Die} (others : Burst sides left dice unused) :
      Burst sides (left + 1) (⟨sides, sides, kept, true⟩ :: dice) unused

theorem rollDie_burst (mode : Mode) (sides left : Nat) (faces : Faces) :
    Burst sides left (rollDie mode sides left faces).1.1 (rollDie mode sides left faces).1.2 := by
  induction left generalizing faces with
  | zero =>
      rw [rollDie_last fun _ => rfl]
      exact .plain fun _ => rfl
  | succ left inductionHypothesis =>
      by_cases highest : (face mode sides faces).1 = sides
      · rw [rollDie_highest highest, highest]
        exact .explosion (inductionHypothesis _)
      · rw [rollDie_last (absurd · highest)]
        exact .plain (absurd · highest)

/-- All dice of a run but the last one exploded, on their highest face. The last one did not explode. -/
structure IsRun (run : List Die) : Prop where
  exploded : ∀ die ∈ run.dropLast, die.exploded = true ∧ die.value = die.sides
  last : ∃ die, run.getLast? = some die ∧ die.exploded = false

namespace Burst

theorem ne_nil (burst : Burst sides left dice unused) : dice ≠ [] := by
  cases burst <;> simp

theorem isRun (burst : Burst sides left dice unused) : IsRun dice := by
  induction burst with
  | plain stops => exact ⟨fun die member => absurd member List.not_mem_nil, _, rfl, rfl⟩
  | @explosion left unused kept dice others inductionHypothesis =>
      obtain ⟨exploded, last, isLast, plain⟩ := inductionHypothesis
      refine ⟨?_, last, ?_, plain⟩
      · rw [List.dropLast_cons_of_ne_nil others.ne_nil]
        exact List.forall_mem_cons.2 ⟨⟨rfl, rfl⟩, exploded⟩
      · rw [List.getLast?_cons, isLast]
        rfl

theorem sides_eq (burst : Burst sides left dice unused) : ∀ die ∈ dice, die.sides = sides := by
  induction burst with
  | plain stops => exact List.forall_mem_singleton.2 rfl
  | explosion others inductionHypothesis => exact List.forall_mem_cons.2 ⟨rfl, inductionHypothesis⟩

/-- Each explosion brings one more die. -/
theorem length_eq (burst : Burst sides left dice unused) : dice.length = 1 + explosionsOf dice := by
  induction burst with
  | plain stops => rfl
  | explosion others inductionHypothesis =>
      rw [List.length_cons, inductionHypothesis, explosionsOf_cons rfl, Nat.add_assoc]

theorem used (burst : Burst sides left dice unused) : explosionsOf dice + unused = left := by
  induction burst with
  | plain stops => exact Nat.zero_add _
  | explosion others inductionHypothesis =>
      rw [← inductionHypothesis, explosionsOf_cons rfl, Nat.add_right_comm]

/-- A die with a highest face that did not explode comes when all explosions are used up. -/
theorem exhausted (burst : Burst sides left dice unused) (split : dice = earlier ++ die :: later)
    (plain : die.exploded = false) (highest : die.value = die.sides) : explosionsOf earlier = left := by
  induction burst generalizing earlier with
  | plain stops =>
      cases earlier with
      | nil =>
          cases split
          exact (stops highest).symm
      | cons first earlier => simp at split
  | explosion others inductionHypothesis =>
      cases earlier with
      | nil =>
          cases split
          cases plain
      | cons first earlier =>
          cases split
          rw [explosionsOf_cons rfl, inductionHypothesis rfl]

/-- Which dice count makes no difference to how they are thrown. -/
theorem congr (burst : Burst sides left dice unused)
    (same : more.map (fun die => (die.sides, die.value, die.exploded)) =
      dice.map fun die => (die.sides, die.value, die.exploded)) : Burst sides left more unused := by
  induction burst generalizing more with
  | plain stops =>
      obtain ⟨⟨_, _, kept, _⟩, rest, rfl, equal, equalRest⟩ := List.map_eq_cons_iff.1 same
      cases equal
      rw [List.map_eq_nil_iff.1 equalRest]
      exact .plain stops
  | explosion others inductionHypothesis =>
      obtain ⟨⟨_, _, kept, _⟩, rest, rfl, equal, equalRest⟩ := List.map_eq_cons_iff.1 same
      cases equal
      exact .explosion (inductionHypothesis equalRest)

end Burst

/-! All throws of a term -/

/-- The dice of `count` throws that share `left` explosions. Each throw may use what those before it left over. -/
inductive Bursts (sides : Nat) : (count left : Nat) → List Die → Prop where
  | none {left : Nat} : Bursts sides 0 left []
  | more {count left unused : Nat} {dice more : List Die} (first : Burst sides left dice unused)
      (others : Bursts sides count unused more) : Bursts sides (count + 1) left (dice ++ more)

theorem rollDice_bursts (mode : Mode) (sides count left : Nat) (faces : Faces) :
    Bursts sides count left (rollDice mode sides count left faces).1 := by
  induction count generalizing left faces with
  | zero => exact .none
  | succ count inductionHypothesis => exact .more (rollDie_burst mode sides left faces) (inductionHypothesis _ _)

namespace Bursts

theorem runs (bursts : Bursts sides count left dice) :
    ∃ runs : List (List Die), runs.flatten = dice ∧ runs.length = count ∧ ∀ run ∈ runs, IsRun run := by
  induction bursts with
  | none => exact ⟨[], rfl, rfl, fun run member => absurd member List.not_mem_nil⟩
  | @more count left unused dice more first others inductionHypothesis =>
      obtain ⟨runs, rfl, rfl, all⟩ := inductionHypothesis
      exact ⟨dice :: runs, rfl, rfl, List.forall_mem_cons.2 ⟨first.isRun, all⟩⟩

theorem sides_eq (bursts : Bursts sides count left dice) : ∀ die ∈ dice, die.sides = sides := by
  induction bursts with
  | none => exact fun die member => absurd member List.not_mem_nil
  | more first others inductionHypothesis => exact List.forall_mem_append.2 ⟨first.sides_eq, inductionHypothesis⟩

theorem length_eq (bursts : Bursts sides count left dice) : dice.length = count + explosionsOf dice := by
  induction bursts with
  | none => rfl
  | more first others inductionHypothesis =>
      rw [List.length_append, first.length_eq, inductionHypothesis, explosionsOf_append]
      omega

theorem explosionsOf_le (bursts : Bursts sides count left dice) : explosionsOf dice ≤ left := by
  induction bursts with
  | none => exact Nat.zero_le _
  | more first others inductionHypothesis =>
      rw [explosionsOf_append, ← first.used]
      exact Nat.add_le_add_left inductionHypothesis _

theorem exhausted (bursts : Bursts sides count left dice) (split : dice = earlier ++ die :: later)
    (plain : die.exploded = false) (highest : die.value = die.sides) : explosionsOf earlier = left := by
  induction bursts generalizing earlier with
  | none => simp at split
  | @more count left unused dice more first others inductionHypothesis =>
      rcases List.append_eq_append_iff.1 split with ⟨before, rfl, inOthers⟩ | ⟨behind, rfl, same⟩
      · -- The die belongs to a later throw.
        rw [explosionsOf_append, inductionHypothesis inOthers, first.used]
      · cases behind with
        | nil =>
            have unexploded : explosionsOf [] = unused := inductionHypothesis same.symm
            rw [← first.used, ← unexploded, List.append_nil]
            rfl
        | cons other behind =>
            obtain ⟨rfl, _⟩ := List.cons.inj same
            exact first.exhausted rfl plain highest

theorem congr (bursts : Bursts sides count left dice)
    (same : more.map (fun die => (die.sides, die.value, die.exploded)) =
      dice.map fun die => (die.sides, die.value, die.exploded)) : Bursts sides count left more := by
  induction bursts generalizing more with
  | none =>
      rw [List.map_eq_nil_iff.1 same]
      exact .none
  | more first others inductionHypothesis =>
      rw [List.map_append] at same
      obtain ⟨front, back, rfl, sameFront, sameBack⟩ := List.map_eq_append_iff.1 same
      exact .more (first.congr sameFront) (inductionHypothesis sameBack)

end Bursts

/-! Terms -/

/-- The term explodes when it is rolled in this mode. -/
def DiceTerm.MayExplode (term : DiceTerm) (mode : Mode) : Prop :=
  term.explode = true ∧ 1 < term.sides ∧ mode = .random

/-- The dice of a term are as many runs as it has dice, with at most 100 explosions in all runs together. If the term
may explode, a die that did not explode shows the highest face only behind 100 explosions. Otherwise no die explodes. -/
structure DiceTerm.Explodes (term : DiceTerm) (mode : Mode) (dice : List Die) : Prop where
  sides : ∀ die ∈ dice, die.sides = term.sides
  runs : ∃ runs : List (List Die), runs.flatten = dice ∧ runs.length = term.count ∧ ∀ run ∈ runs, IsRun run
  length : dice.length = term.count + explosionsOf dice
  few : explosionsOf dice ≤ 100
  exhausted : term.MayExplode mode → ∀ earlier die later, dice = earlier ++ die :: later → die.exploded = false →
    die.value = term.sides → explosionsOf earlier = 100
  plain : mode = .maximize ∨ mode = .minimize ∨ term.sides ≤ 1 ∨ term.explode = false →
    (∀ die ∈ dice, die.exploded = false) ∧ dice.length = term.count

instance (term : DiceTerm) (mode : Mode) : Decidable (term.MayExplode mode) :=
  inferInstanceAs (Decidable (_ ∧ _ ∧ _))

theorem DiceTerm.explosions_eq (term : DiceTerm) (mode : Mode) :
    term.explosions mode = if term.MayExplode mode then 100 else 0 := by
  by_cases may : term.MayExplode mode
  · obtain ⟨explodes, many, rfl⟩ := may
    simp [explosions, MayExplode, maxExplosions, explodes, many]
  · rw [if_neg may, explosions, if_neg]
    simpa [MayExplode, and_assoc] using may

/-- Whatever faces come, the dice of a term are thrown in runs that share 100 explosions. -/
theorem DiceTerm.roll_explodes (term : DiceTerm) (mode : Mode) (faces : Faces) :
    term.Explodes mode (term.roll mode faces).1.dice := by
  have bursts : Bursts term.sides term.count (term.explosions mode) (term.roll mode faces).1.dice := by
    have thrown := rollDice_bursts mode term.sides term.count (term.explosions mode) faces
    obtain ⟨count, sides, selector, explode⟩ := term
    cases selector with
    | none => exact thrown
    | some selector => exact thrown.congr (selector.mark_same _)
  generalize (term.roll mode faces).1.dice = dice at bursts
  have few := bursts.explosionsOf_le
  rw [explosions_eq] at few
  refine ⟨bursts.sides_eq, bursts.runs, bursts.length_eq, ?_, ?_, ?_⟩
  · split at few <;> omega
  · intro may earlier die later split plain highest
    have same := bursts.sides_eq die (by simp [split])
    rw [bursts.exhausted split plain (highest.trans same.symm), explosions_eq, if_pos may]
  · intro never
    have cannot : ¬term.MayExplode mode := by
      rintro ⟨explodes, many, rfl⟩
      rcases never with never | never | never | never
      · cases never
      · cases never
      · omega
      · rw [explodes] at never
        cases never
    rw [if_neg cannot] at few
    have none : explosionsOf dice = 0 := Nat.le_zero.1 few
    refine ⟨fun die member => ?_, ?_⟩
    · exact Bool.eq_false_iff.2 (List.countP_eq_zero.1 none die member)
    · rw [bursts.length_eq, none, Nat.add_zero]

/-- The second die takes what the first one left of the explosions. -/
example : (roll "2d6!" .random (.cycle #[6, 2, 4])).1.toOption.map (·.working) = some "[6!, 2, 4]" := by
  decide +kernel

end Tabletop.Notation
