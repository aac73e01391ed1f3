/-
This file proves that derived tokens are read as rule expressions, and that rules whose names are all known have values.

Each reader reads all derivations of its phrase that have room, with their trees. Behind it stands what ends the
phrase. What a rule is checked for before it is kept is that its names are among the known ones. Nothing else can stop
it from having a value, since operations are defined on all values.
-/

import Tabletop.Proofs.Chain
import Tabletop.Proofs.Result
import Tabletop.Proofs.Rule.Grammar
import Tabletop.Rule.Eval
import Tabletop.Rule.Parser

namespace Tabletop.Rule

/-- A reader reads whatever is derived from a phrase with less nesting than there is room for. -/
def Completes (phrase : Phrase) (reader : TokenReader Token Error phrase.Tree) (room : Nat) : Prop :=
  ∀ (derivation : Derivation phrase) (rest : List Token), derivation.nesting < room → Ends phrase.ending rest →
    reader (derivation.tokens ++ rest) = .ok (derivation.tree, rest)

variable {room level : Nat} {rest : List Token} {inner : Readers} {operand : Parser}
  {operation? : Token → Option Operation}

/-- A table of operators has exactly the operations of a level. -/
def Tells (operation? : Token → Option Operation) (level : Nat) : Prop :=
  ∀ token operation, operation? token = some operation ↔ operation.token = token ∧ operation.level = level

theorem tells_multiplicative : Tells multiplicative? 0 := by
  intro token operation
  cases token <;> cases operation <;> simp [multiplicative?, Operation.token, Operation.level]

theorem tells_additive : Tells additive? 1 := by
  intro token operation
  cases token <;> cases operation <;> simp [additive?, Operation.token, Operation.level]

theorem tells_relational : Tells relational? 2 := by
  intro token operation
  cases token <;> cases operation <;> simp [relational?, Operation.token, Operation.level]

theorem tells_equality : Tells equality? 3 := by
  intro token operation
  cases token <;> cases operation <;> simp [equality?, Operation.token, Operation.level]

theorem tells_and : Tells and? 4 := by
  intro token operation
  cases token <;> cases operation <;> simp [and?, Operation.token, Operation.level]

theorem tells_or : Tells or? 5 := by
  intro token operation
  cases token <;> cases operation <;> simp [or?, Operation.token, Operation.level]

theorem completes_primary (choices : Completes .choice inner.choice room) :
    Completes .primary (primary inner) (room + 1) := by
  intro derivation rest few ends
  cases derivation with
  | number value => rfl
  | truth value => rfl
  | reference name => rfl
  | group choice =>
      have choiceRead := choices choice (.rightParen :: rest) (Nat.lt_of_succ_lt_succ few) ends_rightParen
      simp only [Derivation.tokens, List.cons_append, List.append_assoc, List.nil_append, primary]
      rw [choiceRead]
      rfl

theorem sign?_token (sign : Sign) : sign? sign.token = some sign := by
  cases sign <;> rfl

theorem completes_signed (choices : Completes .choice inner.choice room)
    (operands : Completes (.ofLevel 0) inner.signed room) : Completes (.ofLevel 0) (signed inner) (room + 1) := by
  intro derivation rest few ends
  cases derivation with
  | plain operand =>
      have operandRead := completes_primary choices operand rest few ends
      change signed inner (operand.tokens ++ rest) = .ok (operand.tree, rest)
      rw [← operandRead]
      cases operand <;> rfl
  | signed sign operand =>
      have operandRead := operands operand rest (Nat.lt_of_succ_lt_succ few) ends
      simp only [Derivation.tokens, List.cons_append, signed, sign?_token]
      rw [operandRead]
      rfl

theorem Tells.stops (tells : Tells operation? level) (ends : Ends (level + 1) rest) :
    ∀ token ∈ rest.head?, operation? token = none := by
  refine fun token isHead => Option.eq_none_iff_forall_ne_some.2 fun operation found => ?_
  obtain ⟨rfl, fits⟩ := (tells token operation).1 found
  obtain ⟨more, rfl⟩ := List.head?_eq_some_iff.1 isHead
  have atLeast := ends.le
  omega

theorem Completes.behind (tells : Tells operation? level) (operands : Completes (.ofLevel level) operand room) :
    (others : Derivation (.others level)) → ∀ rest : List Token, others.nesting < room → Ends (level + 1) rest →
      ReadsBehind operation? .binary operand (others.tokens ++ rest) others.tree rest
  | .none => fun _ _ ends => .stop (tells.stops ends)
  | .more operation fits right others => by
    intro rest few ends
    obtain ⟨rightFew, othersFew⟩ := Nat.max_lt.1 few
    have found := (tells operation.token operation).2 ⟨rfl, fits⟩
    have rightRead := operands right _ rightFew (Derivation.ends_others others ends)
    rw [Derivation.tokens, List.cons_append, List.cons_append, List.append_assoc]
    exact .more found rightRead (by simp) (operands.behind tells others rest othersFew ends)

theorem completes_chain (tells : Tells operation? level) (operands : Completes (.ofLevel level) operand room) :
    Completes (.ofLevel (level + 1)) (chain operation? .binary operand) room := by
  intro derivation rest few ends
  cases derivation with
  | chain head others =>
      obtain ⟨headFew, othersFew⟩ := Nat.max_lt.1 few
      have headRead := operands head _ headFew (Derivation.ends_others others ends)
      rw [Derivation.tokens, List.append_assoc]
      exact (operands.behind tells others rest othersFew ends).chain headRead

theorem completes_operators (operands : Completes (.ofLevel 0) (signed inner) room) :
    Completes (.ofLevel 6) (operators inner) room := by
  have products := completes_chain tells_multiplicative operands
  have sums := completes_chain tells_additive products
  have relations := completes_chain tells_relational sums
  have equalities := completes_chain tells_equality relations
  exact completes_chain tells_or (completes_chain tells_and equalities)

theorem completes_choice (choices : Completes .choice inner.choice room)
    (conditions : Completes (.ofLevel 6) (operators inner) (room + 1)) :
    Completes .choice (choice inner) (room + 1) := by
  intro derivation rest few ends
  cases derivation with
  | operators condition =>
      have conditionRead := conditions condition rest few (ends.mono (by decide))
      change choice inner (condition.tokens ++ rest) = .ok (condition.tree, rest)
      rw [choice, conditionRead]
      cases rest with
      | nil => rfl
      | cons token rest =>
          cases token with
          | question => exact absurd ends not_ends_question
          | _ => rfl
  | choice condition positive negative =>
      simp only [Derivation.nesting, Nat.max_lt] at few
      obtain ⟨conditionFew, positiveFew, negativeFew⟩ := few
      have conditionRead := conditions condition
        (.question :: (positive.tokens ++ .colon :: (negative.tokens ++ rest))) conditionFew ends_question
      have positiveRead := choices positive (.colon :: (negative.tokens ++ rest))
        (Nat.lt_of_succ_lt_succ positiveFew) ends_colon
      have negativeRead := choices negative rest (Nat.lt_of_succ_lt_succ negativeFew) ends
      simp only [Derivation.tokens, List.cons_append, List.append_assoc, choice]
      rw [conditionRead]
      change (inner.choice (positive.tokens ++ .colon :: (negative.tokens ++ rest)) >>= _) = _
      rw [positiveRead]
      change (inner.choice (negative.tokens ++ rest) >>= _) = _
      rw [negativeRead]
      rfl

theorem completes_readersWithin (room : Nat) : Completes .choice (readersWithin room).choice room ∧
    Completes (.ofLevel 0) (readersWithin room).signed room := by
  induction room with
  | zero =>
      refine ⟨?_, ?_⟩
      · intro derivation rest few
        cases few
      · intro derivation rest few
        cases few
  | succ room inductionHypothesis =>
      obtain ⟨choices, operands⟩ := inductionHypothesis
      have signs := completes_signed choices operands
      exact ⟨completes_choice choices (completes_operators signs), signs⟩

/-! Values of rules -/

variable {α : Type} {arithmetic : Arithmetic α} {values : Variables α} {expr : Expr}

/-- An expression whose names all have values has one. The names of both branches of a choice count, although only one
of them is evaluated. -/
theorem Expr.eval_bound (bound : ∀ name ∈ expr.names, (values name).isSome) :
    ∃ value, expr.eval arithmetic values = .ok value := by
  induction expr with
  | number => exact ⟨_, rfl⟩
  | truth => exact ⟨_, rfl⟩
  | reference name =>
    obtain ⟨value, known⟩ := Option.isSome_iff_exists.1 (bound name List.mem_cons_self)
    exact ⟨.number value, by simp only [eval, known]⟩
  | unary sign operand operandValue =>
    obtain ⟨value, evaluated⟩ := operandValue bound
    exact ⟨_, bind_eq_ok.2 ⟨value, evaluated, rfl⟩⟩
  | binary left operation right leftValue rightValue =>
    obtain ⟨first, leftEvaluated⟩ := leftValue fun name member => bound name (List.mem_append_left _ member)
    obtain ⟨second, rightEvaluated⟩ := rightValue fun name member => bound name (List.mem_append_right _ member)
    by_cases stops : operation.stopsAt arithmetic first = true
    · exact ⟨_, bind_eq_ok.2 ⟨first, leftEvaluated, if_pos stops⟩⟩
    · exact ⟨_, bind_eq_ok.2 ⟨first, leftEvaluated, (if_neg stops).trans (bind_eq_ok.2 ⟨second, rightEvaluated, rfl⟩)⟩⟩
  | choice condition positive negative conditionValue positiveValue negativeValue =>
    simp only [names, List.mem_append, or_imp, forall_and] at bound
    obtain ⟨value, evaluated⟩ := conditionValue bound.1.1
    by_cases truthy : value.isTruthy arithmetic = true
    · obtain ⟨chosen, branch⟩ := positiveValue bound.1.2
      exact ⟨chosen, bind_eq_ok.2 ⟨value, evaluated, (if_pos truthy).trans branch⟩⟩
    · obtain ⟨chosen, branch⟩ := negativeValue bound.2
      exact ⟨chosen, bind_eq_ok.2 ⟨value, evaluated, (if_neg truthy).trans branch⟩⟩

theorem compileWith_ok {allowed : List String} {text : List Char} (compiled : compileWith allowed text = .ok expr) :
    parse text = .ok expr ∧ ∀ name ∈ expr.names, name ∈ allowed := by
  obtain ⟨read, parsed, checked⟩ := bind_eq_ok.1 compiled
  split at checked
  · cases checked
  · next known =>
    cases checked
    refine ⟨parsed, fun name member => ?_⟩
    simpa using List.find?_eq_none.1 known name member

/-- An expression that compiles has a value wherever the allowed names have values. -/
theorem eval_of_compileWith {allowed : List String} {text : List Char} (compiled : compileWith allowed text = .ok expr)
    (covers : ∀ name ∈ allowed, (values name).isSome) : ∃ value, expr.eval arithmetic values = .ok value :=
  Expr.eval_bound fun name inside => covers name ((compileWith_ok compiled).2 name inside)

end Tabletop.Rule
