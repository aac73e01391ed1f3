/-
This file proves what is left of a text when its aliases are resolved.

What stands in place of an alias is resolved by itself, and the text behind the alias is put back afterwards. So no
alias is left in what was resolved last, but one may begin there and end in the text that was put back.
-/

import Tabletop.Proofs.Alias.Literal
import Tabletop.Proofs.Step

namespace Tabletop.Alias

open Step

variable {rules : List Alias} {rule : Alias} {context : Context} {card : Option Card} {room : Nat}
  {text core left result : List Char} {rests : List (List Char)} {found : AliasMatch} {parts : List Part}
  {history after : List InlineRoll} {faces rest : Faces}

/-! Steps -/

/-- No rule puts anything in place of the start of the text. -/
def IsNormal (rules : List Alias) (context : Context) (text : List Char) : Prop :=
  ∀ found, expandOnce rules context text = some found → found.replacement = none

/-- A text is resolved step by step to a text that is normal. The list holds the texts behind the aliases, the first
alias last. -/
inductive Resolves (rules : List Alias) (context : Context) (card : Option Card) :
    (room : Nat) → List Char → List InlineRoll → Faces → (core : List Char) → (rests : List (List Char)) → Prop
  | normal (room : Nat) (text : List Char) (history : List InlineRoll) (faces : Faces)
      (isNormal : IsNormal rules context text) : Resolves rules context card (room + 1) text history faces text []
  | step {room : Nat} {text replacement expanded core : List Char} {history after : List InlineRoll}
      {faces rest : Faces} {found : AliasMatch} {rests : List (List Char)}
      (applied : expandOnce rules context text = some found)
      (replaced : found.replacement = some replacement)
      (filled : Template.expandWithin card room replacement history faces = ((.ok expanded, after), rest))
      (later : Resolves rules context card room expanded after rest core rests) :
      Resolves rules context card (room + 1) text history faces core (rests ++ [found.rest])

theorem Resolves.isNormal (resolves : Resolves rules context card room text history faces core rests) :
    IsNormal rules context core := by
  induction resolves with
  | normal _ _ _ _ isNormal => exact isNormal
  | step _ _ _ _ inductionHypothesis => exact inductionHypothesis

/-- A result is a normal text with the texts behind the aliases. The induction is on the room that is left. -/
theorem resolveWithin_resolves
    (done : resolveWithin rules context card room text history faces = ((.ok result, after), rest)) :
    ∃ core rests, Resolves rules context card room text history faces core rests ∧ result = core ++ rests.flatten := by
  induction room generalizing text history faces result after rest with
  | zero => cases done
  | succ room inductionHypothesis =>
    unfold resolveWithin at done
    cases applied : expandOnce rules context text with
    | none =>
      rw [applied] at done
      cases done
      have isNormal : IsNormal rules context text := by
        intro found here
        cases applied.symm.trans here
      exact ⟨text, [], .normal room text history faces isNormal, (List.append_nil _).symm⟩
    | some found =>
      obtain ⟨id, before, matched, behind, replacement⟩ := found
      rw [applied] at done
      cases replacement with
      | none =>
        cases done
        have isNormal : IsNormal rules context text := by
          intro found here
          cases applied.symm.trans here
          rfl
        exact ⟨text, [], .normal room text history faces isNormal, (List.append_nil _).symm⟩
      | some replacement =>
        obtain ⟨expanded, between, middle, filled, further⟩ := bind_ok done
        obtain ⟨resolved, _, _, later, placed⟩ := bind_ok further
        cases placed
        obtain ⟨core, rests, resolves, rfl⟩ := inductionHypothesis later
        refine ⟨core, rests ++ [behind], .step applied rfl filled resolves, ?_⟩
        rw [List.flatten_append, List.flatten_singleton, List.append_assoc]

/-! Literals in longer texts -/

/-- The rule looks for a literal whose slots have names. -/
inductive IsLiteral (rule : Alias) : Prop
  | literal {source replacement : String} (trigger : rule.rule.trigger = .literal source replacement)
      (named : Named (Alias.parts source.toList))

/-- What parts take of the start of a longer text without reaching its end they take of that start. -/
theorem head?_fits_within {fit : Fit} (first : (fits parts (core ++ left)).head? = some fit)
    (inside : fit.taken.length ≤ core.length) :
    (fits parts core).head? = some { fit with rest := core.drop fit.taken.length } := by
  have reads := reads_head first
  obtain ⟨remains, split⟩ :=
    List.prefix_of_prefix_length_le ⟨fit.rest, reads.split⟩ (List.prefix_append core left) inside
  have member : ⟨fit.taken, fit.digits, remains⟩ ∈ fits parts core := mem_fits.2 ⟨reads.takes, split.symm⟩
  have dropped : core.drop fit.taken.length = remains := by rw [← split, List.drop_left]
  rw [dropped]
  cases same : fits parts core with
  | nil =>
    rw [same] at member
    cases member
  | cons other others =>
    rw [same] at member
    rcases List.mem_cons.1 member with here | later
    · rw [here]
      rfl
    · -- The first fit in the short text is one in the long text as well, so it has no more digits.
      have sorted := fits_sorted parts core
      rw [same] at sorted
      have apart := List.rel_of_pairwise_cons sorted later
      have fewer : fit.lengths < other.lengths := apart
      have ahead : Reads parts core other.taken other.rest other.digits := reads_head (by rw [same]; rfl)
      have starts : other.taken <+: core ++ left :=
        List.IsPrefix.trans ⟨other.rest, ahead.split⟩ (List.prefix_append _ _)
      rcases reads.longest _ _ ahead.takes starts with equal | more
      · have lengths : other.lengths = fit.lengths := congrArg (List.map List.length) equal
        exact (List.lt_irrefl _ (lengths ▸ fewer)).elim
      · exact (List.lt_asymm fewer more).elim

/-- The rules that need no plugin are literals. -/
theorem isLiteral_embedded {rule : Alias} (member : rule ∈ embedded) : rule.IsLiteral := by
  simp only [embedded, AliasRule.embedded, List.map_cons, List.map_nil, List.mem_cons, List.not_mem_nil,
    or_false] at member
  rcases member with rfl | rfl | rfl | rfl <;> exact .literal rfl ⟨by decide +kernel, by decide +kernel⟩

theorem IsLiteral.within (isLiteral : rule.IsLiteral) (matched : rule.match? context (core ++ left) = some found)
    (inside : found.matched.length ≤ core.length) :
    rule.match? context core = some { found with rest := core.drop found.matched.length } := by
  obtain ⟨trigger, named⟩ := isLiteral
  rw [match?_literal trigger rfl named] at matched ⊢
  obtain ⟨fit, first, rfl⟩ := Option.map_eq_some_iff.1 matched
  rw [head?_fits_within first inside]
  rfl

theorem IsLiteral.longer (isLiteral : rule.IsLiteral) (unmatched : rule.match? context (core ++ left) = none) :
    rule.match? context core = none := by
  obtain ⟨trigger, named⟩ := isLiteral
  rw [match?_literal trigger rfl named, Option.map_eq_none_iff, List.head?_eq_none_iff] at unmatched ⊢
  refine List.eq_nil_iff_forall_not_mem.2 fun fit member => ?_
  obtain ⟨takes, split⟩ := mem_fits.1 member
  have longer : ⟨fit.taken, fit.digits, fit.rest ++ left⟩ ∈ fits _ (core ++ left) :=
    mem_fits.2 ⟨takes, by rw [split, List.append_assoc]⟩
  rw [unmatched] at longer
  cases longer

/-- What literals find in the start of a text they find in that start alone. -/
theorem expandOnce_within (literals : ∀ rule ∈ rules, rule.IsLiteral)
    (applied : expandOnce rules context (core ++ left) = some found) (inside : found.matched.length ≤ core.length) :
    expandOnce rules context core = some { found with rest := core.drop found.matched.length } := by
  unfold expandOnce at applied ⊢
  induction rules with
  | nil => cases applied
  | cons rule rules inductionHypothesis =>
    obtain ⟨isLiteral, others⟩ := List.forall_mem_cons.1 literals
    rw [List.findSome?_cons] at applied ⊢
    cases matched : rule.match? context (core ++ left) with
    | none =>
      rw [matched] at applied
      rw [isLiteral.longer matched]
      exact inductionHypothesis others applied
    | some here =>
      rw [matched] at applied
      cases applied
      rw [isLiteral.within matched inside]

/-- A resolved text is a normal text with the texts behind the aliases. It is normal if nothing stands behind them.
A literal that still applies to it begins in the normal text and ends behind it. -/
theorem resolve_normal
    (done : resolve rules context card text history faces = ((.ok result, after), rest)) :
    ∃ core rests, Resolves rules context card (Template.maxDepth + 1) text history faces core rests ∧
      result = core ++ rests.flatten ∧ IsNormal rules context core ∧
      ((∀ left ∈ rests, left = []) → IsNormal rules context result) ∧
      ((∀ rule ∈ rules, rule.IsLiteral) → ∀ found, expandOnce rules context result = some found →
        found.replacement ≠ none → core.length < found.matched.length) := by
  obtain ⟨core, rests, resolves, rfl⟩ := resolveWithin_resolves done
  have isNormal := resolves.isNormal
  refine ⟨core, rests, resolves, rfl, isNormal, fun nothing => ?_, fun literals found applied replaced => ?_⟩
  · rw [List.flatten_eq_nil_iff.2 nothing, List.append_nil]
    exact isNormal
  · refine Nat.lt_of_not_le fun inside => replaced ?_
    have within := expandOnce_within literals applied inside
    exact isNormal { found with rest := core.drop found.matched.length } within

theorem resolve_normal_again :
    let rules := [ofTrigger "a" (.literal "a" "b"), ofTrigger "b" (.literal "b" "c")]
    let context : Context := ⟨"u1", "U", .user, "c1", none, none⟩
    let outcome := resolve rules context none "a!".toList [] (.constant 1)
    outcome.1.1 = .ok "c!".toList ∧
      ∃ core rests, Resolves rules context none (Template.maxDepth + 1) "a!".toList [] (.constant 1) core rests ∧
        "c!".toList = core ++ rests.flatten ∧ IsNormal rules context core := by
  intro rules context outcome
  have resolved : outcome.1.1 = .ok "c!".toList := by decide +kernel
  have done : outcome = ((.ok "c!".toList, outcome.1.2), outcome.2) := Prod.ext (Prod.ext resolved rfl) rfl
  obtain ⟨core, rests, resolves, split, isNormal, -⟩ := resolve_normal done
  exact ⟨resolved, core, rests, resolves, split, isNormal⟩

/-- The text behind an alias may go on with what stands in its place as an alias that is left alone. -/
theorem resolve_leaves :
    let rules := [ofTrigger "a" (.literal "a" "b"), ofTrigger "bc" (.literal "bc" "d")]
    let context : Context := ⟨"u1", "U", .user, "c1", none, none⟩
    (resolve rules context none "ac".toList [] (.constant 1)).1.1 = .ok "bc".toList ∧
      expandOnce rules context "bc".toList = some ⟨.embedded "bc", [], ['b', 'c'], [], some ['d']⟩ := by
  decide +kernel

end Tabletop.Alias
