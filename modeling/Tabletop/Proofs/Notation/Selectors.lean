/-
This file proves how selectors that are written in a dice notation show in its text.

The letters of a selector that keeps the lowest dice stand in no text that has no such selector. But one that is
written may be replaced by a later one of the same dice.
-/

import Tabletop.Proofs.Notation.Evaluation
import Tabletop.Proofs.Text.Cut
import Tabletop.Text.Lowercase

namespace Tabletop.Notation

open Text

/-! Dice as they are written -/

/-- Dice as they are written. -/
structure WrittenDice where
  count : Option Nat
  sides : Sides
  modifiers : List Modifier

/-- The term that is written. -/
def WrittenDice.term (dice : WrittenDice) : DiceTerm :=
  dice.modifiers.foldl Modifier.apply ⟨dice.count.getD 1, dice.sides.value, none, false⟩

/-- The selection is written, even if another selector of the same dice comes later. -/
def WrittenDice.Selects (dice : WrittenDice) (selection : Selection) : Prop :=
  ∃ count, .select selection count ∈ dice.modifiers

theorem select_mem_modifier {selection : Selection} {modifier : Modifier} :
    Token.select selection ∈ modifier.tokens ↔ ∃ count, .select selection count = modifier := by
  cases modifier with
  | explode => simp [Modifier.tokens]
  | select other count => simp [Modifier.tokens, eq_comm]

/-- The selector that holds at the end is written. -/
theorem selector_written {modifiers : List Modifier} {term : DiceTerm} {selector : Selector}
    (holds : (modifiers.foldl Modifier.apply term).selector = some selector) :
    term.selector = some selector ∨ ∃ count, .select selector.selection count ∈ modifiers := by
  induction modifiers generalizing term with
  | nil => exact .inl holds
  | cons modifier modifiers inductionHypothesis =>
      rcases inductionHypothesis holds with before | ⟨count, member⟩
      · cases modifier with
        | explode => exact .inl before
        | select selection count =>
            cases before
            exact .inr ⟨count, List.mem_cons_self⟩
      · exact .inr ⟨count, List.mem_cons_of_mem _ member⟩

/-- A tree has these terms. Others add theirs to those of the left operand. -/
def Phrase.HasTerms (terms : List DiceTerm) : (phrase : Phrase) → phrase.Tree → Prop
  | .primary => fun expr => expr.terms = terms
  | .ofLevel _ => fun expr => expr.terms = terms
  | .others _ => fun join => ∀ left : Expr, (join left).terms = left.terms ++ terms

namespace Derivation

/-- The dice that are written, from left to right. -/
def written : {phrase : Phrase} → Derivation phrase → List WrittenDice
  | _, .constant _ => []
  | _, .dice count sides modifiers => [⟨count, sides, modifiers⟩]
  | _, .group inner => inner.written
  | _, .plain operand => operand.written
  | _, .signed _ operand => operand.written
  | _, .chain first others => first.written ++ others.written
  | _, .none => []
  | _, .more _ _ operand others => operand.written ++ others.written

/-- The terms of the tree are those that are written. -/
theorem tree_terms {phrase : Phrase} (derivation : Derivation phrase) :
    phrase.HasTerms (derivation.written.map WrittenDice.term) derivation.tree := by
  induction derivation with
  | constant value => rfl
  | dice count sides modifiers => rfl
  | group inner inductionHypothesis => exact inductionHypothesis
  | plain operand inductionHypothesis => exact inductionHypothesis
  | signed sign operand inductionHypothesis =>
      cases sign with
      | plus => exact inductionHypothesis
      | minus => exact (operand.tree.opposite_terms).trans inductionHypothesis
  | chain first others firstHypothesis othersHypothesis =>
      rw [written, List.map_append]
      exact (othersHypothesis _).trans (congrArg (· ++ _) firstHypothesis)
  | none => exact fun left => (List.append_nil _).symm
  | more operation fits operand others operandHypothesis othersHypothesis =>
      intro left
      rw [written, List.map_append, ← List.append_assoc]
      refine (othersHypothesis _).trans (congrArg (· ++ _) ?_)
      exact congrArg (left.terms ++ ·) operandHypothesis

/-- The tokens of selectors are those of the dice that are written. -/
theorem select_mem_tokens {phrase : Phrase} (derivation : Derivation phrase) (selection : Selection) :
    Token.select selection ∈ derivation.tokens ↔ ∃ dice ∈ derivation.written, dice.Selects selection := by
  induction derivation with
  | constant value => simp [tokens, written]
  | dice count sides modifiers =>
      have other : Token.select selection ≠ sides.token := by cases sides <;> simp [Sides.token]
      have ofModifiers : Token.select selection ∈ modifiers.flatMap Modifier.tokens ↔
          ∃ count, .select selection count ∈ modifiers := by
        simp only [List.mem_flatMap, select_mem_modifier]
        constructor
        · rintro ⟨_, member, count, rfl⟩
          exact ⟨count, member⟩
        · rintro ⟨count, member⟩
          exact ⟨_, member, count, rfl⟩
      simp [tokens, written, other, ofModifiers, WrittenDice.Selects]
  | group inner inductionHypothesis => simpa [tokens, written] using inductionHypothesis
  | plain operand inductionHypothesis => exact inductionHypothesis
  | signed sign operand inductionHypothesis =>
      have other : Token.select selection ≠ sign.token := by cases sign <;> simp [Sign.token]
      rw [tokens, List.mem_cons, or_iff_right other]
      exact inductionHypothesis
  | chain first others firstHypothesis othersHypothesis =>
      simp only [tokens, written, List.mem_append, firstHypothesis, othersHypothesis, or_and_right, exists_or]
  | none => simp [tokens, written]
  | more operation fits operand others operandHypothesis othersHypothesis =>
      have other : Token.select selection ≠ operation.token := by cases operation <;> simp [Operation.token]
      simp only [tokens, written, List.mem_append, List.mem_cons, other, false_or, operandHypothesis,
        othersHypothesis, or_and_right, exists_or]

end Derivation

/-! Letters of selectors -/

variable {lexeme text rest : List Char} {token : Token} {tokens : List Token}

/-- The letters of a selector that keeps the lowest dice. -/
abbrev lowestLetters : List Char := Selection.keepLowest.text

theorem lowestLetters_skip (absent : 'k' ∉ lexeme) :
    lowestLetters <:+: lexeme ++ rest ↔ lowestLetters <:+: rest := by
  induction lexeme with
  | nil => rfl
  | cons char lexeme inductionHypothesis =>
      have other : ¬lowestLetters <+: char :: (lexeme ++ rest) := by
        intro start
        obtain ⟨same, _⟩ := List.cons_prefix_cons.1 start
        exact absent (same ▸ List.mem_cons_self)
      rw [List.cons_append, List.infix_cons_iff, or_iff_right other]
      exact inductionHypothesis fun member => absent (List.mem_cons_of_mem _ member)

theorem spells_lowestLetters : Spells lowestLetters (.select .keepLowest) :=
  .symbol (by decide)

/-- The first letter stands in three lexemes. -/
theorem Spells.of_k (spells : Spells lexeme token) (first : 'k' ∈ lexeme) :
    lexeme = ['k', 'h'] ∨ lexeme = ['k'] ∨ lexeme = lowestLetters := by
  cases spells with
  | number digit digits all => cases all 'k' first
  | symbol listed =>
      have all : ∀ symbol ∈ symbols, 'k' ∈ symbol.1 →
          symbol.1 = ['k', 'h'] ∨ symbol.1 = ['k'] ∨ symbol.1 = lowestLetters := by
        decide
      exact all _ listed first

theorem Spells.eq_lowestLetters (spells : Spells lexeme (.select .keepLowest)) : lexeme = lowestLetters := by
  cases spells with
  | symbol listed =>
      have all : ∀ symbol ∈ symbols, symbol.2 = .select .keepLowest → symbol.1 = lowestLetters := by decide
      exact all _ listed rfl

/-- Of all lexemes only the selector itself has the letters. -/
theorem Spells.lowestLetters_iff (spells : Spells lexeme token) (longest : IsLongest lexeme (lexeme ++ rest)) :
    lowestLetters <:+: lexeme ++ rest ↔ token = .select .keepLowest ∨ lowestLetters <:+: rest := by
  by_cases own : lexeme = lowestLetters
  · subst own
    exact iff_of_true ⟨[], rest, rfl⟩ (.inl (spells.unique spells_lowestLetters))
  have other : token ≠ .select .keepLowest := fun same => own (same ▸ spells).eq_lowestLetters
  rw [or_iff_right other]
  by_cases first : 'k' ∈ lexeme
  · -- No `l` follows the letter, or the lexeme would be longer.
    have apart : ¬lowestLetters <+: lexeme ++ rest := by
      intro start
      have short := longest lowestLetters _ spells_lowestLetters start
      rcases spells.of_k first with rfl | rfl | same
      · exact absurd (List.cons_prefix_cons.1 (List.cons_prefix_cons.1 start).2).1 (by decide)
      · exact absurd short (by decide)
      · exact own same
    rcases spells.of_k first with rfl | rfl | same
    · have skip : lowestLetters <:+: ['h'] ++ rest ↔ lowestLetters <:+: rest := lowestLetters_skip (by decide)
      exact List.infix_cons_iff.trans ((or_iff_right apart).trans skip)
    · exact List.infix_cons_iff.trans (or_iff_right apart)
    · exact absurd same own
  · exact lowestLetters_skip first

/-- A text has the letters exactly if it has the selector. -/
theorem Lexes.lowestLetters_iff (lexes : Lexes text tokens) :
    lowestLetters <:+: text ↔ .select .keepLowest ∈ tokens := by
  induction lexes with
  | done => simp [lowestLetters, Selection.text]
  | @blank char rest tokens isBlank _ inductionHypothesis =>
      have absent : 'k' ∉ [char] := by
        rintro member
        rw [← List.mem_singleton.1 member] at isBlank
        simp at isBlank
      rw [← inductionHypothesis]
      exact lowestLetters_skip absent
  | token spells longest _ _ inductionHypothesis =>
      rw [spells.lowestLetters_iff longest, inductionHypothesis, List.mem_cons, eq_comm]

/-! Selectors of a notation -/

/-- Some dice of a notation are written with the selection. -/
def WritesSelector (text : List Char) (selection : Selection) : Prop :=
  ∃ derivation : Derivation (.ofLevel 2), Lexes (text.map Char.toLower) derivation.tokens ∧
    ∃ dice ∈ derivation.written, dice.Selects selection

variable {expr : Expr}

/-- The selectors of the terms are written. -/
theorem writesSelector_of_term (parsed : parse text = .ok expr) {term : DiceTerm} (member : term ∈ expr.terms)
    {selector : Selector} (holds : term.selector = some selector) : WritesSelector text selector.selection := by
  obtain ⟨_, _, lexes, parsedTokens⟩ := parse_eq_ok.1 parsed
  obtain ⟨derivation, rfl, _, _, rfl⟩ := parseTokens_eq_ok.1 parsedTokens
  have terms : derivation.tree.terms = derivation.written.map WrittenDice.term := derivation.tree_terms
  rw [terms] at member
  obtain ⟨dice, written, rfl⟩ := List.mem_map.1 member
  exact ⟨derivation, lexes, dice, written, (selector_written holds).resolve_left nofun⟩

/-- The letters of the selector tell whether it is written. -/
theorem includes_keepLowest (parsed : parse text = .ok expr) :
    includes ['k', 'l'] (asciiLower text) = true ↔ WritesSelector text .keepLowest := by
  obtain ⟨_, _, lexes, parsedTokens⟩ := parse_eq_ok.1 parsed
  obtain ⟨derivation, rfl, _, _, rfl⟩ := parseTokens_eq_ok.1 parsedTokens
  have letters : includes ['k', 'l'] (asciiLower text) = true ↔ .select .keepLowest ∈ derivation.tokens :=
    includes_iff.trans lexes.lowestLetters_iff
  rw [letters]
  constructor
  · intro member
    exact ⟨derivation, lexes, (derivation.select_mem_tokens _).1 member⟩
  · rintro ⟨other, otherLexes, dice, written, selects⟩
    rw [lexes.unique otherLexes]
    exact (other.select_mem_tokens _).2 ⟨dice, written, selects⟩

end Tabletop.Notation
