/-
This file proves that the working of a notation without dice is the notation in another spelling.

Nothing but the spelling changes: each run of signs shrinks to at most one minus sign, and numbers lose the zeros in
front of them. Parentheses are those of the notation, and the tree needs no others.
-/

import Mathlib.Data.List.Flatten
import Tabletop.Proofs.Notation.Selectors
import Tabletop.Proofs.Notation.Spelling

namespace Tabletop.Notation

open Number Text

variable {lexeme text : List Char} {token : Token} {tokens : List Token} {expr : Expr} {level : Nat}

/-! The tokens of a tree -/

/-- A tree without dice has these tokens. -/
inductive Expr.HasTokens : Expr → List Token → Prop where
  | constant {value : Nat} : HasTokens (.constant value) [.int value]
  | negate {inner : Expr} {tokens : List Token} (innerHas : HasTokens inner tokens) :
      HasTokens (.negate inner) (.minus :: tokens)
  | group {inner : Expr} {tokens : List Token} (innerHas : HasTokens inner tokens) :
      HasTokens (.group inner) (.leftParen :: tokens ++ [.rightParen])
  | binary {left right : Expr} {operation : Operation} {leftTokens rightTokens : List Token}
      (leftHas : HasTokens left leftTokens) (rightHas : HasTokens right rightTokens) :
      HasTokens (.binary left operation right) (leftTokens ++ operation.token :: rightTokens)

/-- A tree without dice comes to the same result in all modes and takes no faces. Its working spells its tokens. -/
theorem Expr.HasTokens.roll (has : expr.HasTokens tokens) : ∃ total : Except Error Int, ∀ mode faces,
    expr.roll mode faces = (total.map fun total => ⟨total, tokens.flatMap Token.text, []⟩, faces) := by
  induction has with
  | @constant value =>
      refine ⟨.ok value, fun mode faces => ?_⟩
      rw [List.flatMap_singleton]
      rfl
  | @negate inner tokens _ inductionHypothesis =>
      obtain ⟨total, rolls⟩ := inductionHypothesis
      refine ⟨total >>= fun total => exact (-total), fun mode faces => ?_⟩
      unfold Expr.roll
      cases total with
      | error error => exact rolling_bind_error (rolls mode faces)
      | ok total =>
          rw [rolling_bind_ok (rolls mode faces), rolling_map]
          rfl
  | @group inner tokens _ inductionHypothesis =>
      obtain ⟨total, rolls⟩ := inductionHypothesis
      refine ⟨total, fun mode faces => ?_⟩
      unfold Expr.roll
      rw [rolling_map, rolls]
      cases total with
      | error error => rfl
      | ok total => simp [Except.map, Token.text]
  | @binary left right operation leftTokens rightTokens _ _ leftHypothesis rightHypothesis =>
      obtain ⟨leftTotal, leftRolls⟩ := leftHypothesis
      obtain ⟨rightTotal, rightRolls⟩ := rightHypothesis
      refine ⟨leftTotal >>= fun left => rightTotal >>= fun right => operation.apply left right, fun mode faces => ?_⟩
      unfold Expr.roll
      cases leftTotal with
      | error error => exact rolling_bind_error (leftRolls mode faces)
      | ok left =>
          rw [rolling_bind_ok (leftRolls mode faces)]
          cases rightTotal with
          | error error => exact rolling_bind_error (rightRolls mode faces)
          | ok right =>
              rw [rolling_bind_ok (rightRolls mode faces), rolling_map, List.flatMap_append, List.flatMap_cons,
                ← List.append_assoc]
              rfl

/-! Signs -/

namespace Derivation

/-- An operand with a minus sign in front. It takes the place of the sign that is there. -/
def opposite : Derivation (.ofLevel 0) → Derivation (.ofLevel 0)
  | .plain operand => .signed .minus (.plain operand)
  | .signed .plus operand => .signed .minus operand
  | .signed .minus operand => operand

/-- Each run of signs becomes at most one minus sign. -/
def folded : {phrase : Phrase} → Derivation phrase → Derivation phrase
  | _, .constant value => .constant value
  | _, .dice count sides modifiers => .dice count sides modifiers
  | _, .group inner => .group inner.folded
  | _, .plain operand => .plain operand.folded
  | _, .signed .plus operand => operand.folded
  | _, .signed .minus operand => operand.folded.opposite
  | _, .chain first others => .chain first.folded others.folded
  | _, .none => .none
  | _, .more operation fits operand others => .more operation fits operand.folded others.folded

theorem tokens_opposite (operand : Derivation (.ofLevel 0)) :
    operand.opposite.tokens.Sublist (.minus :: operand.tokens) := by
  cases operand with
  | plain operand => exact List.Sublist.refl _
  | signed sign operand =>
      cases sign with
      | plus => exact (List.sublist_cons_self _ _).cons_cons _
      | minus => exact (List.sublist_cons_self _ _).cons _

theorem legal_opposite (operand : Derivation (.ofLevel 0)) : operand.opposite.Legal ↔ operand.Legal := by
  cases operand with
  | plain operand => rfl
  | signed sign operand => cases sign <;> rfl

theorem nesting_opposite (operand : Derivation (.ofLevel 0)) : operand.opposite.nesting = operand.nesting := by
  cases operand with
  | plain operand => rfl
  | signed sign operand => cases sign <;> rfl

theorem opposite_primary (operand : Derivation .primary) : operand.tree.opposite = .negate operand.tree := by
  cases operand <;> rfl

/-- No operand has two negations in a row. -/
theorem opposite_opposite (operand : Derivation (.ofLevel 0)) : operand.tree.opposite.opposite = operand.tree := by
  obtain ⟨signs, operand, rfl⟩ := operand.exists_withSigns
  rw [tree_withSigns]
  split
  · exact opposite_primary operand
  · rw [opposite_primary]
    rfl

theorem tree_opposite (operand : Derivation (.ofLevel 0)) : operand.opposite.tree = operand.tree.opposite := by
  cases operand with
  | plain operand => rfl
  | signed sign operand =>
      cases sign with
      | plus => rfl
      | minus => exact (opposite_opposite operand).symm

variable {phrase : Phrase}

/-- Signs are left out, and nothing is put in. -/
theorem tokens_folded (derivation : Derivation phrase) : derivation.folded.tokens.Sublist derivation.tokens := by
  induction derivation with
  | constant value => exact List.Sublist.refl _
  | dice count sides modifiers => exact List.Sublist.refl _
  | group inner inductionHypothesis => exact (inductionHypothesis.append (List.Sublist.refl _)).cons_cons _
  | plain operand inductionHypothesis => exact inductionHypothesis
  | signed sign operand inductionHypothesis =>
      cases sign with
      | plus => exact inductionHypothesis.cons _
      | minus => exact (tokens_opposite operand.folded).trans (inductionHypothesis.cons_cons _)
  | chain first others firstHypothesis othersHypothesis => exact firstHypothesis.append othersHypothesis
  | none => exact List.Sublist.refl _
  | more operation fits operand others operandHypothesis othersHypothesis =>
      exact (operandHypothesis.append othersHypothesis).cons_cons _

theorem tree_folded (derivation : Derivation phrase) : derivation.folded.tree = derivation.tree := by
  induction derivation with
  | constant value => rfl
  | dice count sides modifiers => rfl
  | group inner inductionHypothesis => exact congrArg Expr.group inductionHypothesis
  | plain operand inductionHypothesis => exact inductionHypothesis
  | signed sign operand inductionHypothesis =>
      cases sign with
      | plus => exact inductionHypothesis
      | minus => exact (tree_opposite operand.folded).trans (congrArg Expr.opposite inductionHypothesis)
  | chain first others firstHypothesis othersHypothesis =>
      simp only [folded, tree, firstHypothesis, othersHypothesis]
  | none => rfl
  | more operation fits operand others operandHypothesis othersHypothesis =>
      simp only [folded, tree, operandHypothesis, othersHypothesis]

theorem legal_folded (derivation : Derivation phrase) : derivation.folded.Legal ↔ derivation.Legal := by
  induction derivation with
  | constant value => rfl
  | dice count sides modifiers => rfl
  | group inner inductionHypothesis => exact inductionHypothesis
  | plain operand inductionHypothesis => exact inductionHypothesis
  | signed sign operand inductionHypothesis =>
      cases sign with
      | plus => exact inductionHypothesis
      | minus => exact (legal_opposite operand.folded).trans inductionHypothesis
  | chain first others firstHypothesis othersHypothesis => exact and_congr firstHypothesis othersHypothesis
  | none => rfl
  | more operation fits operand others operandHypothesis othersHypothesis =>
      exact and_congr operandHypothesis othersHypothesis

theorem nesting_folded (derivation : Derivation phrase) : derivation.folded.nesting = derivation.nesting := by
  induction derivation with
  | constant value => rfl
  | dice count sides modifiers => rfl
  | group inner inductionHypothesis => exact congrArg (· + 1) inductionHypothesis
  | plain operand inductionHypothesis => exact inductionHypothesis
  | signed sign operand inductionHypothesis =>
      cases sign with
      | plus => exact inductionHypothesis
      | minus => exact (nesting_opposite operand.folded).trans inductionHypothesis
  | chain first others firstHypothesis othersHypothesis => exact congrArg₂ max firstHypothesis othersHypothesis
  | none => rfl
  | more operation fits operand others operandHypothesis othersHypothesis =>
      exact congrArg₂ max operandHypothesis othersHypothesis

/-- At most one sign is left. -/
theorem folded_cases : (operand : Derivation (.ofLevel 0)) →
    (∃ primary, operand.folded = .plain primary) ∨ ∃ primary, operand.folded = .signed .minus (.plain primary)
  | .plain operand => .inl ⟨operand.folded, rfl⟩
  | .signed .plus operand => folded_cases operand
  | .signed .minus operand => by
    rcases folded_cases operand with ⟨primary, same⟩ | ⟨primary, same⟩
    · exact .inr ⟨primary, by rw [folded, same, opposite]⟩
    · exact .inl ⟨primary, by rw [folded, same, opposite]⟩

end Derivation

/-- A tree has these tokens. Others add theirs to those of the left operand. -/
def Phrase.HasTokens (tokens : List Token) : (phrase : Phrase) → phrase.Tree → Prop
  | .primary => fun expr => expr.HasTokens tokens
  | .ofLevel _ => fun expr => expr.HasTokens tokens
  | .others _ => fun join => ∀ left leftTokens, Expr.HasTokens left leftTokens →
      (join left).HasTokens (leftTokens ++ tokens)

/-- The tree of a notation without dice has its tokens, but for signs that cancel. -/
theorem Derivation.hasTokens_folded {phrase : Phrase} (derivation : Derivation phrase)
    (diceless : derivation.written = []) : phrase.HasTokens derivation.folded.tokens derivation.folded.tree := by
  induction derivation with
  | constant value => exact .constant
  | dice count sides modifiers => cases diceless
  | group inner inductionHypothesis => exact .group (inductionHypothesis diceless)
  | plain operand inductionHypothesis => exact inductionHypothesis diceless
  | signed sign operand inductionHypothesis =>
      have has : operand.folded.tree.HasTokens operand.folded.tokens := inductionHypothesis diceless
      cases sign with
      | plus => exact has
      | minus =>
          change operand.folded.opposite.tree.HasTokens operand.folded.opposite.tokens
          rcases operand.folded_cases with ⟨primary, same⟩ | ⟨primary, same⟩
          · rw [same] at has ⊢
            rw [tree_opposite, tree, opposite_primary]
            exact .negate has
          · rw [same, tree, tree, opposite_primary] at has
            rw [same]
            cases has with
            | negate primaryHas => exact primaryHas
  | chain first others firstHypothesis othersHypothesis =>
      obtain ⟨firstDiceless, othersDiceless⟩ := List.append_eq_nil_iff.1 diceless
      exact othersHypothesis othersDiceless _ _ (firstHypothesis firstDiceless)
  | none =>
      intro left leftTokens leftHas
      rw [folded, tokens, List.append_nil]
      exact leftHas
  | more operation fits operand others operandHypothesis othersHypothesis =>
      obtain ⟨operandDiceless, othersDiceless⟩ := List.append_eq_nil_iff.1 diceless
      intro left leftTokens leftHas
      have joined : Expr.HasTokens (.binary left operation operand.folded.tree)
          (leftTokens ++ operation.token :: operand.folded.tokens) :=
        .binary leftHas (operandHypothesis operandDiceless)
      have has := othersHypothesis othersDiceless _ _ joined
      rw [List.append_assoc] at has
      exact has

/-! Tokens as text -/

theorem Lexes.fits (lexes : Lexes text tokens) : ∀ token ∈ tokens, ∀ value, token = .int value → value < 2 ^ 64 := by
  induction lexes with
  | done => exact fun token member => absurd member List.not_mem_nil
  | blank _ _ inductionHypothesis => exact inductionHypothesis
  | token _ _ fits _ inductionHypothesis => exact List.forall_mem_cons.2 ⟨fits, inductionHypothesis⟩

/-- Only the short form of a selector is shorter than the token as text. -/
theorem Spells.length_text (spells : Spells lexeme token) (other : token ≠ .select .keepHighest) :
    token.text.length ≤ lexeme.length := by
  cases spells with
  | number digit digits all => exact (Nat.length_toDigits_le_iff (by decide) (by simp)).2 (natOfDigits_lt all)
  | symbol listed =>
      have all : ∀ symbol ∈ symbols, symbol.2 ≠ .select .keepHighest → symbol.2.text.length ≤ symbol.1.length := by
        decide
      exact all _ listed other

theorem Lexes.length_text (lexes : Lexes text tokens) (absent : .select .keepHighest ∉ tokens) :
    (tokens.flatMap Token.text).length ≤ text.length := by
  induction lexes with
  | done => exact Nat.le_refl 0
  | blank _ _ inductionHypothesis => exact Nat.le_succ_of_le (inductionHypothesis absent)
  | token spells _ _ _ inductionHypothesis =>
      obtain ⟨other, absentLater⟩ := not_or.1 (mt List.mem_cons.2 absent)
      rw [List.flatMap_cons, List.length_append, List.length_append]
      exact Nat.add_le_add (spells.length_text (Ne.symm other)) (inductionHypothesis absentLater)

/-! Notations without dice -/

theorem Expr.terms_of_diceless (diceless : expr.hasDice = false) : expr.terms = [] := by
  induction expr with
  | constant value => rfl
  | dice term => cases diceless
  | negate inner inductionHypothesis => exact inductionHypothesis diceless
  | group inner inductionHypothesis => exact inductionHypothesis diceless
  | binary left operation right leftHypothesis rightHypothesis =>
      obtain ⟨leftDiceless, rightDiceless⟩ := Bool.or_eq_false_iff.1 diceless
      rw [terms, leftHypothesis leftDiceless, rightHypothesis rightDiceless, List.append_nil]

/-- A notation without dice is read back from the tokens of its tree. -/
theorem parse_tokens (parsed : parse text = .ok expr) (diceless : expr.hasDice = false) :
    ∃ tokens, expr.HasTokens tokens ∧ Spelled (tokens.flatMap Token.text) tokens ∧
      parse (tokens.flatMap Token.text) = .ok expr := by
  obtain ⟨short, _, lexes, parsedTokens⟩ := parse_eq_ok.1 parsed
  obtain ⟨derivation, rfl, legal, few, rfl⟩ := parseTokens_eq_ok.1 parsedTokens
  have written : derivation.written = [] := by
    have terms : derivation.tree.terms = derivation.written.map WrittenDice.term := derivation.tree_terms
    rw [Expr.terms_of_diceless diceless] at terms
    exact List.map_eq_nil_iff.1 terms.symm
  have has : derivation.folded.tree.HasTokens derivation.folded.tokens := derivation.hasTokens_folded written
  have inside := derivation.tokens_folded
  have spelled := spelled_text fun token member => lexes.fits token (inside.subset member)
  refine ⟨_, derivation.tree_folded ▸ has, spelled, parse_eq_ok.2 ⟨?_, derivation.folded.tokens, ?_, ?_⟩⟩
  · -- No token as text is longer than its lexeme, since there are no selectors.
    have absent : Token.select .keepHighest ∉ derivation.tokens := by
      rw [derivation.select_mem_tokens, written]
      simp
    have shorter := (inside.flatMap Token.text).length_le
    have within := lexes.length_text absent
    have bytes := length_le_byteLength text
    rw [List.length_map] at within
    rw [spelled.byteLength_eq]
    omega
  · rw [spelled.toLower_eq]
    exact spelled.lexes derivation.folded.tokens_apart
  · refine parseTokens_eq_ok.2 ⟨derivation.folded, rfl, derivation.legal_folded.2 legal, ?_, derivation.tree_folded⟩
    rwa [derivation.nesting_folded]

/-- The working of a notation without dice is read as the same tree, and rolling it gives the same result with the
working for the notation, in every mode and for all faces. -/
theorem roll_working {text : String} {mode : Mode} {faces rest : Faces} {result : Result}
    (parsed : parse text.toList = .ok expr) (diceless : expr.hasDice = false)
    (rolled : roll text mode faces = (.ok result, rest)) :
    parse result.working.toList = .ok expr ∧
      ∀ mode faces, roll result.working mode faces = (.ok { result with written := result.working }, faces) := by
  obtain ⟨tokens, has, spelled, parsedTokens⟩ := parse_tokens parsed diceless
  obtain ⟨total, rolls⟩ := has.roll
  rw [roll_of_parse parsed, rolls] at rolled
  cases total with
  | error error => cases rolled
  | ok total =>
      cases rolled
      have working : (String.ofList (tokens.flatMap Token.text)).toList = tokens.flatMap Token.text :=
        String.toList_ofList
      have parsedWorking : parse (String.ofList (tokens.flatMap Token.text)).toList = .ok expr := by
        rwa [working]
      refine ⟨parsedWorking, fun mode faces => ?_⟩
      rw [roll_of_parse parsedWorking, rolls, working, spelled.squeeze_eq]
      rfl

/-- A minus sign of a constant stays behind the one of a difference. -/
theorem roll_working_signs :
    let text := "--007 x (+-+1 - -02) / 3"
    let working := "7*(-1--2)/3"
    let expr : Expr := .binary (.binary (.constant 7) .multiply
      (.group (.binary (.negate (.constant 1)) .subtract (.negate (.constant 2))))) .divide (.constant 3)
    parse text.toList = .ok expr ∧ expr.hasDice = false ∧
      ∃ rest, roll text .random (.constant 1) = (.ok ⟨"--007x(+-+1--02)/3", working, 2, []⟩, rest) ∧
        parse working.toList = .ok expr ∧
        ∀ mode faces, roll working mode faces = (.ok ⟨working, working, 2, []⟩, faces) := by
  intro text working expr
  have parsed : parse text.toList = .ok expr := by decide +kernel
  have diceless : expr.hasDice = false := by decide
  have shows : (roll text .random (.constant 1)).1.toOption = some ⟨"--007x(+-+1--02)/3", working, 2, []⟩ := by
    decide +kernel
  rcases rolled : roll text .random (.constant 1) with ⟨result, rest⟩
  rw [rolled] at shows
  obtain rfl := toOption_eq_some.1 shows
  obtain ⟨same, again⟩ := roll_working parsed diceless rolled
  exact ⟨parsed, diceless, rest, rfl, same, again⟩

end Tabletop.Notation
