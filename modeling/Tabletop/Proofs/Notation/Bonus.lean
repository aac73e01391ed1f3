/-
This file proves that a bonus behind a notation is added to what the notation rolls.

A bonus is a sign and a numeral. No lexeme reaches over the sign, and the sign is the operator of a sum. So the whole
notation in front of it is the left operand, whatever the notation ends in.
-/

import Tabletop.Notation.Bonus
import Tabletop.Proofs.Notation.Maximum
import Tabletop.Proofs.Notation.Spelling

namespace Tabletop.Notation

open Number Text

variable {bonus : Int} {expression : String} {expr : Expr} {mode : Mode} {faces : Faces}

/-! The tokens of a bonus -/

/-- What the sign of a bonus does to the number behind it. -/
def bonusOperation (bonus : Int) : Operation :=
  if 0 < bonus then .add else .subtract

theorem level_bonusOperation (bonus : Int) : (bonusOperation bonus).level = 1 := by
  unfold bonusOperation
  split <;> rfl

/-- The sign and the numeral of a bonus. -/
def bonusText (bonus : Int) : List Char :=
  (bonusOperation bonus).token.text ++ writeNat bonus.natAbs

theorem toList_withBonus (nonzero : bonus ≠ 0) :
    (withBonus expression bonus).toList = expression.toList ++ bonusText bonus := by
  rw [withBonus, if_neg nonzero, bonusText, bonusOperation]
  split
  · next positive =>
    have unsigned : writeInt bonus = writeNat bonus.natAbs := if_neg (Int.not_lt.2 (Int.le_of_lt positive))
    simp only [String.toList_append, List.append_assoc, intText, unsigned, String.toList_ofList]
    rfl
  · next negative =>
    have signed : writeInt bonus = '-' :: writeNat bonus.natAbs := if_pos (by omega)
    simp only [String.toList_append, intText, signed, String.toList_ofList]
    rfl

variable {lexeme text behind : List Char} {token : Token} {tokens more : List Token} {sign : Char}

theorem Spells.length_of_sign (spells : Spells lexeme token) (isSign : sign ∈ ['+', '-']) (member : sign ∈ lexeme) :
    lexeme.length = 1 := by
  simp only [List.mem_cons, List.not_mem_nil, or_false] at isSign
  cases spells with
  | number digit digits all =>
      have digit := all sign member
      rcases isSign with rfl | rfl <;> cases digit
  | symbol listed =>
      have plus : ∀ symbol ∈ symbols, '+' ∈ symbol.1 → symbol.1.length = 1 := by decide
      have minus : ∀ symbol ∈ symbols, '-' ∈ symbol.1 → symbol.1.length = 1 := by decide
      rcases isSign with rfl | rfl
      · exact plus _ listed member
      · exact minus _ listed member

/-- No lexeme reaches over a sign. -/
theorem IsLongest.append (longest : IsLongest lexeme text) (some : text ≠ []) (isSign : sign ∈ ['+', '-']) :
    IsLongest lexeme (text ++ sign :: behind) := by
  intro other token spells starts
  obtain ⟨tail, whole⟩ := starts
  rcases List.append_eq_append_iff.1 whole with ⟨rest, rfl, _⟩ | ⟨reach, rfl, same⟩
  · exact longest other token spells (List.prefix_append _ _)
  · cases reach with
    | nil => exact longest _ token spells (by simp)
    | cons char reach =>
        obtain ⟨rfl, _⟩ := List.cons.inj same
        have short := spells.length_of_sign isSign (by simp)
        have positive := List.length_pos_iff.2 some
        rw [List.length_append, List.length_cons] at short
        omega

/-- A text and what begins with a sign behind it fall into tokens one after the other. -/
theorem Lexes.append (lexes : Lexes text tokens) (isSign : sign ∈ ['+', '-'])
    (others : Lexes (sign :: behind) more) : Lexes (text ++ sign :: behind) (tokens ++ more) := by
  induction lexes with
  | done => exact others
  | blank isBlank _ inductionHypothesis => exact .blank isBlank inductionHypothesis
  | @token lexeme rest token _ spells longest fits _ inductionHypothesis =>
      have extended : IsLongest lexeme (lexeme ++ rest ++ sign :: behind) :=
        longest.append (List.append_ne_nil_of_left_ne_nil spells.ne_nil rest) isSign
      rw [List.append_assoc] at extended ⊢
      exact .token spells extended fits inductionHypothesis

theorem spelled_bonusText (fits : bonus.natAbs < 2 ^ 64) :
    Spelled (bonusText bonus) [(bonusOperation bonus).token, .int bonus.natAbs] := by
  have fitting : ∀ token ∈ [(bonusOperation bonus).token, .int bonus.natAbs],
      ∀ value, token = .int value → value < 2 ^ 64 := by
    refine List.forall_mem_cons.2 ⟨fun value same => ?_, List.forall_mem_singleton.2 fun value same => ?_⟩
    · have other := (bonusOperation bonus).isInt_token
      rw [same] at other
      cases other
    · cases same
      exact fits
  have spelled := spelled_text fitting
  rwa [List.flatMap_cons, List.flatMap_singleton] at spelled

theorem lexes_bonusText (fits : bonus.natAbs < 2 ^ 64) :
    Lexes (bonusText bonus) [(bonusOperation bonus).token, .int bonus.natAbs] :=
  (spelled_bonusText fits).lexes
    (List.isChain_cons.2 ⟨fun _ _ => .inl (bonusOperation bonus).isInt_token, List.isChain_singleton _⟩)

theorem bonusText_starts (bonus : Int) : ∃ sign ∈ ['+', '-'], ∃ digits, bonusText bonus = sign :: digits := by
  unfold bonusText bonusOperation
  split
  · exact ⟨'+', by decide, _, rfl⟩
  · exact ⟨'-', by decide, _, rfl⟩

/-! The sum of a notation and a bonus -/

namespace Derivation

variable {level : Nat} {operation : Operation} {fits : operation.level = level}
  {operand : Derivation (.ofLevel level)}

/-- One more operation behind the others. -/
def snoc (operation : Operation) (fits : operation.level = level) (operand : Derivation (.ofLevel level)) :
    Derivation (.others level) → Derivation (.others level)
  | .none => .more operation fits operand .none
  | .more first firstFits firstOperand others =>
    .more first firstFits firstOperand (snoc operation fits operand others)

theorem tokens_snoc : (others : Derivation (.others level)) →
    (snoc operation fits operand others).tokens = others.tokens ++ operation.token :: operand.tokens
  | .none => by simp [snoc, tokens]
  | .more first firstFits firstOperand others => by simp [snoc, tokens, tokens_snoc others]

theorem tree_snoc (left : Expr) : (others : Derivation (.others level)) →
    (snoc operation fits operand others).tree left = .binary (others.tree left) operation operand.tree
  | .none => by simp [snoc, tree]
  | .more first _ firstOperand others => by
    rw [snoc, tree, tree]
    exact tree_snoc (.binary left first firstOperand.tree) others

theorem legal_snoc : (others : Derivation (.others level)) →
    ((snoc operation fits operand others).Legal ↔ others.Legal ∧ operand.Legal)
  | .none => by
    rw [snoc]
    exact and_comm
  | .more _ _ firstOperand others => by
    rw [snoc]
    change firstOperand.Legal ∧ (snoc operation fits operand others).Legal ↔
      (firstOperand.Legal ∧ others.Legal) ∧ operand.Legal
    rw [legal_snoc others, and_assoc]

theorem nesting_snoc : (others : Derivation (.others level)) →
    (snoc operation fits operand others).nesting = max others.nesting operand.nesting
  | .none => by simp [snoc, nesting]
  | .more first firstFits firstOperand others => by simp [snoc, nesting, nesting_snoc others, Nat.max_assoc]

/-- A derivation with a bonus behind it. -/
def withBonus (bonus : Int) : Derivation (.ofLevel 2) → Derivation (.ofLevel 2)
  | .chain first others =>
    .chain first (snoc (bonusOperation bonus) (level_bonusOperation bonus)
      (.chain (.plain (.constant bonus.natAbs)) .none) others)

theorem tokens_withBonus (bonus : Int) (derivation : Derivation (.ofLevel 2)) :
    (derivation.withBonus bonus).tokens =
      derivation.tokens ++ [(bonusOperation bonus).token, .int bonus.natAbs] := by
  cases derivation with
  | chain first others => simp [withBonus, tokens, tokens_snoc]

theorem tree_withBonus (bonus : Int) (derivation : Derivation (.ofLevel 2)) :
    (derivation.withBonus bonus).tree =
      .binary derivation.tree (bonusOperation bonus) (.constant bonus.natAbs) := by
  cases derivation with
  | chain first others => exact tree_snoc first.tree others

theorem legal_withBonus (bonus : Int) (derivation : Derivation (.ofLevel 2)) :
    (derivation.withBonus bonus).Legal ↔ derivation.Legal ∧ bonus.natAbs < 2 ^ 63 := by
  cases derivation with
  | chain first others =>
      have constant : (chain (.plain (.constant bonus.natAbs)) .none : Derivation (.ofLevel 1)).Legal ↔
          bonus.natAbs < 2 ^ 63 := and_iff_left trivial
      change first.Legal ∧ (snoc _ _ _ others).Legal ↔ (first.Legal ∧ others.Legal) ∧ _
      rw [legal_snoc, constant, and_assoc]

theorem nesting_withBonus (bonus : Int) (derivation : Derivation (.ofLevel 2)) :
    (derivation.withBonus bonus).nesting = derivation.nesting := by
  cases derivation with
  | chain first others => simp [withBonus, nesting, nesting_snoc]

end Derivation

/-- A bonus behind a notation makes it a sum, whatever the notation ends in. It only has to be short enough and its
number within the limit of constants. -/
theorem parse_withBonus (parsed : parse expression.toList = .ok expr) (nonzero : bonus ≠ 0)
    (fits : bonus.natAbs < 2 ^ 64) {tree : Expr} :
    parse (withBonus expression bonus).toList = .ok tree ↔
      byteLength (withBonus expression bonus).toList ≤ 512 ∧ bonus.natAbs < 2 ^ 63 ∧
        .binary expr (bonusOperation bonus) (.constant bonus.natAbs) = tree := by
  obtain ⟨_, _, lexes, parsedTokens⟩ := parse_eq_ok.1 parsed
  obtain ⟨derivation, rfl, legal, few, rfl⟩ := parseTokens_eq_ok.1 parsedTokens
  obtain ⟨sign, isSign, digits, starts⟩ := bonusText_starts bonus
  have bonusLexes := lexes_bonusText fits
  have whole : Lexes ((withBonus expression bonus).toList.map Char.toLower) (derivation.withBonus bonus).tokens := by
    rw [toList_withBonus nonzero, List.map_append, (spelled_bonusText fits).toLower_eq, derivation.tokens_withBonus]
    rw [starts] at bonusLexes ⊢
    exact lexes.append isSign bonusLexes
  have same := derivation.tree_withBonus bonus
  constructor
  · intro read
    obtain ⟨short, tokens, readLexes, readTokens⟩ := parse_eq_ok.1 read
    obtain ⟨other, rfl, otherLegal, _, rfl⟩ := parseTokens_eq_ok.1 readTokens
    obtain ⟨rfl, _⟩ := Derivation.unique ends_nil ends_nil (congrArg (· ++ []) (readLexes.unique whole))
    exact ⟨short, ((derivation.legal_withBonus bonus).1 otherLegal).2, same.symm⟩
  · rintro ⟨short, small, rfl⟩
    have derived := (derivation.legal_withBonus bonus).2 ⟨legal, small⟩
    refine parse_eq_ok.2 ⟨short, _, whole, parseTokens_eq_ok.2 ⟨_, rfl, derived, ?_, same⟩⟩
    rwa [derivation.nesting_withBonus]

/-! Rolling -/

theorem apply_bonusOperation (bonus total : Int) :
    (bonusOperation bonus).apply total bonus.natAbs = exact (total + bonus) := by
  unfold bonusOperation
  split
  · next positive =>
    have value : total + (bonus.natAbs : Int) = total + bonus := by omega
    exact congrArg exact value
  · next negative =>
    have value : total - (bonus.natAbs : Int) = total + bonus := by omega
    exact congrArg exact value

/-- How a roll ends beside one with a bonus on it. Both throw the same dice, and they fail alike. Otherwise the one is
the other with the bonus added, unless this leaves 64 bits. -/
inductive Raised (bonus : Int) : Except Error Result × Faces → Except Error Result × Faces → Prop where
  | failed {error : Error} {faces : Faces} : Raised bonus (.error error, faces) (.error error, faces)
  | sum {plain raised : Result} {faces : Faces} (fits : isWord (plain.total + bonus) = true)
      (total : raised.total = plain.total + bonus) (dice : raised.dice = plain.dice) :
      Raised bonus (.ok plain, faces) (.ok raised, faces)
  | overflow {plain : Result} {faces : Faces} (leaves : isWord (plain.total + bonus) = false) :
      Raised bonus (.ok plain, faces) (.error .overflow, faces)

theorem roll_withBonus (parsed : parse expression.toList = .ok expr) (nonzero : bonus ≠ 0)
    (small : bonus.natAbs < 2 ^ 63) (short : byteLength (withBonus expression bonus).toList ≤ 512) (mode : Mode)
    (faces : Faces) : Raised bonus (roll expression mode faces) (roll (withBonus expression bonus) mode faces) := by
  have parsedSum := (parse_withBonus parsed nonzero (by omega)).2 ⟨short, small, rfl⟩
  rw [roll_of_parse parsed, roll_of_parse parsedSum]
  rcases rolled : expr.roll mode faces with ⟨error | outcome, after⟩
  · have failed : (Expr.binary expr (bonusOperation bonus) (.constant bonus.natAbs)).roll mode faces =
        (.error error, after) := by
      unfold Expr.roll
      exact rolling_bind_error rolled
    rw [failed]
    exact .failed
  · have constant : (Expr.constant bonus.natAbs).roll mode after =
        (.ok ⟨bonus.natAbs, writeNat bonus.natAbs, []⟩, after) := rfl
    unfold Expr.roll
    rw [rolling_bind_ok rolled, rolling_bind_ok constant, rolling_map]
    simp only [apply_bonusOperation]
    unfold exact
    cases fits : isWord (outcome.total + bonus) with
    | true => exact .sum fits rfl (List.append_nil _)
    | false => exact .overflow fits

end Tabletop.Notation
