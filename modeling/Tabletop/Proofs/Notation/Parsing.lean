/-
This file proves that exactly the derived tokens are read as dice notation.

Each reader reads the derivations of its phrase that are legal and whose groups have room, and what it builds is
their tree.
-/

import Tabletop.Proofs.Chain
import Tabletop.Proofs.Notation.Grammar
import Tabletop.Proofs.Notation.Lexing

namespace Tabletop.Notation

/-- A reader reads what is derived from a phrase with fewer groups around one place than there is room for. -/
structure Reads (phrase : Phrase) (reader : TokenReader Token Error phrase.Tree) (room : Nat) : Prop where
  sound : ∀ {tokens tree rest}, reader tokens = .ok (tree, rest) → ∃ derivation : Derivation phrase,
    derivation.tokens ++ rest = tokens ∧ derivation.Legal ∧ derivation.nesting < room ∧ derivation.tree = tree
  complete : ∀ (derivation : Derivation phrase) (rest : List Token), derivation.Legal → derivation.nesting < room →
    Ends phrase.ending rest → reader (derivation.tokens ++ rest) = .ok (derivation.tree, rest)

variable {room level count : Nat} {tokens rest : List Token} {tree : Expr} {nested operand : Parser}

/-- A selection without a number behind it selects one die. -/
theorem modifiers_select {term : DiceTerm} {selection : Selection}
    (noInt : ∀ value more, rest ≠ .int value :: more) :
    modifiers term (.select selection :: rest) = modifiers { term with selector := some ⟨selection, 1⟩ } rest := by
  cases rest with
  | nil => rfl
  | cons token more =>
      cases token with
      | int value => exact absurd rfl (noInt value more)
      | _ => rfl

theorem modifiers_complete (list : List Modifier) (term : DiceTerm) (ends : Ends 0 rest) :
    modifiers term (list.flatMap Modifier.tokens ++ rest) = (list.foldl Modifier.apply term, rest) := by
  induction list generalizing term with
  | nil =>
      change modifiers term rest = (term, rest)
      cases rest with
      | nil => rfl
      | cons token rest =>
          have head := ends.head
          simp only [List.mem_cons, List.not_mem_nil, or_false] at head
          rcases head with rfl | rfl | rfl | rfl | rfl <;> rfl
  | cons modifier others inductionHypothesis =>
      have noInt := modifiers_start others ends
      rw [List.flatMap_cons, List.append_assoc, List.foldl_cons, ← inductionHypothesis]
      cases modifier with
      | explode => rfl
      | select selection count =>
          cases count with
          | some count => rfl
          | none => exact modifiers_select noInt

theorem modifiers_sound (term : DiceTerm) (tokens : List Token) : ∃ list : List Modifier,
    list.flatMap Modifier.tokens ++ (modifiers term tokens).2 = tokens ∧
      list.foldl Modifier.apply term = (modifiers term tokens).1 := by
  fun_induction modifiers term tokens with
  | case1 term rest inductionHypothesis =>
      obtain ⟨list, same, applied⟩ := inductionHypothesis
      exact ⟨.explode :: list, congrArg _ same, applied⟩
  | case2 term selection count rest inductionHypothesis =>
      obtain ⟨list, same, applied⟩ := inductionHypothesis
      exact ⟨.select selection (some count) :: list, congrArg _ (congrArg _ same), applied⟩
  | case3 term selection rest _ inductionHypothesis =>
      obtain ⟨list, same, applied⟩ := inductionHypothesis
      exact ⟨.select selection none :: list, congrArg _ same, applied⟩
  | case4 => exact ⟨[], rfl, rfl⟩

theorem diceBehind_sides (count : Nat) (sides : Sides) (tokens : List Token) :
    diceBehind count (sides.token :: tokens) =
      if maxDice < count then .error (.tooManyDice count)
      else if sides.value = 0 ∨ maxSides < sides.value then .error (.invalidSides sides.value)
      else .ok (.dice (modifiers ⟨count, sides.value, none, false⟩ tokens).1,
        (modifiers ⟨count, sides.value, none, false⟩ tokens).2) := by
  cases sides <;> rfl

/-- The sides stand first. -/
theorem diceBehind_starts (read : diceBehind count tokens = .ok (tree, rest)) :
    ∃ (sides : Sides) (others : List Token), sides.token :: others = tokens := by
  unfold diceBehind at read
  split at read
  case isTrue => cases read
  case isFalse =>
    simp only [bind, Except.bind] at read
    split at read
    case h_1 sides others => exact ⟨.number sides, others, rfl⟩
    case h_2 others => exact ⟨.percent, others, rfl⟩
    case h_3 => cases read
    case h_4 => cases read

theorem diceBehind_eq_ok : diceBehind count tokens = .ok (tree, rest) ↔
    ∃ (sides : Sides) (others : List Token), sides.token :: others = tokens ∧
      (count ≤ 1000 ∧ 1 ≤ sides.value ∧ sides.value ≤ 100000) ∧
      .dice (modifiers ⟨count, sides.value, none, false⟩ others).1 = tree ∧
      (modifiers ⟨count, sides.value, none, false⟩ others).2 = rest := by
  constructor
  · intro read
    obtain ⟨sides, others, rfl⟩ := diceBehind_starts read
    rw [diceBehind_sides] at read
    split at read
    case isTrue => cases read
    split at read
    case isTrue => cases read
    case isFalse many legal =>
      cases read
      simp only [maxDice, maxSides] at many legal
      exact ⟨sides, others, rfl, by omega, rfl, rfl⟩
  · rintro ⟨sides, others, rfl, ⟨few, positive, most⟩, rfl, rfl⟩
    have fits : ¬maxDice < count := Nat.not_lt.2 few
    have legal : ¬(sides.value = 0 ∨ maxSides < sides.value) := by
      simp only [maxSides]
      omega
    rw [diceBehind_sides, if_neg fits, if_neg legal]

/-- A number is a constant unless a die stands behind it. -/
theorem primary_constant (value : Nat) (ends : Ends 0 rest) : primary nested (.int value :: rest) =
    if value < constantBound then .ok (.constant value, rest) else .error .overflow := by
  cases rest with
  | nil => rfl
  | cons token rest =>
      have head := ends.head
      simp only [List.mem_cons, List.not_mem_nil, or_false] at head
      rcases head with rfl | rfl | rfl | rfl | rfl <;> rfl

theorem dice_sound (count : Option Nat) (read : diceBehind (count.getD 1) tokens = .ok (tree, rest)) :
    ∃ derivation : Derivation .primary, derivation.tokens ++ rest = count.toList.map .int ++ .die :: tokens ∧
      derivation.Legal ∧ derivation.nesting = 0 ∧ derivation.tree = tree := by
  obtain ⟨sides, others, rfl, legal, rfl, rfl⟩ := diceBehind_eq_ok.1 read
  obtain ⟨list, same, applied⟩ := modifiers_sound ⟨count.getD 1, sides.value, none, false⟩ others
  refine ⟨.dice count sides list, ?_, legal, rfl, congrArg _ applied⟩
  simp only [Derivation.tokens, List.append_assoc, List.cons_append, same]

theorem dice_complete {count : Option Nat} {sides : Sides} {list : List Modifier}
    (legal : (Derivation.dice count sides list).Legal) (ends : Ends 0 rest) :
    diceBehind (count.getD 1) (sides.token :: list.flatMap Modifier.tokens ++ rest) =
      .ok ((Derivation.dice count sides list).tree, rest) := by
  have modified := modifiers_complete list ⟨count.getD 1, sides.value, none, false⟩ ends
  refine diceBehind_eq_ok.2 ⟨sides, list.flatMap Modifier.tokens ++ rest, rfl, legal, ?_, ?_⟩
  · rw [modified]
    rfl
  · rw [modified]

theorem reads_primary (reads : Reads (.ofLevel 2) nested room) : Reads .primary (primary nested) (room + 1) where
  sound := by
    intro tokens tree rest read
    unfold primary at read
    split at read
    case h_1 count behind =>
      obtain ⟨derivation, same, legal, flat, built⟩ := dice_sound (some count) read
      exact ⟨derivation, same, legal, by omega, built⟩
    case h_2 value behind _ =>
      split at read
      case isTrue small =>
        cases read
        exact ⟨.constant value, rfl, small, Nat.succ_pos room, rfl⟩
      case isFalse => cases read
    case h_3 behind =>
      obtain ⟨derivation, same, legal, flat, built⟩ := dice_sound none read
      exact ⟨derivation, same, legal, by omega, built⟩
    case h_4 inside =>
      obtain ⟨⟨inner, after⟩, innerRead, closed⟩ := bind_eq_ok.1 read
      obtain ⟨derivation, rfl, legal, few, rfl⟩ := reads.sound innerRead
      split at closed
      case h_1 inner behind same =>
        cases closed
        cases same
        refine ⟨.group derivation, ?_, legal, Nat.succ_lt_succ few, rfl⟩
        simp [Derivation.tokens]
      case h_2 => cases closed
      case h_3 => cases closed
    case h_5 => cases read
    case h_6 => cases read
  complete := by
    intro derivation rest legal few ends
    cases derivation with
    | constant value =>
        have small : value < constantBound := legal
        change primary nested (.int value :: rest) = _
        rw [primary_constant value ends, if_pos small]
        rfl
    | dice count sides list =>
        have read := dice_complete legal ends
        cases count with
        | none => exact read
        | some count => exact read
    | group inner =>
        have innerFew : inner.nesting < room := Nat.lt_of_succ_lt_succ few
        have innerRead := reads.complete inner (.rightParen :: rest) legal innerFew ends_rightParen
        simp only [Derivation.tokens, List.cons_append, List.append_assoc, List.nil_append, primary]
        rw [innerRead]
        rfl

/-- An operand with signs in front. -/
def Derivation.withSigns (signs : List Sign) (operand : Derivation .primary) : Derivation (.ofLevel 0) :=
  signs.foldr .signed (.plain operand)

theorem Derivation.exists_withSigns : (derivation : Derivation (.ofLevel 0)) →
    ∃ signs operand, withSigns signs operand = derivation
  | .plain operand => ⟨[], operand, rfl⟩
  | .signed sign others => by
    obtain ⟨signs, operand, rfl⟩ := others.exists_withSigns
    exact ⟨sign :: signs, operand, rfl⟩

section Signs

variable (signs : List Sign) (primary : Derivation .primary)

theorem Derivation.tokens_withSigns :
    (withSigns signs primary).tokens = signs.map Sign.token ++ primary.tokens := by
  induction signs with
  | nil => rfl
  | cons sign signs inductionHypothesis => exact congrArg _ inductionHypothesis

theorem Derivation.legal_withSigns : (withSigns signs primary).Legal ↔ primary.Legal := by
  induction signs with
  | nil => rfl
  | cons sign signs inductionHypothesis => exact inductionHypothesis

theorem Derivation.nesting_withSigns : (withSigns signs primary).nesting = primary.nesting := by
  induction signs with
  | nil => rfl
  | cons sign signs inductionHypothesis => exact inductionHypothesis

theorem negates_cons (sign : Sign) (signs : List Token) :
    negates (sign.token :: signs) = match sign with
      | .plus => negates signs
      | .minus => !negates signs := by
  cases sign with
  | plus => rfl
  | minus =>
      simp only [negates, Sign.token, List.count_cons_self, ← decide_not, decide_eq_decide]
      omega

/-- Two minus signs cancel. -/
theorem Derivation.tree_withSigns : (withSigns signs primary).tree =
    if negates (signs.map Sign.token) then .negate primary.tree else primary.tree := by
  induction signs with
  | nil => rfl
  | cons sign signs inductionHypothesis =>
      rw [List.map_cons, negates_cons]
      cases sign with
      | plus => exact inductionHypothesis
      | minus =>
          change (withSigns signs primary).tree.opposite = _
          rw [inductionHypothesis]
          cases negates (signs.map Sign.token) with
          | true => rfl
          | false => cases primary <;> rfl

end Signs

theorem isSign_iff {token : Token} : token.isSign = true ↔ ∃ sign : Sign, sign.token = token := by
  constructor
  · intro isSign
    cases token with
    | plus => exact ⟨.plus, rfl⟩
    | minus => exact ⟨.minus, rfl⟩
    | _ => cases isSign
  · rintro ⟨sign, rfl⟩
    cases sign <;> rfl

theorem exists_signs (tokens : List Token) :
    ∃ signs : List Sign, signs.map Sign.token = tokens.takeWhile Token.isSign := by
  induction tokens with
  | nil => exact ⟨[], rfl⟩
  | cons token tokens inductionHypothesis =>
      by_cases isSign : token.isSign = true
      · obtain ⟨sign, rfl⟩ := isSign_iff.1 isSign
        obtain ⟨signs, same⟩ := inductionHypothesis
        exact ⟨sign :: signs, by rw [List.map_cons, same, List.takeWhile_cons_of_pos isSign]⟩
      · exact ⟨[], by rw [List.takeWhile_cons_of_neg isSign, List.map_nil]⟩

theorem split_signs (tokens : List Token) (signs : List Sign)
    (noSign : ∀ (sign : Sign) (more : List Token), tokens ≠ sign.token :: more) :
    (signs.map Sign.token ++ tokens).takeWhile Token.isSign = signs.map Sign.token ∧
      (signs.map Sign.token ++ tokens).dropWhile Token.isSign = tokens := by
  induction signs with
  | nil =>
      cases tokens with
      | nil => exact ⟨rfl, rfl⟩
      | cons token more =>
          have notSign : ¬token.isSign = true := by
            intro isSign
            obtain ⟨sign, rfl⟩ := isSign_iff.1 isSign
            exact noSign sign more rfl
          exact ⟨List.takeWhile_cons_of_neg notSign, List.dropWhile_cons_of_neg notSign⟩
  | cons sign signs inductionHypothesis =>
      have isSign := isSign_iff.2 ⟨sign, rfl⟩
      rw [List.map_cons, List.cons_append, List.takeWhile_cons_of_pos isSign, List.dropWhile_cons_of_pos isSign]
      exact ⟨congrArg _ inductionHypothesis.1, inductionHypothesis.2⟩

theorem reads_signed (reads : Reads .primary (primary nested) room) : Reads (.ofLevel 0) (signed nested) room where
  sound := by
    intro tokens tree rest read
    obtain ⟨⟨operand, behind⟩, operandRead, finished⟩ := bind_eq_ok.1 read
    cases finished
    obtain ⟨derivation, same, legal, few, rfl⟩ := reads.sound operandRead
    obtain ⟨signs, sameSigns⟩ := exists_signs tokens
    refine ⟨.withSigns signs derivation, ?_, (derivation.legal_withSigns signs).2 legal, ?_, ?_⟩
    · rw [Derivation.tokens_withSigns, List.append_assoc, same, sameSigns, List.takeWhile_append_dropWhile]
    · rwa [Derivation.nesting_withSigns]
    · rw [Derivation.tree_withSigns, sameSigns]
  complete := by
    intro derivation rest legal few ends
    obtain ⟨signs, operand, rfl⟩ := derivation.exists_withSigns
    rw [Derivation.legal_withSigns] at legal
    rw [Derivation.nesting_withSigns] at few
    have operandRead := reads.complete operand rest legal few ends
    obtain ⟨sameSigns, sameTokens⟩ := split_signs (operand.tokens ++ rest) signs operand.primary_start
    rw [Derivation.tokens_withSigns, Derivation.tree_withSigns, List.append_assoc]
    rw [← sameTokens] at operandRead
    exact bind_eq_ok.2 ⟨_, operandRead, by rw [sameSigns]; rfl⟩

/-- A table of operators has exactly the operations of a level. -/
def Tells (operation? : Token → Option Operation) (level : Nat) : Prop :=
  ∀ token operation, operation? token = some operation ↔ operation.token = token ∧ operation.level = level

theorem Tells.stops {operation? : Token → Option Operation} (tells : Tells operation? level)
    (ends : Ends (level + 1) rest) : ∀ token ∈ rest.head?, operation? token = none := by
  refine fun token isHead => Option.eq_none_iff_forall_ne_some.2 fun operation found => ?_
  obtain ⟨rfl, fits⟩ := (tells token operation).1 found
  obtain ⟨more, rfl⟩ := List.head?_eq_some_iff.1 isHead
  have atLeast := ends.le
  omega

theorem Reads.behind {operation? : Token → Option Operation} (tells : Tells operation? level)
    (reads : Reads (.ofLevel level) operand room) : (others : Derivation (.others level)) → ∀ rest : List Token,
      others.Legal → others.nesting < room → Ends (level + 1) rest →
        ReadsBehind operation? .binary operand (others.tokens ++ rest) others.tree rest
  | .none => fun _ _ _ ends => .stop (tells.stops ends)
  | .more operation fits right others => by
    intro rest legal few ends
    obtain ⟨rightFew, othersFew⟩ := Nat.max_lt.1 few
    have found := (tells operation.token operation).2 ⟨rfl, fits⟩
    have rightRead := reads.complete right _ legal.1 rightFew (Derivation.ends_others others ends)
    rw [Derivation.tokens, List.cons_append, List.cons_append, List.append_assoc]
    exact .more found rightRead (by simp) (reads.behind tells others rest legal.2 othersFew ends)

theorem reads_chain {operation? : Token → Option Operation} (tells : Tells operation? level)
    (reads : Reads (.ofLevel level) operand room) :
    Reads (.ofLevel (level + 1)) (chain operation? .binary operand) room where
  sound := by
    intro tokens tree rest read
    obtain ⟨⟨first, behind⟩, firstRead, othersRead⟩ := bind_eq_ok.1 read
    obtain ⟨head, rfl, headLegal, headFew, rfl⟩ := reads.sound firstRead
    let Others (tokens : List Token) (join : Expr → Expr) (rest : List Token) : Prop :=
      ∃ others : Derivation (.others level), others.tokens ++ rest = tokens ∧ others.Legal ∧
        others.nesting < room ∧ others.tree = join
    have stop (tokens : List Token) : Others tokens id tokens :=
      ⟨.none, rfl, trivial, Nat.zero_lt_of_lt headFew, rfl⟩
    have more {token operation others right behind join rest} (found : operation? token = some operation)
        (rightRead : operand others = .ok (right, behind)) (othersRead : Others behind join rest) :
        Others (token :: others) (fun left => join (.binary left operation right)) rest := by
      obtain ⟨rfl, fits⟩ := (tells token operation).1 found
      obtain ⟨derivation, rfl, legal, few, rfl⟩ := reads.sound rightRead
      obtain ⟨others, rfl, othersLegal, othersFew, rfl⟩ := othersRead
      refine ⟨.more operation fits derivation others, ?_, ⟨legal, othersLegal⟩, Nat.max_lt.2 ⟨few, othersFew⟩, rfl⟩
      simp only [Derivation.tokens, List.cons_append, List.append_assoc]
    obtain ⟨join, ⟨others, rfl, legal, few, rfl⟩, rfl⟩ := chainBehind_induction stop more othersRead
    exact ⟨.chain head others, List.append_assoc .., ⟨headLegal, legal⟩, Nat.max_lt.2 ⟨headFew, few⟩, rfl⟩
  complete := by
    intro derivation rest legal few ends
    cases derivation with
    | chain head others =>
        obtain ⟨headFew, othersFew⟩ := Nat.max_lt.1 few
        have headRead := reads.complete head _ legal.1 headFew (Derivation.ends_others others ends)
        rw [Derivation.tokens, List.append_assoc]
        exact (reads.behind tells others rest legal.2 othersFew ends).chain headRead

theorem tells_multiplicative : Tells multiplicative? 0 := by
  intro token operation
  cases token <;> cases operation <;> simp [multiplicative?, Operation.token, Operation.level]

theorem tells_additive : Tells additive? 1 := by
  intro token operation
  cases token <;> cases operation <;> simp [additive?, Operation.token, Operation.level]

/-- Sums are read as deep as there is room. -/
theorem reads_sumWithin (room : Nat) : Reads (.ofLevel 2) (sumWithin room) room := by
  induction room with
  | zero =>
      refine ⟨?_, ?_⟩
      · intro tokens tree rest read
        cases read
      · intro derivation rest legal few
        cases few
  | succ room inductionHypothesis =>
      have readsSigned := reads_signed (reads_primary inductionHypothesis)
      have readsProduct := reads_chain tells_multiplicative readsSigned
      exact reads_chain tells_additive readsProduct

/-- A token list is read exactly if it is derived. -/
theorem parseTokens_eq_ok : parseTokens tokens = .ok tree ↔ ∃ derivation : Derivation (.ofLevel 2),
    derivation.tokens = tokens ∧ derivation.Legal ∧ derivation.nesting ≤ 64 ∧ derivation.tree = tree := by
  have reads := reads_sumWithin (maxNesting + 1)
  constructor
  · intro read
    unfold parseTokens at read
    split at read
    case isTrue => cases read
    case isFalse =>
      obtain ⟨⟨expr, behind⟩, sumRead, finished⟩ := bind_eq_ok.1 read
      cases behind with
      | cons token others => cases finished
      | nil =>
          cases finished
          obtain ⟨derivation, same, legal, few, rfl⟩ := reads.sound sumRead
          rw [List.append_nil] at same
          exact ⟨derivation, same, legal, Nat.le_of_lt_succ few, rfl⟩
  · rintro ⟨derivation, rfl, legal, few, rfl⟩
    have sumRead := reads.complete derivation [] legal (Nat.lt_succ_of_le few) ends_nil
    rw [List.append_nil] at sumRead
    have nonempty : ¬derivation.tokens.isEmpty = true := by
      intro empty
      rw [List.isEmpty_iff.1 empty] at sumRead
      cases sumRead
    rw [parseTokens, if_neg nonempty, sumRead]
    rfl

/-- A text is read exactly if it is short enough and its tokens are read. -/
theorem parse_eq_ok {text : List Char} : parse text = .ok tree ↔
    Text.byteLength text ≤ 512 ∧
      ∃ tokens, Lexes (text.map Char.toLower) tokens ∧ parseTokens tokens = .ok tree := by
  simp only [← lex_iff]
  by_cases fits : Text.byteLength text ≤ 512
  · have short : ¬maxBytes < Text.byteLength text := Nat.not_lt.2 fits
    rw [parse, if_neg short]
    cases lexed : Token.lex text with
    | error fault => simp
    | ok spans => simp [fits]
  · have long : maxBytes < Text.byteLength text := Nat.not_le.1 fits
    simp [parse, long, fits]

/-- Exactly the texts of at most 512 bytes that fall into tokens with a legal derivation are read, as the tree
of their only derivation. -/
theorem parse_iff_derivation (text : List Char) (expr : Expr) :
    (parse text = .ok expr ↔ Text.byteLength text ≤ 512 ∧ ∃ derivation : Derivation (.ofLevel 2),
      Lexes (text.map Char.toLower) derivation.tokens ∧ derivation.Legal ∧ derivation.nesting ≤ 64 ∧
        derivation.tree = expr) ∧
    Subsingleton { derivation : Derivation (.ofLevel 2) // Lexes (text.map Char.toLower) derivation.tokens } := by
  refine ⟨?_, ⟨?_⟩⟩
  · rw [parse_eq_ok]
    simp only [parseTokens_eq_ok]
    constructor
    · rintro ⟨short, tokens, lexes, derivation, rfl, derived⟩
      exact ⟨short, derivation, lexes, derived⟩
    · rintro ⟨short, derivation, lexes, derived⟩
      exact ⟨short, derivation.tokens, lexes, derivation, rfl, derived⟩
  · rintro ⟨first, lexes⟩ ⟨second, otherLexes⟩
    have same := congrArg (· ++ []) (lexes.unique otherLexes)
    obtain ⟨rfl, _⟩ := Derivation.unique ends_nil ends_nil same
    rfl

end Tabletop.Notation
