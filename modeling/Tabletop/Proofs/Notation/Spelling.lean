/-
This file proves that a notation without its white space is the same notation.

Lexemes that stand side by side are cut apart again, unless both are numbers. The grammar has no two numbers in a row,
so blanks in a notation only separate what is separate without them.
-/

import Mathlib.Data.List.Chain
import Tabletop.Proofs.Notation.Evaluation
import Tabletop.Proofs.Notation.Longest

namespace Tabletop.Notation

open Number Text

variable {lexeme text rest : List Char} {token : Token} {tokens : List Token}

/-! Lexemes side by side -/

/-- A text consists of lexemes for these tokens, with nothing between them. -/
inductive Spelled : List Char → List Token → Prop where
  | nil : Spelled [] []
  | cons {lexeme rest : List Char} {token : Token} {tokens : List Token} (spells : Spells lexeme token)
      (fits : ∀ value, token = .int value → value < 2 ^ 64) (others : Spelled rest tokens) :
      Spelled (lexeme ++ rest) (token :: tokens)

def Token.isInt : Token → Bool
  | .int _ => true
  | _ => false

/-- Two tokens that are read apart if their lexemes stand side by side. -/
def Token.Apart (first second : Token) : Prop :=
  first.isInt = false ∨ second.isInt = false

/-- Selectors end in letters that begin no lexeme. -/
theorem Spells.starts {char : Char} (spells : Spells (char :: lexeme) token) : char ≠ 'h' ∧ char ≠ 'l' := by
  cases spells with
  | number digit digits all =>
      have isDigit := all char List.mem_cons_self
      constructor <;> rintro rfl <;> cases isDigit
  | symbol listed =>
      have all : ∀ symbol ∈ symbols, symbol.1.head? ≠ some 'h' ∧ symbol.1.head? ≠ some 'l' := by decide
      simpa using all _ listed

/-- A lexeme that begins with another one is a longer number, or it goes on with the letter of a selector. -/
theorem Spells.extended {char : Char} {more : List Char} {longer : Token} (spells : Spells lexeme token)
    (longerSpells : Spells (lexeme ++ char :: more) longer) :
    (token.isInt = true ∧ char.isDigit = true) ∨ char = 'h' ∨ char = 'l' := by
  obtain ⟨first, others, rfl⟩ := List.exists_cons_of_ne_nil spells.ne_nil
  cases longerSpells with
  | number digit digits all =>
      have firstDigit : first.isDigit = true := all first (by simp)
      refine .inl ⟨?_, all char (by simp)⟩
      cases spells with
      | number _ _ _ => rfl
      | symbol listed =>
          rw [isDigit_of_symbol listed] at firstDigit
          cases firstDigit
  | symbol listed =>
      have all : ∀ symbol ∈ symbols, symbol.1.tail.all (fun char => char == 'h' || char == 'l') = true := by decide
      have letter := List.all_eq_true.1 (all _ listed) char (by simp)
      exact .inr (by simpa using letter)

/-- No lexeme reaches over the border to a next one, unless both are numbers. -/
theorem Spells.isLongest (spells : Spells lexeme token) (others : Spelled rest tokens)
    (apart : ∀ next ∈ tokens.head?, token.Apart next) : IsLongest lexeme (lexeme ++ rest) := by
  intro longer longerToken longerSpells starts
  by_contra longerThan
  obtain ⟨tail, rfl⟩ := List.prefix_of_prefix_length_le (List.prefix_append _ _) starts (by omega)
  obtain ⟨char, more, rfl⟩ : ∃ char more, tail = char :: more :=
    List.exists_cons_of_ne_nil (by rintro rfl; simp at longerThan)
  have border := spells.extended longerSpells
  rw [List.prefix_append_right_inj] at starts
  cases others with
  | nil => simp at starts
  | @cons nextLexeme _ next _ nextSpells _ _ =>
      obtain ⟨first, nextOthers, rfl⟩ := List.exists_cons_of_ne_nil nextSpells.ne_nil
      obtain ⟨rfl, _⟩ := List.cons_prefix_cons.1 starts
      obtain ⟨notH, notL⟩ := nextSpells.starts
      obtain ⟨isInt, isDigit⟩ := border.resolve_right (not_or.2 ⟨notH, notL⟩)
      have nextInt : next.isInt = true := by
        cases nextSpells with
        | number _ _ _ => rfl
        | symbol listed =>
            rw [isDigit_of_symbol listed] at isDigit
            cases isDigit
      rcases apart next rfl with other | other
      · rw [isInt] at other
        cases other
      · rw [nextInt] at other
        cases other

/-- Lexemes side by side fall apart into their tokens if no two of them are numbers. -/
theorem Spelled.lexes (spelled : Spelled text tokens) (apart : tokens.IsChain Token.Apart) : Lexes text tokens := by
  induction spelled with
  | nil => exact .done
  | cons spells fits others inductionHypothesis =>
      obtain ⟨first, rest⟩ := List.isChain_cons.1 apart
      exact .token spells (spells.isLongest others first) fits (inductionHypothesis rest)

/-- Without its white space a text consists of its lexemes. -/
theorem Lexes.squeeze (lexes : Lexes text tokens) : Spelled (Text.squeeze text) tokens := by
  induction lexes with
  | done => exact .nil
  | @blank char rest tokens isBlank _ inductionHypothesis =>
      have blank : Text.isBlank char = true := by
        simp only [List.mem_cons, List.not_mem_nil, or_false] at isBlank
        rcases isBlank with rfl | rfl | rfl | rfl <;> rfl
      rwa [Text.squeeze, List.filter_cons_of_neg (by simp [blank])]
  | @token lexeme rest token _ spells _ fits _ inductionHypothesis =>
      have whole : lexeme.filter (fun char => !Text.isBlank char) = lexeme :=
        List.filter_eq_self.2 fun char member => by simp [spells.visible char member]
      rw [Text.squeeze, List.filter_append, whole]
      exact .cons spells fits inductionHypothesis

/-! Tokens as text -/

theorem spells_text (token : Token) : Spells token.text token := by
  cases token with
  | int value =>
      have digit : ∀ char ∈ writeNat value, char.isDigit = true :=
        fun _ => Nat.isDigit_of_mem_toDigits (by decide) (by decide)
      have read : Nat.ofDigitChars 10 (writeNat value) 0 = value := Nat.ofDigitChars_ten_toDigits
      change Spells (writeNat value) (.int value)
      cases same : writeNat value with
      | nil => exact absurd same Nat.toDigits_ne_nil
      | cons first others =>
          rw [same] at digit read
          have spelled := Spells.number first others digit
          rwa [read] at spelled
  | select selection => cases selection <;> exact .symbol (by decide)
  | _ => exact .symbol (by decide)

theorem spelled_text (fits : ∀ token ∈ tokens, ∀ value, token = .int value → value < 2 ^ 64) :
    Spelled (tokens.flatMap Token.text) tokens := by
  induction tokens with
  | nil => exact .nil
  | cons token tokens inductionHypothesis =>
      obtain ⟨first, others⟩ := List.forall_mem_cons.1 fits
      exact .cons (spells_text token) first (inductionHypothesis others)

theorem isAlpha_of_isDigit {char : Char} (digit : char.isDigit = true) : char.isAlpha = false := by
  have bounds := toNat_of_isDigit digit
  refine Bool.eq_false_iff.2 fun letter => ?_
  have letters := toNat_of_isAlpha letter
  omega

/-- The characters of lexemes are in lower case and have one byte. -/
theorem Spells.plain (spells : Spells lexeme token) : ∀ char ∈ lexeme, char.toLower = char ∧ char.utf8Size = 1 := by
  cases spells with
  | number digit digits all =>
      intro char member
      have isDigit := all char member
      have bounds := toNat_of_isDigit isDigit
      refine ⟨toLower_of_caseless (isAlpha_of_isDigit isDigit), Char.utf8Size_eq_one_iff.2 ?_⟩
      exact UInt32.le_iff_toNat_le.2 (bounds.2.trans (by decide))
  | symbol listed =>
      have all : ∀ symbol ∈ symbols,
          symbol.1.all (fun char => char.toLower == char && char.utf8Size == 1) = true := by decide
      intro char member
      simpa using List.all_eq_true.1 (all _ listed) char member

theorem Spelled.plain (spelled : Spelled text tokens) : ∀ char ∈ text,
    isBlank char = false ∧ char.toLower = char ∧ char.utf8Size = 1 := by
  induction spelled with
  | nil => exact fun char member => absurd member List.not_mem_nil
  | cons spells _ _ inductionHypothesis =>
      exact List.forall_mem_append.2
        ⟨fun char member => ⟨spells.visible char member, spells.plain char member⟩, inductionHypothesis⟩

theorem Spelled.toLower_eq (spelled : Spelled text tokens) : text.map Char.toLower = text :=
  (List.map_congr_left fun char member => (spelled.plain char member).2.1).trans (List.map_id text)

theorem Spelled.squeeze_eq (spelled : Spelled text tokens) : squeeze text = text :=
  List.filter_eq_self.2 fun char member => by simp [(spelled.plain char member).1]

theorem Spelled.byteLength_eq (spelled : Spelled text tokens) : byteLength text = text.length := by
  have sizes : ∀ size ∈ text.map Char.utf8Size, size = 1 :=
    List.forall_mem_map.2 fun char member => (spelled.plain char member).2.2
  rw [byteLength, Number.total_eq_sum, List.sum_eq_card_nsmul _ _ sizes, List.length_map, Nat.nsmul_eq_mul, Nat.mul_one]

/-! Tokens of a notation -/

theorem Operation.isInt_token (operation : Operation) : operation.token.isInt = false := by
  cases operation <;> rfl

theorem modifiers_apart (modifiers : List Modifier) :
    (modifiers.flatMap Modifier.tokens).IsChain Token.Apart ∧
      ∀ token ∈ (modifiers.flatMap Modifier.tokens).head?, token.isInt = false := by
  induction modifiers with
  | nil => simp
  | cons modifier modifiers inductionHypothesis =>
      obtain ⟨others, starts⟩ := inductionHypothesis
      rw [List.flatMap_cons]
      cases modifier with
      | explode => exact ⟨List.isChain_cons.2 ⟨fun _ _ => .inl rfl, others⟩, by simp [Modifier.tokens, Token.isInt]⟩
      | select selection count =>
          refine ⟨?_, by simp [Modifier.tokens, Token.isInt]⟩
          cases count with
          | none => exact List.isChain_cons.2 ⟨fun _ _ => .inl rfl, others⟩
          | some value =>
              have behind : (Token.int value :: modifiers.flatMap Modifier.tokens).IsChain Token.Apart :=
                List.isChain_cons.2 ⟨fun token first => .inr (starts token first), others⟩
              exact List.isChain_cons.2 ⟨fun _ _ => .inl rfl, behind⟩

namespace Derivation

variable {level : Nat}

theorem others_start (others : Derivation (.others level)) : ∀ token ∈ others.tokens.head?, token.isInt = false := by
  cases others with
  | none => simp [tokens]
  | more operation fits operand others => simp [tokens, operation.isInt_token]

/-- No notation has two numbers in a row. -/
theorem tokens_apart {phrase : Phrase} (derivation : Derivation phrase) :
    derivation.tokens.IsChain Token.Apart := by
  induction derivation with
  | constant value => exact List.isChain_singleton _
  | dice count sides modifiers =>
      obtain ⟨others, starts⟩ := modifiers_apart modifiers
      have behind : (sides.token :: modifiers.flatMap Modifier.tokens).IsChain Token.Apart :=
        List.isChain_cons.2 ⟨fun token first => .inr (starts token first), others⟩
      have dice : (Token.die :: sides.token :: modifiers.flatMap Modifier.tokens).IsChain Token.Apart :=
        List.isChain_cons.2 ⟨fun _ _ => .inl rfl, behind⟩
      cases count with
      | none => exact dice
      | some value => exact List.isChain_cons.2 ⟨fun token first => .inr (by cases first; rfl), dice⟩
  | group inner inductionHypothesis =>
      refine List.isChain_cons.2 ⟨fun _ _ => .inl rfl, List.isChain_append.2 ⟨inductionHypothesis, ?_, ?_⟩⟩
      · exact List.isChain_singleton _
      · exact fun _ _ token first => .inr (by cases first; rfl)
  | plain operand inductionHypothesis => exact inductionHypothesis
  | signed sign operand inductionHypothesis =>
      exact List.isChain_cons.2 ⟨fun _ _ => .inl (by cases sign <;> rfl), inductionHypothesis⟩
  | chain first others firstHypothesis othersHypothesis =>
      exact List.isChain_append.2
        ⟨firstHypothesis, othersHypothesis, fun _ _ token starts => .inr (others.others_start token starts)⟩
  | none => exact List.isChain_nil
  | more operation fits operand others operandHypothesis othersHypothesis =>
      refine List.isChain_cons.2 ⟨fun _ _ => .inl operation.isInt_token, List.isChain_append.2
        ⟨operandHypothesis, othersHypothesis, fun _ _ token starts => .inr (others.others_start token starts)⟩⟩

end Derivation

/-! Notations without white space -/

theorem isBlank_toLower (char : Char) : isBlank char.toLower = isBlank char := by
  cases letter : char.isAlpha with
  | false => rw [toLower_of_caseless letter]
  | true =>
      have visible : isBlank char = false := Bool.eq_false_iff.2 fun blank => by
        rw [isAlpha_of_isBlank blank] at letter
        cases letter
      rw [visible, Bool.eq_false_iff]
      intro blank
      rw [← isAlpha_toLower, isAlpha_of_isBlank blank] at letter
      cases letter

theorem squeeze_toLower (text : List Char) : (squeeze text).map Char.toLower = squeeze (text.map Char.toLower) := by
  have same : (fun char => !isBlank char) ∘ Char.toLower = fun char => !isBlank char :=
    funext fun char => congrArg not (isBlank_toLower char)
  rw [squeeze, squeeze, List.filter_map, same]

theorem byteLength_squeeze (text : List Char) : byteLength (squeeze text) ≤ byteLength text := by
  rw [byteLength, byteLength, Number.total_eq_sum, Number.total_eq_sum]
  exact (List.filter_sublist.map _).sum_le_sum fun _ _ => Nat.zero_le _

theorem parse_squeeze {expr : Expr} (parsed : parse text = .ok expr) : parse (squeeze text) = .ok expr := by
  obtain ⟨short, tokens, lexes, parsedTokens⟩ := parse_eq_ok.1 parsed
  obtain ⟨derivation, rfl, _⟩ := parseTokens_eq_ok.1 parsedTokens
  refine parse_eq_ok.2 ⟨(byteLength_squeeze text).trans short, _, ?_, parsedTokens⟩
  rw [squeeze_toLower]
  exact lexes.squeeze.lexes derivation.tokens_apart

/-- Without its white space, which is how the result of a roll shows it, a notation is read as the same tree. -/
theorem parse_written {text : String} {expr : Expr} (parsed : parse text.toList = .ok expr) :
    parse (squeeze text.toList) = .ok expr ∧
      ∀ mode faces result rest, roll text mode faces = (.ok result, rest) →
        result.written.toList = squeeze text.toList := by
  refine ⟨parse_squeeze parsed, fun mode faces result rest rolled => ?_⟩
  rw [roll_of_parse parsed] at rolled
  obtain ⟨outcome, _, rfl⟩ := map_eq_ok.1 (congrArg (·.1) rolled)
  exact String.toList_ofList

/-- The letter of the dice, a mark and the two ends of a group move together. -/
theorem parse_written_spaced :
    let text := " 2 D % !\tX ( - 07 )"
    let expr : Expr := .binary (.dice ⟨2, 100, none, true⟩) .multiply (.group (.negate (.constant 7)))
    parse text.toList = .ok expr ∧ parse "2D%!X(-07)".toList = .ok expr ∧
      ∃ result rest, roll text .random (.cycle #[100, 12, 7]) = (.ok result, rest) ∧
        result.written.toList = "2D%!X(-07)".toList := by
  intro text expr
  have parsed : parse text.toList = .ok expr := by decide +kernel
  have squeezed : squeeze text.toList = "2D%!X(-07)".toList := by decide +kernel
  have succeeds : (roll text .random (.cycle #[100, 12, 7])).1.toOption.isSome = true := by decide +kernel
  obtain ⟨same, written⟩ := parse_written parsed
  rw [squeezed] at same written
  rcases rolled : roll text .random (.cycle #[100, 12, 7]) with ⟨_ | result, rest⟩
  · rw [rolled] at succeeds
    cases succeeds
  · exact ⟨parsed, same, result, rest, rfl, written _ _ _ _ rolled⟩

end Tabletop.Notation
