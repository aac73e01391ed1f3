/-
This file proves how a dice notation falls into tokens.

A lexeme is a run of digits or one of the listed symbols. From left to right, blanks are skipped and the longest
lexeme at each place becomes a token, and a text is lexed exactly if this reaches its end with integers that have
64 bits.
-/

import Mathlib.Algebra.Order.Ring.Nat
import Mathlib.Data.List.TakeWhile
import Tabletop.Notation.Token
import Tabletop.Proofs.Result

namespace Tabletop.Notation

open Number

/-- The lexemes that are no integers, and their tokens. -/
def symbols : List (List Char × Token) :=
  [(['d'], .die), (['%'], .percent),
   (['k', 'h'], .select .keepHighest), (['k'], .select .keepHighest), (['k', 'l'], .select .keepLowest),
   (['d', 'h'], .select .dropHighest), (['d', 'l'], .select .dropLowest),
   (['!'], .explode), (['+'], .plus), (['-'], .minus), (['*'], .star), (['x'], .star), (['/'], .slash),
   (['('], .leftParen), ([')'], .rightParen)]

/-- A lexeme spells a token. -/
inductive Spells : List Char → Token → Prop where
  | number (digit : Char) (digits : List Char) (all : ∀ char ∈ digit :: digits, char.isDigit = true) :
      Spells (digit :: digits) (.int (Nat.ofDigitChars 10 (digit :: digits) 0))
  | symbol {lexeme : List Char} {token : Token} (listed : (lexeme, token) ∈ symbols) : Spells lexeme token

/-- No lexeme at the start of the text is longer. -/
def IsLongest (lexeme text : List Char) : Prop :=
  ∀ other token, Spells other token → other <+: text → other.length ≤ lexeme.length

/-- A text in lower case falls into tokens. -/
inductive Lexes : List Char → List Token → Prop where
  | done : Lexes [] []
  | blank {char : Char} {rest : List Char} {tokens : List Token} (isBlank : char ∈ [' ', '\t', '\r', '\n'])
      (others : Lexes rest tokens) : Lexes (char :: rest) tokens
  | token {lexeme rest : List Char} {token : Token} {tokens : List Token} (spells : Spells lexeme token)
      (longest : IsLongest lexeme (lexeme ++ rest)) (fits : ∀ value, token = .int value → value < 2 ^ 64)
      (others : Lexes rest tokens) : Lexes (lexeme ++ rest) (token :: tokens)

variable {lexeme text rest : List Char} {token : Token} {tokens : List Token}

theorem Spells.ne_nil (spells : Spells lexeme token) : lexeme ≠ [] := by
  rintro rfl
  cases spells with
  | symbol listed => simp [symbols] at listed

theorem isDigit_of_symbol {char : Char} {others : List Char} (listed : (char :: others, token) ∈ symbols) :
    char.isDigit = false := by
  have all : symbols.all fun symbol => symbol.1.head?.all fun char => !char.isDigit := by decide
  simpa using List.all_eq_true.1 all _ listed

/-- A lexeme spells one token. -/
theorem Spells.unique {other : Token} (left : Spells lexeme token) (right : Spells lexeme other) :
    token = other := by
  have ofSymbols : ∀ first ∈ symbols, ∀ second ∈ symbols, first.1 = second.1 → first.2 = second.2 := by decide
  cases left with
  | number digit digits all =>
      have isDigit : digit.isDigit = true := all digit (by simp)
      cases right with
      | number _ _ _ => rfl
      | symbol listed => simp [isDigit_of_symbol listed] at isDigit
  | symbol listed =>
      cases right with
      | number digit digits all =>
          have isDigit : digit.isDigit = true := all digit (by simp)
          simp [isDigit_of_symbol listed] at isDigit
      | symbol otherListed => exact ofSymbols _ listed _ otherListed rfl

theorem first?_digit {char : Char} (digit : char.isDigit = true) :
    Token.first? (char :: rest) =
      some (.int (natOfDigits (char :: rest.takeWhile Char.isDigit)), rest.dropWhile Char.isDigit) := by
  unfold Token.first?
  split
  case h_16 same =>
    obtain ⟨rfl, rfl⟩ := List.cons.inj same
    simp [digit]
  case h_17 same => cases same
  all_goals
    next same =>
    obtain ⟨rfl, _⟩ := List.cons.inj same
    cases digit

/-- The first token is spelled by what stands before the rest. -/
theorem first?_spells (found : Token.first? text = some (token, rest)) :
    ∃ lexeme, lexeme ++ rest = text ∧ Spells lexeme token := by
  unfold Token.first? at found
  split at found
  case h_16 char others _ _ _ _ _ _ _ _ _ _ _ _ _ _ _ =>
    split at found
    case isTrue digit =>
      cases found
      refine ⟨char :: others.takeWhile Char.isDigit, by simp, .number _ _ ?_⟩
      simpa [digit] using fun _ inside => List.mem_takeWhile_imp inside
    case isFalse => cases found
  case h_17 => cases found
  all_goals
    cases found
    first
      | exact ⟨[_, _], rfl, .symbol (by simp [symbols])⟩
      | exact ⟨[_], rfl, .symbol (by simp [symbols])⟩

/-- Where a lexeme starts a text there is a first token, and it takes no less than the lexeme. -/
theorem first?_longest (more : List Char) (spells : Spells lexeme token) :
    (Token.first? (lexeme ++ more)).any (fun found => found.2.length ≤ more.length) = true := by
  cases spells with
  | number digit digits all =>
      have isDigit : digit.isDigit = true := all digit (by simp)
      have others : ∀ char ∈ digits, char.isDigit = true := fun char inside => all char (by simp [inside])
      have shorter := (List.dropWhile_suffix (l := more) Char.isDigit).length_le
      rw [List.cons_append, first?_digit isDigit, Option.any_some, List.dropWhile_append_of_pos others]
      simpa using shorter
  | symbol listed =>
      simp only [symbols, List.mem_cons, Prod.mk.injEq, List.not_mem_nil, or_false] at listed
      rcases listed with ⟨rfl, _⟩ | ⟨rfl, _⟩ | ⟨rfl, _⟩ | ⟨rfl, _⟩ | ⟨rfl, _⟩ | ⟨rfl, _⟩ | ⟨rfl, _⟩ |
        ⟨rfl, _⟩ | ⟨rfl, _⟩ | ⟨rfl, _⟩ | ⟨rfl, _⟩ | ⟨rfl, _⟩ | ⟨rfl, _⟩ | ⟨rfl, _⟩ | ⟨rfl, _⟩
      all_goals
        simp only [List.cons_append, List.nil_append]
        unfold Token.first?
        split
        all_goals grind

/-- The first token is the longest one. -/
theorem isLongest_of_first? (found : Token.first? (lexeme ++ rest) = some (token, rest)) :
    IsLongest lexeme (lexeme ++ rest) := by
  intro longer other spells start
  obtain ⟨more, same⟩ := start
  have reached := first?_longest more spells
  rw [same, found, Option.any_some, decide_eq_true_eq] at reached
  have lengths := congrArg List.length same
  simp only [List.length_append] at lengths reached
  omega

/-- The longest lexeme at the start of a text is the first token. -/
theorem first?_of_isLongest (spells : Spells lexeme token) (longest : IsLongest lexeme (lexeme ++ rest)) :
    Token.first? (lexeme ++ rest) = some (token, rest) := by
  have reached := first?_longest rest spells
  obtain ⟨⟨other, behind⟩, found, shorter⟩ := (Option.any_eq_true _ _).1 reached
  obtain ⟨longer, same, otherSpells⟩ := first?_spells found
  have lengths := congrArg List.length same
  simp only [List.length_append, decide_eq_true_eq] at lengths shorter
  have bound : longer.length ≤ lexeme.length := longest longer other otherSpells ⟨behind, same⟩
  obtain ⟨rfl, rfl⟩ := List.append_inj same (by omega)
  rw [found, otherSpells.unique spells]

theorem fits_iff : token.fits = true ↔ ∀ value, token = .int value → value < 2 ^ 64 := by
  cases token with
  | int value =>
      rw [Token.fits, decide_eq_true_iff]
      simp [intBound, wordRange]
  | _ => simp [Token.fits]

theorem isTokenBlank_iff {char : Char} : Text.isTokenBlank char = true ↔ char ∈ [' ', '\t', '\r', '\n'] := by
  simp [Text.isTokenBlank, or_assoc]

/-- No lexeme starts with a blank. -/
theorem Spells.not_blank {char : Char} {others : List Char} (spells : Spells (char :: others) token) :
    Text.isTokenBlank char = false := by
  cases spells with
  | number _ _ all =>
      have digit := all char (by simp)
      cases blank : Text.isTokenBlank char with
      | false => rfl
      | true =>
          have isBlank := isTokenBlank_iff.1 blank
          simp only [List.mem_cons, List.not_mem_nil, or_false] at isBlank
          rcases isBlank with rfl | rfl | rfl | rfl <;> cases digit
  | symbol listed =>
      have all : symbols.all fun symbol => symbol.1.head?.all fun char => !Text.isTokenBlank char := by decide
      simpa using List.all_eq_true.1 all _ listed

theorem lexes_of_scan {offset : Nat} {spans : List Spanned} (scanned : Token.scan offset text = .ok spans) :
    Lexes text (spans.map (·.token)) := by
  fun_induction Token.scan offset text generalizing spans with
  | case1 =>
      cases scanned
      exact .done
  | case2 offset char rest isBlank inductionHypothesis =>
      exact .blank (isTokenBlank_iff.1 isBlank) (inductionHypothesis scanned)
  | case3 => cases scanned
  | case4 offset char rest _ token behind found fits last =>
      rename_i inductionHypothesis
      obtain ⟨others, scannedOthers, same⟩ := bind_eq_ok.1 scanned
      cases same
      obtain ⟨lexeme, same, spells⟩ := first?_spells found
      rw [← same] at found ⊢
      exact .token spells (isLongest_of_first? found) (fits_iff.1 fits) (inductionHypothesis scannedOthers)
  | case5 => cases scanned

theorem Lexes.scan (lexes : Lexes text tokens) (offset : Nat) :
    ∃ spans, Token.scan offset text = .ok spans ∧ spans.map (·.token) = tokens := by
  induction lexes generalizing offset with
  | done => exact ⟨[], by simp [Token.scan], rfl⟩
  | blank isBlank _ inductionHypothesis =>
      obtain ⟨spans, scanned, same⟩ := inductionHypothesis (offset + 1)
      refine ⟨spans, ?_, same⟩
      rw [Token.scan, if_pos (isTokenBlank_iff.2 isBlank), scanned]
  | @token lexeme rest token _ spells longest fits _ inductionHypothesis =>
      have found := first?_of_isLongest spells longest
      cases lexeme with
      | nil => exact absurd rfl spells.ne_nil
      | cons char others =>
          rw [List.cons_append] at found ⊢
          let last := offset + ((char :: (others ++ rest)).length - rest.length)
          obtain ⟨spans, scanned, rfl⟩ := inductionHypothesis last
          refine ⟨⟨token, offset, last⟩ :: spans, ?_, rfl⟩
          rw [Token.scan, if_neg (by simp [spells.not_blank])]
          split
          next unread => simp [found] at unread
          next first behind same =>
          cases found.symm.trans same
          rw [if_pos (fits_iff.2 fits)]
          exact bind_eq_ok.2 ⟨spans, scanned, rfl⟩

/-- A text is cut into tokens exactly as it falls into them in lower case. -/
theorem lex_iff : (∃ spans, Token.lex text = .ok spans ∧ spans.map (·.token) = tokens) ↔
    Lexes (text.map Char.toLower) tokens := by
  constructor
  · rintro ⟨spans, scanned, rfl⟩
    exact lexes_of_scan scanned
  · intro lexes
    exact lexes.scan 0

/-- A text falls into one token list. -/
theorem Lexes.unique {first second : List Token} (left : Lexes text first)
    (right : Lexes text second) : first = second := by
  obtain ⟨spans, scanned, rfl⟩ := left.scan 0
  obtain ⟨others, othersScanned, rfl⟩ := right.scan 0
  cases scanned.symm.trans othersScanned
  rfl

end Tabletop.Notation
