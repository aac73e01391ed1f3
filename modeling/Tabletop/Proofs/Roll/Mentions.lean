/-
This file proves what the patterns for standard rolls find: the number in front of a number sign, and names with a
signed and a plain number behind them.

The patterns are greedy. Each part of a match is a run of characters of one kind, which the next character does not
continue. No character is both white space and a digit, so there is one way to match.
-/

import Tabletop.Proofs.Roll.Inline
import Tabletop.Proofs.Text.Cut

namespace Tabletop

namespace Text

/-- No digit of any script is white space. -/
theorem isBlank_of_isDecimal {char : Char} (decimal : isDecimal char = true) : isBlank char = false := by
  obtain ⟨range, member, within⟩ := List.any_eq_true.1 decimal
  rw [Bool.and_eq_true, decide_eq_true_eq, decide_eq_true_eq] at within
  have apart : ∀ range ∈ decimalRanges, (0x30 ≤ range.1 ∧ range.2 ≤ 0x39) ∨ (0xA0 < range.1 ∧ range.2 < 0x1680) ∨
      (0x1680 < range.1 ∧ range.2 < 0x2000) ∨ 0x3000 < range.1 := by
    decide
  have between := apart range member
  refine Bool.eq_false_iff.2 fun blank => ?_
  simp only [isBlank, Bool.or_eq_true, Bool.and_eq_true, decide_eq_true_eq, beq_iff_eq] at blank
  omega

end Text

namespace StandardRoll

open Number Text

variable {text rest : List Char} {times : Nat} {mention : Mention}

/-! Repetitions -/

/-- A text begins with a number in front of a number sign, with or without white space between them. -/
structure IsNumbered (text digits : List Char) : Prop where
  some : digits ≠ []
  decimal : ∀ char ∈ digits, isDecimal char = true
  spelled : ∃ blanks rest, (∀ char ∈ blanks, isBlank char = true) ∧ text = digits ++ (blanks ++ '#' :: rest)

theorem IsNumbered.digits_eq {digits : List Char} (numbered : IsNumbered text digits) :
    text.takeWhile isDecimal = digits ∧ ∃ rest, trimStart (text.dropWhile isDecimal) = '#' :: rest := by
  obtain ⟨_, decimal, blanks, rest, blank, rfl⟩ := numbered
  have apart : IsRun isDecimal (digits ++ (blanks ++ '#' :: rest)) digits (blanks ++ '#' :: rest) := by
    cases blanks with
    | nil => exact isRun_append decimal (by decide)
    | cons first others =>
        refine isRun_append decimal ?_
        by_contra digit
        have visible := isBlank_of_isDecimal (Bool.not_eq_false _ ▸ digit)
        rw [blank first List.mem_cons_self] at visible
        cases visible
  refine ⟨apart.takeWhile_eq, rest, ?_⟩
  rw [apart.dropWhile_eq]
  exact (isRun_append blank (by decide)).dropWhile_eq

/-- How often some digits in front of a number sign ask to roll. Digits that no 32-bit number can be read from ask for
one roll. -/
theorem splitTimes_numbered {digits : List Char} (numbered : IsNumbered text digits) :
    (splitTimes text).1 = timesOf digits := by
  obtain ⟨taken, rest, sign⟩ := numbered.digits_eq
  obtain ⟨first, others, same⟩ := List.exists_cons_of_ne_nil numbered.some
  unfold splitTimes
  simp only [taken, sign, same]

theorem splitTimes_plain (plain : ∀ digits, ¬IsNumbered text digits) : (splitTimes text).1 = 1 := by
  unfold splitTimes
  dsimp only
  split
  · next behind some sign =>
    have digits := isRun_takeWhile isDecimal text
    have blanks := isRun_takeWhile isBlank (text.dropWhile isDecimal)
    rw [trimStart] at sign
    rw [sign] at blanks
    refine absurd ⟨?_, digits.all, _, behind, blanks.all, ?_⟩ (plain (text.takeWhile isDecimal))
    · rw [some]
      exact List.cons_ne_nil _ _
    · rw [← blanks.spelled]
      exact digits.spelled
  · rfl

/-! Modifiers -/

/-- A modifier is spelled as a sign, white space or none, and digits. -/
structure IsSigned (modifier : List Char) (sign : Char) (blanks digits : List Char) : Prop where
  isSign : sign ∈ ['+', '-']
  blank : ∀ char ∈ blanks, isBlank char = true
  some : digits ≠ []
  decimal : ∀ char ∈ digits, isDecimal char = true
  spelled : modifier = sign :: (blanks ++ digits)

/-- A text begins with a modifier that the next character does not continue, or it begins with none. -/
inductive IsModifier (text : List Char) : List Char → List Char → Prop where
  | signed {modifier blanks digits rest : List Char} {sign : Char} (isSigned : IsSigned modifier sign blanks digits)
      (spelled : text = modifier ++ rest) (stops : ∀ char ∈ rest.head?, isDecimal char = false) :
      IsModifier text modifier rest
  | none (unsigned : ∀ {modifier blanks digits : List Char} {sign : Char}, IsSigned modifier sign blanks digits →
      ∀ rest, text ≠ modifier ++ rest) : IsModifier text [] text

theorem isSign_iff {sign : Char} : (sign == '+' || sign == '-') = true ↔ sign ∈ ['+', '-'] := by
  simp

variable {modifier blanks digits : List Char} {sign : Char}

theorem IsSigned.spaced (isSigned : IsSigned modifier sign blanks digits) (rest : List Char) :
    IsRun isBlank (blanks ++ (digits ++ rest)) blanks (digits ++ rest) := by
  obtain ⟨first, others, rfl⟩ := List.exists_cons_of_ne_nil isSigned.some
  exact isRun_append isSigned.blank (isBlank_of_isDecimal (isSigned.decimal first List.mem_cons_self))

theorem isModifier_cutBonus (text : List Char) :
    IsModifier text (Notation.cutBonus text).1 (Notation.cutBonus text).2 := by
  unfold Notation.cutBonus
  cases text with
  | nil =>
      refine .none fun isSigned rest => ?_
      rw [isSigned.spelled]
      exact (List.cons_ne_nil _ _).symm
  | cons sign behind =>
      have blanks := isRun_takeWhile isBlank behind
      have digits := isRun_takeWhile isDecimal (behind.dropWhile isBlank)
      dsimp only
      split
      · next cut =>
        obtain ⟨isSign, some⟩ := Bool.and_eq_true_iff.1 cut
        refine .signed ⟨isSign_iff.1 isSign, blanks.all, by simpa using some, digits.all, rfl⟩ ?_ digits.stops
        rw [List.cons_append, List.cons_append, List.append_assoc, ← digits.spelled, ← blanks.spelled]
      · next uncut =>
        refine .none fun {modifier between number other} isSigned rest same => uncut ?_
        rw [isSigned.spelled, List.cons_append, List.append_assoc] at same
        obtain ⟨rfl, rfl⟩ := List.cons.inj same
        obtain ⟨first, others, rfl⟩ := List.exists_cons_of_ne_nil isSigned.some
        have decimal := isSigned.decimal first List.mem_cons_self
        rw [isSign_iff.2 isSigned.isSign, (isSigned.spaced rest).dropWhile_eq, List.cons_append,
          List.takeWhile_cons_of_pos decimal]
        rfl

theorem IsModifier.cutBonus_eq (isModifier : IsModifier text modifier rest) :
    Notation.cutBonus text = (modifier, rest) := by
  cases isModifier with
  | @signed _ blanks digits _ sign isSigned spelled stops =>
      have spaced := isSigned.spaced rest
      have numbered : IsRun isDecimal (digits ++ rest) digits rest := ⟨rfl, isSigned.decimal, stops⟩
      rw [spelled, isSigned.spelled, List.cons_append, List.append_assoc]
      unfold Notation.cutBonus
      simp only [spaced.takeWhile_eq, spaced.dropWhile_eq, numbered.takeWhile_eq, numbered.dropWhile_eq]
      rw [isSign_iff.2 isSigned.isSign, List.isEmpty_eq_false_iff.2 isSigned.some]
      rfl
  | none unsigned =>
      unfold Notation.cutBonus
      split
      · next sign behind =>
        refine if_neg fun cut => ?_
        obtain ⟨isSign, some⟩ := Bool.and_eq_true_iff.1 cut
        have blanks := isRun_takeWhile isBlank behind
        have digits := isRun_takeWhile isDecimal (behind.dropWhile isBlank)
        refine unsigned ⟨isSign_iff.1 isSign, blanks.all, by simpa using some, digits.all, rfl⟩
          ((behind.dropWhile isBlank).dropWhile isDecimal) ?_
        rw [List.cons_append, List.append_assoc, ← digits.spelled, ← blanks.spelled]
      · rfl

/-! Mentions -/

/-- A text begins with a name, perhaps with a signed number behind it, and with a plain number behind these. -/
inductive Cuts : List Char → Mention → List Char → Prop where
  | mention {text behind tail later more rest name gap modifier blanks number : List Char} (some : name ≠ [])
      (named : IsRun isNamePart text name behind) (spaced : IsRun isBlank behind gap tail)
      (signed : IsModifier tail modifier later) (apart : IsRun isBlank later blanks more)
      (numbered : IsRun isDecimal more number rest) : Cuts text ⟨name, modifier, number⟩ rest

/-- What the pattern for skills finds in a text from left to right. -/
inductive Finds : List Char → List Mention → Prop where
  | done : Finds [] []
  | skip {char : Char} {rest : List Char} {found : List Mention} (other : isNamePart char = false)
      (later : Finds rest found) : Finds (char :: rest) found
  | found {text rest : List Char} {mention : Mention} {found : List Mention} (cuts : Cuts text mention rest)
      (later : Finds rest found) : Finds text (mention :: found)

theorem cuts_cutMention {char : Char} (part : isNamePart char = true) (rest : List Char) :
    Cuts (char :: rest) (cutMention (char :: rest)).1 (cutMention (char :: rest)).2 := by
  have some : (char :: rest).takeWhile isNamePart ≠ [] := by
    rw [List.takeWhile_cons_of_pos part]
    exact List.cons_ne_nil _ _
  exact .mention some (isRun_takeWhile ..) (isRun_takeWhile ..) (isModifier_cutBonus _) (isRun_takeWhile ..)
    (isRun_takeWhile ..)

theorem Cuts.cutMention_eq (cuts : Cuts text mention rest) : cutMention text = (mention, rest) := by
  cases cuts with
  | mention _ named spaced signed apart numbered =>
      unfold cutMention trimStart
      simp only [named.takeWhile_eq, named.dropWhile_eq, spaced.dropWhile_eq, signed.cutBonus_eq, apart.dropWhile_eq,
        numbered.takeWhile_eq, numbered.dropWhile_eq]

/-- A match begins with a character of a name. -/
theorem Cuts.isNamePart (cuts : Cuts text mention rest) :
    ∃ char behind, text = char :: behind ∧ StandardRoll.isNamePart char = true := by
  cases cuts with
  | mention some named =>
      obtain ⟨char, others, rfl⟩ := List.exists_cons_of_ne_nil some
      exact ⟨char, _, named.spelled, named.all char List.mem_cons_self⟩

/-- The mentions in a text are what the pattern finds. -/
theorem finds_iff {found : List Mention} : Finds text found ↔ mentions text = found := by
  constructor
  · intro finds
    induction finds with
    | done => rw [mentions_eq]
    | skip other _ inductionHypothesis =>
        rw [mentions_eq]
        dsimp only
        rw [other, if_neg Bool.false_ne_true, inductionHypothesis]
    | found cuts _ inductionHypothesis =>
        obtain ⟨char, behind, rfl, part⟩ := cuts.isNamePart
        rw [mentions_eq]
        dsimp only
        rw [part, if_pos rfl, cuts.cutMention_eq, inductionHypothesis]
  · rintro rfl
    fun_induction mentions text with
    | case1 => exact .done
    | case2 char rest part inductionHypothesis => exact .found (cuts_cutMention part rest) inductionHypothesis
    | case3 char rest other inductionHypothesis => exact .skip (Bool.not_eq_true _ ▸ other) inductionHypothesis

end StandardRoll

end Tabletop
