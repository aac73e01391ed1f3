/-
This file proves that the longest notation at the start of a text is split off.

All characters of a notation are characters of notations, and each has at least one byte. So no notation reaches
beyond the first run of such characters or beyond 512 of them, and the search that goes back from there misses none.
-/

import Tabletop.Proofs.Card.Names
import Tabletop.Proofs.Instant.Text
import Tabletop.Proofs.Notation.Parsing
import Tabletop.Proofs.Text.Cut
import Tabletop.Proofs.Lists

namespace Tabletop.Notation

open Text

variable {text start head rest lexeme : List Char} {token : Token} {tokens : List Token}

/-! The characters of notations -/

/-- The characters that lexemes and the blanks between them consist of. -/
def isLexical (char : Char) : Bool :=
  char.isDigit || isTokenBlank char || ['d', '%', 'k', 'h', 'l', '!', '+', '-', '*', 'x', '/', '(', ')'].contains char

theorem Spells.isLexical (spells : Spells lexeme token) : ∀ char ∈ lexeme, isLexical char = true := by
  cases spells with
  | number digit digits all =>
      intro char member
      rw [Notation.isLexical, all char member]
      rfl
  | symbol listed =>
      have all : (symbols.all fun symbol => symbol.1.all Notation.isLexical) = true := by decide
      exact List.all_eq_true.1 (List.all_eq_true.1 all _ listed)

theorem Lexes.isLexical (lexes : Lexes text tokens) : ∀ char ∈ text, isLexical char = true := by
  induction lexes with
  | done => exact fun char member => absurd member List.not_mem_nil
  | @blank char rest tokens isBlank _ inductionHypothesis =>
      refine List.forall_mem_cons.2 ⟨?_, inductionHypothesis⟩
      rw [Notation.isLexical, isTokenBlank_iff.2 isBlank, Bool.or_true]
      rfl
  | token spells _ _ _ inductionHypothesis => exact List.forall_mem_append.2 ⟨spells.isLexical, inductionHypothesis⟩

theorem isNotation_iff : isNotation text = true ↔ ∃ expr, parse text = .ok expr := by
  unfold isNotation
  cases parse text <;> simp [Except.isOk, Except.toBool]

theorem isNotationChar_of_isNotation (valid : isNotation text = true) : ∀ char ∈ text, isNotationChar char = true := by
  obtain ⟨_, parsed⟩ := isNotation_iff.1 valid
  obtain ⟨_, _, lexes, _⟩ := parse_eq_ok.1 parsed
  exact fun char member => lexes.isLexical _ (List.mem_map_of_mem member)

theorem length_le_byteLength (text : List Char) : text.length ≤ byteLength text := by
  rw [byteLength, Number.total_eq_sum]
  induction text with
  | nil => exact Nat.le_refl 0
  | cons char text inductionHypothesis =>
      have positive := char.utf8Size_pos
      rw [List.map_cons, List.sum_cons, List.length_cons]
      omega

theorem length_le_of_isNotation (valid : isNotation text = true) : text.length ≤ maxBytes := by
  obtain ⟨_, parsed⟩ := isNotation_iff.1 valid
  exact (length_le_byteLength text).trans (parse_eq_ok.1 parsed).1

theorem isNotation_nil : isNotation [] = false := by
  decide +kernel

/-! White space at the end -/

theorem Spells.visible (spells : Spells lexeme token) : ∀ char ∈ lexeme, isBlank char = false := by
  cases spells with
  | number digit digits all => exact fun char member => Instant.isBlank_of_isDigit (all char member)
  | symbol listed =>
      have all : (symbols.all fun symbol => symbol.1.all fun char => !isBlank char) = true := by decide
      intro char member
      simpa using List.all_eq_true.1 (List.all_eq_true.1 all _ listed) char member

/-- Lexemes have no white space, so none of them reaches into the white space at the end. -/
theorem Lexes.of_append {blanks : List Char} (blank : ∀ char ∈ blanks, isBlank char = true)
    (lexes : Lexes (text ++ blanks) tokens) : Lexes text tokens := by
  generalize same : text ++ blanks = whole at lexes
  induction lexes generalizing text blanks with
  | done =>
      rw [(List.append_eq_nil_iff.1 same).1]
      exact .done
  | @blank char others tokens isBlank lexes inductionHypothesis =>
      cases text with
      | nil =>
          cases same
          exact inductionHypothesis (List.forall_mem_cons.1 blank).2 (List.nil_append others)
      | cons first text =>
          cases same
          exact .blank isBlank (inductionHypothesis blank rfl)
  | @token lexeme others token tokens spells longest fits _ inductionHypothesis =>
      obtain ⟨more, rfl, rfl⟩ : ∃ more, text = lexeme ++ more ∧ others = more ++ blanks := by
        rcases List.append_eq_append_iff.1 same with ⟨tail, rfl, rfl⟩ | inside
        · -- A lexeme that reaches into the white space takes none of it.
          cases tail with
          | nil => exact ⟨[], by simp⟩
          | cons char tail =>
              have visible := spells.visible char (by simp)
              rw [blank char (by simp)] at visible
              cases visible
        · exact inside
      refine .token spells (fun other otherToken otherSpells starts => ?_) fits (inductionHypothesis blank rfl)
      exact longest other otherToken otherSpells (by simpa using starts.trans (List.prefix_append _ blanks))

theorem isAlpha_of_isBlank {char : Char} (blank : isBlank char = true) : char.isAlpha = false := by
  refine Bool.eq_false_iff.2 fun letter => ?_
  have letters := toNat_of_isAlpha letter
  simp only [isBlank, Bool.or_eq_true, Bool.and_eq_true, decide_eq_true_eq, beq_iff_eq] at blank
  omega

/-- A notation is one without the white space behind it. -/
theorem isNotation_trimEnd (valid : isNotation text = true) : isNotation (trimEnd text) = true := by
  obtain ⟨expr, parsed⟩ := isNotation_iff.1 valid
  obtain ⟨short, tokens, lexes, parsedTokens⟩ := parse_eq_ok.1 parsed
  obtain ⟨blanks, blank, same⟩ := trimEnd_split text
  have lowered : ∀ char ∈ blanks.map Char.toLower, isBlank char = true := by
    refine List.forall_mem_map.2 fun char member => ?_
    rw [toLower_of_caseless (isAlpha_of_isBlank (blank char member))]
    exact blank char member
  have fewer : byteLength (trimEnd text) ≤ byteLength text := by
    conv_rhs => rw [same, byteLength, List.map_append, Number.total_append]
    exact Nat.le_add_right _ _
  rw [same, List.map_append] at lexes
  exact isNotation_iff.2 ⟨expr, parse_eq_ok.2 ⟨fewer.trans short, tokens, lexes.of_append lowered, parsedTokens⟩⟩

/-! The search -/

variable {length : Nat}

theorem splitWithin_succ (text : List Char) (length : Nat) : splitWithin text (length + 1) =
    if isNotation (trimEnd (text.take (length + 1))) then
      some (trimEnd (text.take (length + 1)), trim (text.drop (length + 1)))
    else splitWithin text length := by
  rw [splitWithin]
  cases trimEnd (text.take (length + 1)) with
  | nil => simp only [isNotation_nil, Bool.and_false]
  | cons char others => rfl

theorem splitWithin_none (missing : splitWithin text length = none) :
    ∀ taken ≤ length, isNotation (trimEnd (text.take taken)) = false := by
  induction length with
  | zero =>
      intro taken none
      rw [Nat.le_zero.1 none]
      exact isNotation_nil
  | succ length inductionHypothesis =>
      rw [splitWithin_succ] at missing
      split at missing
      · cases missing
      · next refused =>
        intro taken within
        rcases Nat.le_succ_iff.1 within with shorter | rfl
        · exact inductionHypothesis missing taken shorter
        · exact Bool.eq_false_iff.2 refused

theorem splitWithin_some (found : splitWithin text length = some (head, rest)) :
    ∃ taken, head = trimEnd (text.take taken) ∧ rest = trim (text.drop taken) ∧ isNotation head = true ∧
      ∀ more ≤ length, taken < more → isNotation (trimEnd (text.take more)) = false := by
  induction length with
  | zero => cases found
  | succ length inductionHypothesis =>
      rw [splitWithin_succ] at found
      split at found
      · next accepted =>
        cases found
        refine ⟨length + 1, rfl, rfl, accepted, fun more within longer => ?_⟩
        omega
      · next refused =>
        obtain ⟨taken, sameHead, sameRest, valid, longest⟩ := inductionHypothesis found
        refine ⟨taken, sameHead, sameRest, valid, fun more within longer => ?_⟩
        rcases Nat.le_succ_iff.1 within with shorter | rfl
        · exact longest more shorter longer
        · exact Bool.eq_false_iff.2 refused

/-- Every notation at the start of a text is within reach of the search. -/
theorem length_le_reach (starts : start <+: text) (valid : isNotation start = true) :
    start.length ≤ min (text.takeWhile isNotationChar).length maxBytes := by
  obtain ⟨behind, rfl⟩ := starts
  rw [List.takeWhile_append_of_pos (isNotationChar_of_isNotation valid), List.length_append]
  exact Nat.le_min.2 ⟨Nat.le_add_right _ _, length_le_of_isNotation valid⟩

/-- A text without the white space around it is a notation, white space and a rest. Neither of the two has white space
around it, and no notation at the start of the text is longer. -/
structure Longest (text head rest : List Char) : Prop where
  valid : isNotation head = true
  split : ∃ blanks, (∀ char ∈ blanks, isBlank char = true) ∧ trim text = head ++ blanks ++ rest
  headTrimmed : trim head = head
  restTrimmed : trim rest = rest
  longest : ∀ start, start <+: trim text → isNotation start = true ∨ isNotation (trimEnd start) = true →
    trimEnd start <+: head

theorem Longest.starts (longest : Longest text head rest) : head <+: trim text := by
  obtain ⟨blanks, _, same⟩ := longest.split
  exact ⟨blanks ++ rest, by rw [same, List.append_assoc]⟩

theorem Longest.unique {other behind : List Char} (first : Longest text head rest)
    (second : Longest text other behind) : head = other ∧ rest = behind := by
  have ended := trimEnd_trim head
  have otherEnded := trimEnd_trim other
  rw [first.headTrimmed] at ended
  rw [second.headTrimmed] at otherEnded
  have within := second.longest head first.starts (.inl first.valid)
  have around := first.longest other second.starts (.inl second.valid)
  rw [ended] at within
  rw [otherEnded] at around
  obtain rfl := within.eq_of_length_le around.length_le
  obtain ⟨blanks, blank, same⟩ := first.split
  obtain ⟨others, otherBlank, otherSame⟩ := second.split
  rw [same, List.append_assoc, List.append_assoc] at otherSame
  have skipped := congrArg trimStart (List.append_cancel_left otherSame)
  have begun := trimStart_trim rest
  have otherBegun := trimStart_trim behind
  rw [first.restTrimmed] at begun
  rw [second.restTrimmed] at otherBegun
  rw [trimStart, trimStart, List.dropWhile_append_of_pos blank, List.dropWhile_append_of_pos otherBlank] at skipped
  exact ⟨rfl, begun.symm.trans (skipped.trans otherBegun)⟩

/-- A notation at the start of a trimmed text, as it is tried by the search. -/
theorem take_of_starts (starts : start <+: text) (valid : isNotation (trimEnd start) = true) :
    (trimEnd start).length ≤ min (text.takeWhile isNotationChar).length maxBytes ∧
      trimEnd (text.take (trimEnd start).length) = trimEnd start := by
  have trimmed := (trimEnd_starts start).trans starts
  refine ⟨length_le_reach trimmed valid, ?_⟩
  rw [← List.prefix_iff_eq_take.1 trimmed, trimEnd_trimEnd]

theorem longest_of_split? (found : split? text = some (head, rest)) : Longest text head rest := by
  obtain ⟨taken, rfl, rfl, valid, longest⟩ := splitWithin_some found
  have ended := trimEnd_trim text
  have begun := trimStart_trim text
  refine ⟨valid, ?_, ?_, trim_trim _, ?_⟩
  · have parts := List.take_append_drop taken (trim text)
    rw [← parts] at ended
    have restEnded := trimEnd_of_append ended
    obtain ⟨blanks, blank, sameHead⟩ := trimEnd_split ((trim text).take taken)
    obtain ⟨others, otherBlank, sameRest⟩ := trimStart_split ((trim text).drop taken)
    refine ⟨blanks ++ others, List.forall_mem_append.2 ⟨blank, otherBlank⟩, ?_⟩
    rw [trim_of_trimEnd restEnded]
    simp only [List.append_assoc]
    rw [← sameRest, ← List.append_assoc, ← sameHead, parts]
  · rw [trim_of_trimEnd (trimEnd_trimEnd _)]
    exact trimStart_of_prefix begun ((trimEnd_starts _).trans (List.take_prefix _ _))
  · intro start starts valid
    have trimmedValid : isNotation (trimEnd start) = true := valid.elim isNotation_trimEnd id
    obtain ⟨within, same⟩ := take_of_starts starts trimmedValid
    by_cases shorter : (trimEnd start).length ≤ taken
    · rw [← same]
      exact trimEnd_mono (List.take_prefix_take_left shorter)
    · have refused := longest _ within (Nat.lt_of_not_le shorter)
      rw [same, trimmedValid] at refused
      cases refused

/-- A text without the white space around it starts with no notation exactly if nothing is split off. Otherwise the
longest one is split off. -/
theorem split?_longest (text : List Char) :
    (split? text = none ↔ ∀ start, start ≠ [] → start <+: trim text → isNotation (trimEnd start) = false) ∧
      ∀ head rest, split? text = some (head, rest) ↔ Longest text head rest := by
  have refused (missing : split? text = none) (start : List Char) (starts : start <+: trim text) :
      isNotation (trimEnd start) = false := by
    refine Bool.eq_false_iff.2 fun valid => ?_
    obtain ⟨within, same⟩ := take_of_starts starts valid
    have untried := splitWithin_none missing _ within
    rw [same, valid] at untried
    cases untried
  refine ⟨⟨fun missing start _ => refused missing start, fun none => ?_⟩, fun head rest => ?_⟩
  · refine Option.eq_none_iff_forall_ne_some.2 fun ⟨head, rest⟩ split => ?_
    have longest := longest_of_split? split
    have valid := isNotation_trimEnd longest.valid
    rw [none head ?_ longest.starts] at valid
    · cases valid
    · rintro rfl
      have empty := longest.valid
      rw [isNotation_nil] at empty
      cases empty
  · refine ⟨longest_of_split?, fun longest => ?_⟩
    cases split : split? text with
    | none =>
        have valid := isNotation_trimEnd longest.valid
        rw [refused split head longest.starts] at valid
        cases valid
    | some parts =>
        obtain ⟨rfl, rfl⟩ := (longest_of_split? split).unique longest
        rfl

/-- The sign behind a notation is no part of it if nothing that it could join follows. -/
example : split? " 1d6 + 2 * 侦查".toList = some ("1d6 + 2".toList, "* 侦查".toList) := by
  decide +kernel

end Tabletop.Notation
