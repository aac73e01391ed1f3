/-
This file proves where texts are cut, at marks and behind runs of characters, what trimming takes off a text and leaves
alone, and that words and lines that were put together come apart again.
-/

import Mathlib.Data.List.Basic
import Mathlib.Data.List.DropRight
import Tabletop.Text.Cut

namespace Tabletop.Text

variable {first char : Char} {others before behind front text mark : List Char}

theorem after?_append (lead text : List Char) : after? lead (lead ++ text) = some text := by
  induction lead with
  | nil => rfl
  | cons char lead inductionHypothesis =>
      rw [List.cons_append, after?, if_pos rfl]
      exact inductionHypothesis

theorem after?_eq_some {lead rest : List Char} : after? lead text = some rest ↔ text = lead ++ rest := by
  refine ⟨fun found => ?_, fun same => same ▸ after?_append lead rest⟩
  fun_induction after? lead text with
  | case1 text =>
      cases found
      rfl
  | case2 => cases found
  | case3 expected lead text inductionHypothesis => rw [inductionHypothesis found, List.cons_append]
  | case4 => cases found

theorem after?_eq_none {lead : List Char} (none : after? lead text = none) : ¬lead <+: text := by
  rintro ⟨rest, rfl⟩
  rw [after?_append] at none
  cases none

/-- A text includes a mark exactly if the mark stands somewhere in it. -/
theorem includes_iff : includes mark text = true ↔ mark <:+: text := by
  unfold includes
  induction text with
  | nil =>
      rw [cutAt?, List.infix_nil, ← List.isEmpty_iff]
      cases mark.isEmpty <;> decide
  | cons char text inductionHypothesis =>
      rw [cutAt?, List.infix_cons_iff]
      cases here : after? mark (char :: text) with
      | some behind => exact iff_of_true rfl (.inl ⟨behind, (after?_eq_some.1 here).symm⟩)
      | none => rw [or_iff_right (after?_eq_none here), ← inductionHypothesis, Option.isSome_map]

/-- A mark does not begin at another character than its first one. -/
theorem cutAt?_cons (other : char ≠ first) (text : List Char) : cutAt? (first :: others) (char :: text) =
    (cutAt? (first :: others) text).map fun (before, behind) => (char :: before, behind) := by
  rw [cutAt?, after?, if_neg (Ne.symm other)]

/-- A mark does not begin where another character than its second one stands behind its first one. -/
theorem cutAt?_cons_cons {second : Char} (other : char ≠ second) (text : List Char) :
    cutAt? (first :: second :: others) (first :: char :: text) =
      (cutAt? (first :: second :: others) (char :: text)).map fun (before, behind) => (first :: before, behind) := by
  rw [cutAt?, after?, if_pos rfl, after?, if_neg (Ne.symm other)]

theorem cutAt?_mark (text : List Char) :
    cutAt? (first :: others) ((first :: others) ++ text) = some ([], text) := by
  have found := after?_append (first :: others) text
  rw [List.cons_append] at found ⊢
  rw [cutAt?, found]

/-- What stands before the mark may be longer. -/
theorem cutAt?_front (absent : first ∉ front) (text : List Char) : cutAt? (first :: others) (front ++ text) =
    (cutAt? (first :: others) text).map fun (before, behind) => (front ++ before, behind) := by
  induction front with
  | nil => simp
  | cons char front inductionHypothesis =>
      have other : char ≠ first := (List.ne_of_not_mem_cons absent).symm
      rw [List.cons_append, cutAt?_cons other, inductionHypothesis (List.not_mem_of_not_mem_cons absent),
        Option.map_map]
      rfl

theorem cutAt?_append (absent : first ∉ before) (text : List Char) :
    cutAt? (first :: others) (before ++ ((first :: others) ++ text)) = some (before, text) := by
  rw [cutAt?_front absent, cutAt?_mark]
  exact congrArg (fun front => some (front, text)) (List.append_nil before)

theorem cutAt?_eq_some (found : cutAt? mark text = some (before, behind)) : text = before ++ mark ++ behind := by
  induction text generalizing before with
  | nil =>
      unfold cutAt? at found
      split at found
      · next none =>
        cases found
        rw [List.isEmpty_iff.1 none]
        rfl
      · cases found
  | cons char text inductionHypothesis =>
      unfold cutAt? at found
      split at found
      · next here =>
        cases found
        exact after?_eq_some.1 here
      · obtain ⟨⟨front, rest⟩, further, same⟩ := Option.map_eq_some_iff.1 found
        cases same
        rw [inductionHypothesis further]
        rfl

/-- What stands behind the mark may be longer. -/
theorem cutAt?_behind (found : cutAt? (first :: others) text = some (before, behind)) (more : List Char) :
    cutAt? (first :: others) (text ++ more) = some (before, behind ++ more) := by
  induction text generalizing before with
  | nil => cases found
  | cons char text inductionHypothesis =>
      unfold cutAt? at found
      split at found
      · next here =>
        cases found
        rw [after?_eq_some.1 here, List.append_assoc]
        exact cutAt?_mark _
      · next nowhere =>
        obtain ⟨⟨front, rest⟩, further, same⟩ := Option.map_eq_some_iff.1 found
        cases same
        -- The mark is found further on, so one that began here would end inside the text.
        have stillNowhere : after? (first :: others) (char :: (text ++ more)) = none := by
          by_contra somewhere
          obtain ⟨rest, here⟩ := Option.ne_none_iff_exists'.1 somewhere
          have inside : (first :: others).length ≤ (char :: text).length := by
            have longer := congrArg List.length (cutAt?_eq_some further)
            simp only [List.length_append, List.length_cons] at longer ⊢
            omega
          have starts : first :: others <+: char :: text :=
            List.prefix_of_prefix_length_le ⟨rest, (after?_eq_some.1 here).symm⟩ (List.prefix_append _ more) inside
          exact after?_eq_none nowhere starts
        rw [List.cons_append, cutAt?, stillNowhere, inductionHypothesis further]
        rfl

theorem cutAtLast?_eq_some (found : cutAtLast? mark text = some (before, behind)) :
    text = before ++ mark ++ behind := by
  induction text generalizing before with
  | nil =>
      unfold cutAtLast? at found
      split at found
      · next none =>
        cases found
        rw [List.isEmpty_iff.1 none]
        rfl
      · cases found
  | cons char text inductionHypothesis =>
      unfold cutAtLast? at found
      split at found
      · next front rest further =>
        cases found
        rw [inductionHypothesis further]
        rfl
      · obtain ⟨rest, here, same⟩ := Option.map_eq_some_iff.1 found
        cases same
        exact after?_eq_some.1 here

theorem cutAtLast?_eq_none : cutAtLast? mark text = none ↔ ¬mark <:+: text := by
  constructor
  · intro none
    induction text with
    | nil =>
        unfold cutAtLast? at none
        split at none
        · cases none
        · next some => rwa [List.infix_nil, ← List.isEmpty_iff]
    | cons char text inductionHypothesis =>
        unfold cutAtLast? at none
        split at none
        · cases none
        · next nowhere =>
          rw [List.infix_cons_iff, not_or]
          exact ⟨after?_eq_none (Option.map_eq_none_iff.1 none), inductionHypothesis nowhere⟩
  · intro absent
    by_contra somewhere
    obtain ⟨⟨before, behind⟩, found⟩ := Option.ne_none_iff_exists'.1 somewhere
    exact absent ⟨before, behind, (cutAtLast?_eq_some found).symm⟩

theorem cutAtLast?_of_not_mem (absent : first ∉ text) : cutAtLast? (first :: others) text = none :=
  cutAtLast?_eq_none.2 fun inside => absent (inside.subset List.mem_cons_self)

theorem cutAtLast?_front (found : cutAtLast? mark text = some (before, behind)) (front : List Char) :
    cutAtLast? mark (front ++ text) = some (front ++ before, behind) := by
  induction front with
  | nil => exact found
  | cons char front inductionHypothesis =>
      rw [List.cons_append, cutAtLast?, inductionHypothesis]
      rfl

/-! Runs -/

section Runs

variable {part : Char → Bool} {run rest : List Char}

/-- A text begins with a run of characters of one kind, and what follows does not continue it. -/
structure IsRun (part : Char → Bool) (text run rest : List Char) : Prop where
  spelled : text = run ++ rest
  all : ∀ char ∈ run, part char = true
  stops : ∀ char ∈ rest.head?, part char = false

theorem isRun_takeWhile (part : Char → Bool) (text : List Char) :
    IsRun part text (text.takeWhile part) (text.dropWhile part) where
  spelled := List.takeWhile_append_dropWhile.symm
  all := List.all_eq_true.1 List.all_takeWhile
  stops := by
    intro char first
    have other := List.head?_dropWhile_not part text
    rwa [Option.mem_def.1 first] at other

theorem IsRun.takeWhile_eq (isRun : IsRun part text run rest) : text.takeWhile part = run := by
  rw [isRun.spelled, List.takeWhile_append_of_pos isRun.all]
  cases behind : rest with
  | nil => simp
  | cons char rest =>
      have other := isRun.stops char (by rw [behind]; rfl)
      rw [List.takeWhile_cons_of_neg (by rw [other]; decide), List.append_nil]

theorem IsRun.dropWhile_eq (isRun : IsRun part text run rest) : text.dropWhile part = rest := by
  have whole := List.takeWhile_append_dropWhile (p := part) (l := text)
  rw [isRun.takeWhile_eq] at whole
  exact List.append_cancel_left (whole.trans isRun.spelled)

/-- A run that ends inside a text or at its end is the same with a character of another kind behind the text. -/
theorem IsRun.append (isRun : IsRun part text run rest)
    (other : part char = false) (more : List Char) : IsRun part (text ++ char :: more) run (rest ++ char :: more) where
  spelled := by rw [isRun.spelled, List.append_assoc]
  all := isRun.all
  stops := by
    cases rest with
    | nil =>
        intro first same
        cases same
        exact other
    | cons char rest => exact isRun.stops

/-- A run ends in front of a character of another kind. -/
theorem isRun_append (all : ∀ char ∈ run, part char = true) (other : part char = false) :
    IsRun part (run ++ char :: rest) run (char :: rest) where
  spelled := rfl
  all := all
  stops := by
    intro first same
    cases same
    exact other

end Runs

/-! Trimming -/

/-- A character that is not white space stands in front of a text that has none at its ends. -/
theorem trim_cons (visible : isBlank char = false) (some : text ≠ []) (trimmed : trim text = text) :
    trim (char :: text) = char :: text := by
  have started : trimStart text = text := by
    have shorter : (trim text).length ≤ (trimStart text).length := by
      simp only [trim, trimEnd, List.length_reverse]
      simpa using (List.dropWhile_suffix (l := (trimStart text).reverse) isBlank).length_le
    rw [trimmed] at shorter
    exact (List.dropWhile_suffix isBlank).eq_of_length_le shorter
  have ended : text.reverse.dropWhile isBlank = text.reverse := by
    rw [trim, started, trimEnd] at trimmed
    exact List.reverse_eq_iff.1 trimmed
  have wholeStart : trimStart (char :: text) = char :: text := List.dropWhile_cons_of_neg (by simp [visible])
  have somethingLeft : ¬(text.reverse.dropWhile isBlank).isEmpty = true := by simpa [ended] using some
  rw [trim, wholeStart, trimEnd, List.reverse_cons, List.dropWhile_append, if_neg somethingLeft, ended,
    ← List.reverse_cons, List.reverse_reverse]

variable {start rest : List Char}

theorem trimEnd_starts (text : List Char) : trimEnd text <+: text :=
  List.rdropWhile_prefix isBlank text

theorem trimEnd_trimEnd (text : List Char) : trimEnd (trimEnd text) = trimEnd text :=
  List.rdropWhile_idempotent isBlank text

/-- Only white space is trimmed. -/
theorem trimEnd_split (text : List Char) :
    ∃ blanks, (∀ char ∈ blanks, isBlank char = true) ∧ text = trimEnd text ++ blanks :=
  ⟨text.rtakeWhile isBlank, fun _ => List.mem_rtakeWhile_imp, (List.rdropWhile_append_rtakeWhile ..).symm⟩

theorem trimEnd_append (start rest : List Char) :
    trimEnd (start ++ rest) = if (trimEnd rest).isEmpty then trimEnd start else start ++ trimEnd rest := by
  simp only [trimEnd, List.reverse_append, List.dropWhile_append, List.isEmpty_reverse]
  split <;> simp

/-- The end of a text that ends in no white space does not end in white space either. -/
theorem trimEnd_of_append (ended : trimEnd (start ++ rest) = start ++ rest) : trimEnd rest = rest := by
  rw [trimEnd_append] at ended
  split at ended
  · have shorter := (trimEnd_starts start).length_le
    rw [ended, List.length_append] at shorter
    rw [List.length_eq_zero_iff.1 (by omega : rest.length = 0)]
    rfl
  · exact List.append_cancel_left ended

/-- Trimming keeps texts that start one another. -/
theorem trimEnd_mono (starts : start <+: text) : trimEnd start <+: trimEnd text := by
  obtain ⟨rest, rfl⟩ := starts
  rw [trimEnd_append]
  split
  · exact List.prefix_rfl
  · exact (trimEnd_starts start).trans (List.prefix_append _ _)

/-! Trimming both ends -/

theorem trimStart_split (text : List Char) :
    ∃ blanks, (∀ char ∈ blanks, isBlank char = true) ∧ text = blanks ++ trimStart text :=
  ⟨text.takeWhile isBlank, fun _ => List.mem_takeWhile_imp, (List.takeWhile_append_dropWhile ..).symm⟩

theorem trimEnd_trim (text : List Char) : trimEnd (trim text) = trim text :=
  trimEnd_trimEnd _

/-- A text that ends in no white space is trimmed at its start alone. -/
theorem trim_of_trimEnd (ended : trimEnd text = text) : trim text = trimStart text := by
  obtain ⟨blanks, _, same⟩ := trimStart_split text
  rw [same] at ended
  exact trimEnd_of_append ended

theorem trimStart_of_prefix (begun : trimStart text = text) (starts : start <+: text) : trimStart start = start := by
  cases start with
  | nil => rfl
  | cons char others =>
      obtain ⟨rest, rfl⟩ := starts
      have visible := List.dropWhile_eq_self_iff.1 begun (by simp)
      exact List.dropWhile_cons_of_neg visible

theorem trimStart_trim (text : List Char) : trimStart (trim text) = trim text :=
  trimStart_of_prefix (List.dropWhile_idempotent isBlank text) (trimEnd_starts _)

theorem trim_trim (text : List Char) : trim (trim text) = trim text := by
  rw [trim_of_trimEnd (trimEnd_trim text), trimStart_trim]

/-! Texts without blanks -/

variable {word : List Char} {texts : List (List Char)}

/-- The text has no white space. -/
def Solid (text : List Char) : Prop :=
  ∀ char ∈ text, isBlank char = false

instance (text : List Char) : Decidable (Solid text) :=
  List.decidableBAll _ _

theorem Solid.append (first : Solid front) (second : Solid behind) : Solid (front ++ behind) := fun char member =>
  (List.mem_append.1 member).elim (first char) (second char)

theorem Solid.cons (visible : isBlank char = false) (solid : Solid text) : Solid (char :: text) :=
  List.forall_mem_cons.2 ⟨visible, solid⟩

theorem Solid.of_cons (solid : Solid (char :: text)) : Solid text :=
  (List.forall_mem_cons.1 solid).2

theorem Solid.of_append (solid : Solid (front ++ behind)) : Solid front ∧ Solid behind :=
  ⟨fun char member => solid char (List.mem_append_left _ member),
    fun char member => solid char (List.mem_append_right _ member)⟩

/-! Words -/

theorem words_cons (char : Char) (rest : List Char) : words (char :: rest) =
    if isBlank char = true then words rest
    else
      match rest, words rest with
      | next :: _, word :: others =>
        if isBlank next then [char] :: word :: others else (char :: word) :: others
      | _, others => [char] :: others := rfl

theorem words_blank (blank : isBlank char = true) (text : List Char) : words (char :: text) = words text := by
  rw [words_cons, if_pos blank]

/-- A word that stands in front of a blank or at the end is the first one. -/
theorem words_append (some : word ≠ []) (solid : Solid word) (ends : ∀ char ∈ text.head?, isBlank char = true) :
    words (word ++ text) = word :: words text := by
  induction word with
  | nil => exact absurd rfl some
  | cons char word inductionHypothesis =>
      have visible := solid char List.mem_cons_self
      cases word with
      | nil =>
          rw [List.cons_append, List.nil_append, words_cons, if_neg (by rw [visible]; decide)]
          cases text with
          | nil => rfl
          | cons next text =>
              have blank := ends next rfl
              rw [words_blank blank]
              cases words text with
              | nil => rfl
              | cons first others => exact if_pos blank
      | cons next word =>
          have rest : words (next :: word ++ text) = (next :: word) :: words text :=
            inductionHypothesis (List.cons_ne_nil _ _) fun char member => solid char (List.mem_cons_of_mem _ member)
          have nextVisible := solid next (List.mem_cons_of_mem _ List.mem_cons_self)
          rw [List.cons_append, words_cons, if_neg (by rw [visible]; decide), rest]
          exact if_neg (by rw [nextVisible]; decide)

/-- Words with blanks between them. -/
theorem words_intercalate (some : ∀ word ∈ texts, word ≠ []) (solid : ∀ word ∈ texts, Solid word) :
    words ([' '].intercalate texts) = texts := by
  induction texts with
  | nil => rfl
  | cons word texts inductionHypothesis =>
      have rest := inductionHypothesis (fun word member => some word (List.mem_cons_of_mem _ member))
        fun word member => solid word (List.mem_cons_of_mem _ member)
      have here := some word List.mem_cons_self
      have plain := solid word List.mem_cons_self
      cases texts with
      | nil =>
          have alone : words (word ++ []) = [word] := words_append here plain (by simp)
          rw [List.append_nil] at alone
          rw [List.intercalate_singleton, alone]
      | cons next texts =>
          rw [List.intercalate_cons_cons, List.append_assoc, words_append here plain (by simp; decide),
            List.singleton_append, words_blank (by decide), rest]

/-- A visible character is a word of its own, or it begins the next word. -/
theorem words_visible (visible : isBlank char = false) (text : List Char) :
    words (char :: text) = [char] :: words text ∨
      ∃ word others, words text = word :: others ∧ words (char :: text) = (char :: word) :: others := by
  rw [words_cons, if_neg (by rw [visible]; decide)]
  cases text with
  | nil => exact .inl rfl
  | cons next text =>
      cases words (next :: text) with
      | nil => exact .inl rfl
      | cons word others =>
          cases blank : isBlank next with
          | true => exact .inl (if_pos blank)
          | false => exact .inr ⟨word, others, rfl, if_neg (by rw [blank]; decide)⟩

/-- Words are made of characters that are not blank. -/
theorem mem_words (member : word ∈ words text) : Solid word := by
  induction text generalizing word with
  | nil => cases member
  | cons char text inductionHypothesis =>
      cases blank : isBlank char with
      | true =>
          rw [words_blank blank] at member
          exact inductionHypothesis member
      | false =>
          rcases words_visible blank text with alone | ⟨first, others, rest, longer⟩
          · rw [alone] at member
            rcases List.mem_cons.1 member with rfl | later
            · simpa [Solid] using blank
            · exact inductionHypothesis later
          · rw [longer] at member
            rw [rest] at inductionHypothesis
            rcases List.mem_cons.1 member with rfl | later
            · intro other there
              rcases List.mem_cons.1 there with rfl | there
              · exact blank
              · exact inductionHypothesis List.mem_cons_self other there
            · exact inductionHypothesis (List.mem_cons_of_mem _ later)

theorem words_ne_nil (member : char ∈ text) (visible : isBlank char = false) : words text ≠ [] := by
  induction text with
  | nil => cases member
  | cons first text inductionHypothesis =>
      cases blank : isBlank first with
      | true =>
          rw [words_blank blank]
          rcases List.mem_cons.1 member with rfl | later
          · rw [visible] at blank
            cases blank
          · exact inductionHypothesis later
      | false =>
          rcases words_visible blank text with alone | ⟨word, others, _, longer⟩
          · exact alone ▸ List.cons_ne_nil _ _
          · exact longer ▸ List.cons_ne_nil _ _

/-- A text is cut at the first place of a single character. -/
theorem cutAt?_single (mark : Char) (text : List Char) :
    mark ∉ text ∧ cutAt? [mark] text = none ∨
      ∃ before behind, mark ∉ before ∧ text = before ++ mark :: behind ∧
        cutAt? [mark] text = some (before, behind) := by
  by_cases member : mark ∈ text
  · obtain ⟨before, behind, rfl, absent⟩ := List.eq_append_cons_of_mem member
    exact .inr ⟨before, behind, absent, rfl, cutAt?_append absent behind⟩
  · have nothing : cutAt? [mark] (text ++ []) = none := cutAt?_front member []
    rw [List.append_nil] at nothing
    exact .inl ⟨member, nothing⟩

/-! Lines -/

theorem splitBy_of_absent {cut : Char → Bool} (absent : ∀ char ∈ text, cut char = false) :
    splitBy cut text = [text] := by
  induction text with
  | nil => rfl
  | cons char text inductionHypothesis =>
      rw [splitBy, if_neg (by rw [absent char List.mem_cons_self]; decide),
        inductionHypothesis fun other member => absent other (List.mem_cons_of_mem _ member)]

theorem splitBy_ne_nil (cut : Char → Bool) (text : List Char) : splitBy cut text ≠ [] := by
  cases text with
  | nil => exact List.cons_ne_nil _ _
  | cons char text =>
      rw [splitBy]
      split
      · exact List.cons_ne_nil _ _
      · split <;> exact List.cons_ne_nil _ _

/-- The pieces around a mark are those in front of it and those behind it. -/
theorem splitBy_append {cut : Char → Bool} {mark : Char} (marks : cut mark = true) (front behind : List Char) :
    splitBy cut (front ++ mark :: behind) = splitBy cut front ++ splitBy cut behind := by
  induction front with
  | nil => exact if_pos marks
  | cons char front inductionHypothesis =>
      rw [List.cons_append, splitBy, splitBy]
      split
      · rw [inductionHypothesis, List.cons_append]
      · rw [inductionHypothesis]
        cases pieces : splitBy cut front with
        | nil => exact absurd pieces (splitBy_ne_nil cut front)
        | cons piece others => rfl

/-- The last piece ends as the text does. -/
theorem getLast?_splitBy (cut : Char → Bool) (goes : cut char = false) (front : List Char) :
    ∃ piece, (splitBy cut (front ++ [char])).getLast? = some (piece ++ [char]) := by
  induction front with
  | nil => exact ⟨[], by rw [List.nil_append, splitBy, if_neg (by rw [goes]; decide)]; rfl⟩
  | cons first front inductionHypothesis =>
      obtain ⟨piece, last⟩ := inductionHypothesis
      rw [List.cons_append, splitBy]
      split
      · exact ⟨piece, by rw [List.getLast?_cons, last]; rfl⟩
      · cases pieces : splitBy cut (front ++ [char]) with
        | nil => exact absurd pieces (splitBy_ne_nil cut _)
        | cons word others =>
            rw [pieces] at last
            cases others with
            | nil =>
                cases last
                exact ⟨first :: piece, rfl⟩
            | cons next others => exact ⟨piece, last⟩

/-- Lines without line feeds behind a text are pieces of their own. -/
theorem splitBy_intercalate (whole : ∀ line ∈ texts, '\n' ∉ line) (text : List Char) :
    splitBy (· == '\n') (['\n'].intercalate (text :: texts)) = splitBy (· == '\n') text ++ texts := by
  induction texts generalizing text with
  | nil => rw [List.intercalate_singleton, List.append_nil]
  | cons line texts inductionHypothesis =>
      have absent : ∀ char ∈ line, (char == '\n') = false := by
        intro char member
        rw [beq_eq_false_iff_ne]
        rintro rfl
        exact whole line List.mem_cons_self member
      rw [List.intercalate_cons_cons, List.append_assoc, List.singleton_append, splitBy_append (by rfl),
        inductionHypothesis (fun line member => whole line (List.mem_cons_of_mem _ member)),
        splitBy_of_absent absent, List.singleton_append]

/-- The text ends with a character that is not blank. -/
def EndsVisibly (text : List Char) : Prop :=
  ∃ front char, text = front ++ [char] ∧ isBlank char = false

theorem EndsVisibly.append (ends : EndsVisibly behind) (front : List Char) : EndsVisibly (front ++ behind) := by
  obtain ⟨start, char, rfl, visible⟩ := ends
  exact ⟨front ++ start, char, (List.append_assoc _ _ _).symm, visible⟩

theorem Solid.endsVisibly (solid : Solid text) (some : text ≠ []) : EndsVisibly text :=
  ⟨text.dropLast, text.getLast some, (List.dropLast_append_getLast some).symm, solid _ (List.getLast_mem some)⟩

theorem EndsVisibly.dropReturn (ends : EndsVisibly text) : dropReturn text = text := by
  obtain ⟨front, char, rfl, visible⟩ := ends
  have other : '\r' ≠ char := by
    rintro rfl
    cases visible
  rw [Text.dropReturn, before?, List.reverse_append, List.reverse_singleton, List.reverse_singleton,
    List.singleton_append, after?, if_neg other]
  rfl

theorem EndsVisibly.words_ne_nil (ends : EndsVisibly text) : words text ≠ [] := by
  obtain ⟨front, char, rfl, visible⟩ := ends
  exact Text.words_ne_nil (List.mem_append_right _ (List.mem_singleton_self char)) visible

/-- The last of several texts is where they end together. -/
theorem endsVisibly_intercalate (separator : List Char) (some : texts ≠ [])
    (ends : ∀ text ∈ texts, EndsVisibly text) : EndsVisibly (separator.intercalate texts) := by
  induction texts with
  | nil => exact absurd rfl some
  | cons text texts inductionHypothesis =>
      cases texts with
      | nil =>
          rw [List.intercalate_singleton]
          exact ends text List.mem_cons_self
      | cons next texts =>
          rw [List.intercalate_cons_cons]
          exact (inductionHypothesis (List.cons_ne_nil _ _) fun line member =>
            ends line (List.mem_cons_of_mem _ member)).append _

theorem mem_intercalate {separator : List Char} (member : char ∈ separator.intercalate texts) :
    char ∈ separator ∨ ∃ text ∈ texts, char ∈ text := by
  induction texts with
  | nil => cases member
  | cons text texts inductionHypothesis =>
      cases texts with
      | nil =>
          rw [List.intercalate_singleton] at member
          exact .inr ⟨text, List.mem_cons_self, member⟩
      | cons next texts =>
          rw [List.intercalate_cons_cons, List.append_assoc, List.mem_append, List.mem_append] at member
          rcases member with here | between | later
          · exact .inr ⟨text, List.mem_cons_self, here⟩
          · exact .inl between
          · exact (inductionHypothesis later).imp_right fun ⟨line, listed, inside⟩ =>
              ⟨line, List.mem_cons_of_mem _ listed, inside⟩

/-- The lines of a text whose last line does not end with a blank. -/
theorem lines_eq {last : List Char} (ends : EndsVisibly last)
    (isLast : (splitBy (· == '\n') text).getLast? = some last) :
    lines text = (splitBy (· == '\n') text).map dropReturn := by
  obtain ⟨pieces, split⟩ := List.getLast?_eq_some_iff.1 isLast
  obtain ⟨front, char, same, visible⟩ := id ends
  have some : last.isEmpty = false := by
    rw [same, List.isEmpty_eq_false_iff]
    exact List.append_ne_nil_of_right_ne_nil _ (List.cons_ne_nil _ _)
  rw [lines, split, List.dropLast_concat, List.getLast?_concat, List.map_append, List.map_singleton,
    ends.dropReturn, Option.toList_some, List.filter_singleton, some]
  rfl

end Tabletop.Text
