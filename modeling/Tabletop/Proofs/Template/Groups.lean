/-
This file proves how the groups of a template are rolled.

They are rolled in rounds. Every round takes two opening brackets away and brings none, so the rounds end. The search
for a group does not look behind a closing pair of brackets without an opening one before it, so groups behind such a
pair are left. Where brackets are paired none is left.
-/

import Tabletop.Proofs.Step
import Tabletop.Proofs.Text.Cut
import Tabletop.Template

namespace Tabletop

namespace Template

open Text

variable {totals : List Int} {text front before inside behind : List Char} {char : Char}

/-! Totals for numbers -/

/-- The character is no part of a number or of what stands for one. -/
structure IsApart (char : Char) : Prop where
  notDollar : char ≠ '$'
  notMinus : char ≠ '-'
  notDigit : char.isDigit = false
  notDecimal : isDecimal char = false

theorem isApart_opening : IsApart '[' := ⟨by decide, by decide, by decide, by decide⟩

theorem isApart_closing : IsApart ']' := ⟨by decide, by decide, by decide, by decide⟩

theorem not_mem_writeInt (apart : IsApart char) (number : Int) : char ∉ Number.writeInt number := by
  have absent (number : Nat) : char ∉ Number.writeNat number := by
    intro member
    have digit := Number.isDigit_of_mem_writeNat member
    rw [apart.notDigit] at digit
    cases digit
  unfold Number.writeInt
  split
  · exact List.not_mem_cons_of_ne_of_not_mem apart.notMinus (absent _)
  · exact absent _

theorem not_mem_shown (apart : IsApart char) (hidden : Bool) (result : Notation.Result) :
    char ∉ shown hidden result := by
  unfold shown
  split
  · exact List.not_mem_nil
  · exact not_mem_writeInt apart _

theorem not_mem_earlierTotal (apart : IsApart char) {digits : List Char} (absent : char ∉ digits) :
    char ∉ earlierTotal totals digits := by
  unfold earlierTotal
  dsimp only
  split
  · exact not_mem_writeInt apart _
  · exact List.not_mem_cons_of_ne_of_not_mem apart.notDollar absent

theorem earlierTotal_ne_nil (totals : List Int) (digits : List Char) : earlierTotal totals digits ≠ [] := by
  unfold earlierTotal Number.writeInt
  dsimp only
  split
  · split
    · exact List.cons_ne_nil _ _
    · exact Nat.toDigits_ne_nil
  · exact List.cons_ne_nil _ _

theorem withTotals_cons (other : char ≠ '$') (totals : List Int) (rest : List Char) :
    withTotals totals (char :: rest) = char :: withTotals totals rest := by
  rw [withTotals]
  exact other

theorem withTotals_dollar {digits rest others : List Char} (run : IsRun isDecimal rest digits others)
    (totals : List Int) : withTotals totals ('$' :: rest) =
      if digits.isEmpty then '$' :: withTotals totals rest
      else earlierTotal totals digits ++ withTotals totals others := by
  rw [withTotals, run.takeWhile_eq, run.dropWhile_eq]

theorem not_mem_withTotals (apart : IsApart char) (absent : char ∉ text) : char ∉ withTotals totals text := by
  fun_induction withTotals totals text with
  | case1 => exact List.not_mem_nil
  | case2 rest digits none inductionHypothesis =>
      have absentBehind := inductionHypothesis (List.not_mem_of_not_mem_cons absent)
      exact List.not_mem_cons_of_ne_of_not_mem apart.notDollar absentBehind
  | case3 rest digits some inductionHypothesis =>
      have absentBehind := List.not_mem_of_not_mem_cons absent
      have absentDigits : char ∉ rest.takeWhile isDecimal := fun member => absentBehind (List.takeWhile_subset _ member)
      have absentOthers := inductionHypothesis fun member => absentBehind (List.dropWhile_subset _ member)
      rw [List.mem_append, not_or]
      exact ⟨not_mem_earlierTotal apart absentDigits, absentOthers⟩
  | case4 other rest notDollar inductionHypothesis =>
      have absentBehind := inductionHypothesis (List.not_mem_of_not_mem_cons absent)
      exact List.not_mem_cons_of_ne_of_not_mem (List.ne_of_not_mem_cons absent) absentBehind

theorem withTotals_eq_nil (empty : withTotals totals text = []) : text = [] := by
  cases text with
  | nil => rfl
  | cons char rest =>
      by_cases dollar : char = '$'
      · subst dollar
        rw [withTotals_dollar (isRun_takeWhile isDecimal rest)] at empty
        split at empty
        · cases empty
        · exact absurd (List.append_eq_nil_iff.1 empty).1 (earlierTotal_ne_nil _ _)
      · rw [withTotals_cons dollar] at empty
        cases empty

/-- A character that has no part in numbers stays between what stands before and behind it. -/
theorem withTotals_append (apart : IsApart char) (totals : List Int) (front behind : List Char) :
    withTotals totals (front ++ char :: behind) = withTotals totals front ++ char :: withTotals totals behind := by
  fun_induction withTotals totals front with
  | case1 => exact withTotals_cons apart.notDollar _ _
  | case2 rest digits none inductionHypothesis =>
      have run := (isRun_takeWhile isDecimal rest).append apart.notDecimal behind
      rw [List.cons_append, withTotals_dollar run, if_pos none, inductionHypothesis]
      rfl
  | case3 rest digits some inductionHypothesis =>
      have run := (isRun_takeWhile isDecimal rest).append apart.notDecimal behind
      rw [List.cons_append, withTotals_dollar run, if_neg some, inductionHypothesis, List.append_assoc]
  | case4 other rest notDollar inductionHypothesis =>
      rw [List.cons_append, withTotals_cons notDollar, inductionHypothesis]
      rfl

/-- Such a character comes from one in the text. The induction is on the text behind the first of them. -/
theorem withTotals_split (apart : IsApart char) (split : withTotals totals text = front ++ char :: behind) :
    ∃ before after, text = before ++ char :: after ∧ withTotals totals before = front ∧
      withTotals totals after = behind := by
  induction long : text.length using Nat.strongRecOn generalizing text front with
  | ind size inductionHypothesis =>
    by_cases member : char ∈ text
    · obtain ⟨before, after, rfl, absent⟩ := List.eq_append_cons_of_mem member
      have first : char ∉ withTotals totals before := not_mem_withTotals apart absent
      rw [withTotals_append apart] at split
      rcases List.append_eq_append_iff.1 split with ⟨others, rfl, same⟩ | ⟨others, same, further⟩
      · cases others with
        | nil =>
            cases same
            exact ⟨before, after, rfl, (List.append_nil _).symm, rfl⟩
        | cons other others =>
            obtain ⟨rfl, further⟩ := List.cons.inj same
            have shorter : after.length < size := by
              rw [← long, List.length_append, List.length_cons]
              omega
            obtain ⟨next, last, rfl, frontNext, behindLast⟩ := inductionHypothesis _ shorter further rfl
            refine ⟨before ++ char :: next, last, by simp, ?_, behindLast⟩
            rw [withTotals_append apart, frontNext]
      · cases others with
        | nil =>
            cases further
            exact ⟨before, after, rfl, same.trans (List.append_nil _), rfl⟩
        | cons other others =>
            obtain ⟨rfl, _⟩ := List.cons.inj further
            exact absurd (same ▸ List.mem_append_right _ List.mem_cons_self) first
    · have absent : char ∉ withTotals totals text := not_mem_withTotals apart member
      rw [split] at absent
      exact absurd (List.mem_append_right _ List.mem_cons_self) absent

/-- A pair of such characters comes from a pair in the text. -/
theorem withTotals_splitPair (apart : IsApart char)
    (split : withTotals totals text = front ++ char :: char :: behind) :
    ∃ before after, text = before ++ char :: char :: after ∧ withTotals totals before = front ∧
      withTotals totals after = behind := by
  obtain ⟨before, next, rfl, frontBefore, further⟩ := withTotals_split apart split
  have atOnce : withTotals totals next = [] ++ char :: behind := further
  obtain ⟨between, after, rfl, empty, behindAfter⟩ := withTotals_split apart atOnce
  obtain rfl := withTotals_eq_nil empty
  exact ⟨before, after, rfl, frontBefore, behindAfter⟩

/-! Groups -/

theorem cutAtGroup?_of {head : List Char} (closed : cutAt? [']', ']'] text = some (head, behind))
    (opened : cutAtLast? ['[', '['] head = some (before, inside)) :
    cutAtGroup? text = some ⟨before, inside, behind⟩ := by
  unfold cutAtGroup?
  rw [closed, Option.bind_eq_bind, Option.bind_some]
  dsimp only
  rw [opened]
  rfl

theorem cutAtGroup?_eq_some {cut : GroupCut} (found : cutAtGroup? text = some cut) :
    text = cut.before ++ ['[', '['] ++ cut.inside ++ [']', ']'] ++ cut.behind := by
  obtain ⟨⟨head, behind⟩, closed, found⟩ := Option.bind_eq_some_iff.1 found
  obtain ⟨⟨before, inside⟩, opened, same⟩ := Option.bind_eq_some_iff.1 found
  cases same
  rw [cutAt?_eq_some closed, cutAtLast?_eq_some opened]

theorem pair_isPrefix {first second : Char} (other : first ≠ second) {more rest : List Char}
    (same : first :: first :: behind = more ++ second :: second :: rest) : [first, first] <+: more := by
  rcases more with _ | ⟨char, _ | ⟨next, more⟩⟩
  · exact absurd (List.cons.inj same).1 other
  · exact absurd (List.cons.inj (List.cons.inj same).2).1 other
  · obtain ⟨rfl, further⟩ := List.cons.inj same
    obtain ⟨rfl, _⟩ := List.cons.inj further
    exact ⟨more, rfl⟩

/-- Of two pairs in a text one stands before the other. -/
theorem pair_isInfix {first second : Char} (other : first ≠ second) {head rest : List Char}
    (same : before ++ first :: first :: behind = head ++ second :: second :: rest) :
    [first, first] <:+: head ∨ [second, second] <:+: before := by
  rcases List.append_eq_append_iff.1 same with ⟨more, rfl, further⟩ | ⟨more, rfl, further⟩
  · exact .inl ((pair_isPrefix other further).isInfix.trans (List.suffix_append before more).isInfix)
  · exact .inr ((pair_isPrefix other.symm further).isInfix.trans (List.suffix_append head more).isInfix)

/-- Where no group can be cut out, a closing pair stands before every opening pair that has one behind it. -/
theorem cutAtGroup?_eq_none (none : cutAtGroup? text = none)
    (split : text = before ++ ['[', '['] ++ inside ++ [']', ']'] ++ behind) : [']', ']'] <:+: before := by
  cases closed : cutAt? [']', ']'] text with
  | none =>
      have nowhere : includes [']', ']'] text ≠ true := by
        rw [includes, closed]
        decide
      refine absurd (includes_iff.2 ?_) nowhere
      exact ⟨before ++ ['[', '['] ++ inside, behind, split.symm⟩
  | some parts =>
      obtain ⟨head, rest⟩ := parts
      have unopened : ¬['[', '['] <:+: head := by
        cases opened : cutAtLast? ['[', '['] head with
        | none => exact cutAtLast?_eq_none.1 opened
        | some parts =>
            rw [cutAtGroup?_of closed opened] at none
            cases none
      have same : before ++ ('[' :: '[' :: (inside ++ [']', ']'] ++ behind)) = head ++ (']' :: ']' :: rest) := by
        have whole := split.symm.trans (cutAt?_eq_some closed)
        simpa using whole
      exact (pair_isInfix (by decide) same).resolve_left unopened

/-- Totals for numbers leave a closing pair before every opening pair that has one behind it. -/
theorem closed_withTotals (closed : ∀ before inside behind,
      text = before ++ ['[', '['] ++ inside ++ [']', ']'] ++ behind → [']', ']'] <:+: before)
    (split : withTotals totals text = before ++ ['[', '['] ++ inside ++ [']', ']'] ++ behind) :
    [']', ']'] <:+: before := by
  have opened : withTotals totals text = before ++ '[' :: '[' :: (inside ++ ']' :: ']' :: behind) := by
    simpa using split
  obtain ⟨first, next, rfl, rfl, further⟩ := withTotals_splitPair isApart_opening opened
  obtain ⟨second, last, rfl, rfl, _⟩ := withTotals_splitPair isApart_closing further
  obtain ⟨start, rest, rfl⟩ := closed first second last (by simp)
  have kept : withTotals totals (start ++ [']', ']'] ++ rest) =
      withTotals totals start ++ [']', ']'] ++ withTotals totals rest := by
    have pair := withTotals_append isApart_closing totals start (']' :: rest)
    rw [withTotals_cons isApart_closing.notDollar] at pair
    simpa using pair
  exact ⟨_, _, kept.symm⟩

/-! Rounds -/

/-- Whether the group is kept out of the text, and what is rolled in it. -/
def GroupCut.parts (cut : GroupCut) : Bool × List Char :=
  match cut.inside with
  | '!' :: body => (true, body)
  | body => (false, body)

/-- The text with a result in place of the group. -/
def GroupCut.replaced (cut : GroupCut) (result : Notation.Result) : List Char :=
  cut.before ++ shown cut.parts.1 result ++ cut.behind

/-- How the groups of a text are rolled one after the other: with the totals of the groups before and a store of faces
it takes these rolls, and at the end there is a text with all totals or an error. -/
inductive Rounds : List Int → List Char → Faces → List InlineRoll → Except Error (List Char × List Int) × Faces →
    Prop where
  | done {totals : List Int} {text : List Char} {faces : Faces} (uncut : cutAtGroup? text = none) :
      Rounds totals text faces [] (.ok (text, totals), faces)
  | fails {totals : List Int} {text : List Char} {faces rest : Faces} {cut : GroupCut} {reason : Notation.Error}
      (found : cutAtGroup? text = some cut)
      (rolled : Notation.roll (String.ofList (withTotals totals cut.parts.2)) .random faces = (.error reason, rest)) :
      Rounds totals text faces [] (.error (.dice reason), rest)
  | round {totals : List Int} {text : List Char} {faces rest : Faces} {cut : GroupCut} {result : Notation.Result}
      {rolls : List InlineRoll} {ending : Except Error (List Char × List Int) × Faces}
      (found : cutAtGroup? text = some cut)
      (rolled : Notation.roll (String.ofList (withTotals totals cut.parts.2)) .random faces = (.ok result, rest))
      (later : Rounds (totals ++ [result.total]) (cut.replaced result) rest rolls ending) :
      Rounds totals text faces (⟨none, result, cut.parts.1⟩ :: rolls) ending

section Rounds

variable {cut : GroupCut} {faces rest : Faces} {rolls : List InlineRoll} {left : List Char} {all : List Int}
  {ending : Except Error (List Char × List Int) × Faces} {error : Error}

theorem rollGroups_cut (found : cutAtGroup? text = some cut) (fuel : Nat) (totals : List Int) :
    rollGroups (fuel + 1) totals text =
      Step.dice (String.ofList (withTotals totals cut.parts.2)) .random >>= fun result =>
        addRoll ⟨none, result, cut.parts.1⟩ >>= fun _ =>
          rollGroups fuel (totals ++ [result.total]) (cut.replaced result) := by
  rw [rollGroups, found]
  rfl

/-- A group has two opening brackets of its own. -/
theorem count_cut (found : cutAtGroup? text = some cut) :
    cut.before.count '[' + cut.behind.count '[' + 2 ≤ text.count '[' := by
  have pair : ['[', '['].count '[' = 2 := rfl
  rw [cutAtGroup?_eq_some found]
  simp only [List.count_append, pair]
  omega

/-- A result brings no opening brackets. -/
theorem count_replaced (cut : GroupCut) (result : Notation.Result) :
    (cut.replaced result).count '[' = cut.before.count '[' + cut.behind.count '[' := by
  have none : (shown cut.parts.1 result).count '[' = 0 :=
    List.count_eq_zero_of_not_mem (not_mem_shown isApart_opening _ _)
  rw [GroupCut.replaced, List.count_append, List.count_append, none, Nat.add_zero]

/-- Every text comes to an end. The induction is on the number of its opening brackets. -/
theorem exists_rounds (totals : List Int) (text : List Char) (faces : Faces) :
    ∃ rolls ending, Rounds totals text faces rolls ending := by
  induction opened : text.count '[' using Nat.strongRecOn generalizing totals text faces with
  | ind size inductionHypothesis =>
    cases found : cutAtGroup? text with
    | none => exact ⟨[], _, .done found⟩
    | some cut =>
        rcases rolled : Notation.roll (String.ofList (withTotals totals cut.parts.2)) .random faces
          with ⟨reason | result, rest⟩
        · exact ⟨[], _, .fails found rolled⟩
        · have fewer : (cut.replaced result).count '[' < size := by
            have own := count_cut found
            rw [count_replaced]
            omega
          obtain ⟨rolls, ending, later⟩ := inductionHypothesis _ fewer (totals ++ [result.total]) _ rest rfl
          exact ⟨_, ending, .round found rolled later⟩

/-- With fuel for a round for every two opening brackets the rounds are what is run. -/
theorem Rounds.rollGroups_eq (rounds : Rounds totals text faces rolls ending) {fuel : Nat}
    (enough : text.count '[' / 2 ≤ fuel) (history : List InlineRoll) :
    rollGroups fuel totals text history faces = ((ending.1, history ++ rolls), ending.2) := by
  induction rounds generalizing fuel history with
  | done uncut =>
      rw [List.append_nil]
      cases fuel with
      | zero => rfl
      | succ fuel =>
          rw [rollGroups, uncut]
          rfl
  | fails found rolled =>
      have own := count_cut found
      obtain ⟨fuel, rfl⟩ := Nat.exists_eq_add_of_le' (show 1 ≤ fuel by omega)
      rw [rollGroups_cut found, Step.bind_apply, Step.dice, rolled, List.append_nil]
      rfl
  | @round _ _ _ _ cut result rolls ending found rolled later inductionHypothesis =>
      have own := count_cut found
      obtain ⟨fuel, rfl⟩ := Nat.exists_eq_add_of_le' (show 1 ≤ fuel by omega)
      have still : (cut.replaced result).count '[' / 2 ≤ fuel := by
        rw [count_replaced]
        omega
      have further := inductionHypothesis still (history ++ [⟨none, result, cut.parts.1⟩])
      rw [List.append_assoc, List.singleton_append] at further
      rw [rollGroups_cut found, Step.bind_apply, Step.dice, rolled]
      exact further

/-- Each roll has given one total, and each has taken two opening brackets. -/
theorem Rounds.of_ok (rounds : Rounds totals text faces rolls (.ok (left, all), rest)) :
    all = totals ++ rolls.map (·.result.total) ∧ cutAtGroup? left = none ∧
      2 * rolls.length + left.count '[' ≤ text.count '[' := by
  generalize same : (Except.ok (left, all), rest) = ending at rounds
  induction rounds with
  | done uncut =>
      cases same
      exact ⟨(List.append_nil _).symm, uncut, (Nat.zero_add _).le⟩
  | fails => cases same
  | round found rolled later inductionHypothesis =>
      obtain ⟨totalled, uncut, few⟩ := inductionHypothesis same
      have own := count_cut found
      rw [count_replaced] at few
      refine ⟨?_, uncut, ?_⟩
      · rw [totalled, List.append_assoc]
        rfl
      · rw [List.length_cons]
        omega

/-- The roll that fails has taken two opening brackets as well. -/
theorem Rounds.of_error (rounds : Rounds totals text faces rolls (.error error, rest)) :
    2 * (rolls.length + 1) ≤ text.count '[' := by
  generalize same : (Except.error error, rest) = ending at rounds
  induction rounds with
  | done => cases same
  | fails found rolled =>
      have own := count_cut found
      rw [List.length_nil]
      omega
  | round found rolled later inductionHypothesis =>
      have few := inductionHypothesis same
      have own := count_cut found
      rw [count_replaced] at few
      rw [List.length_cons]
      omega

/-- The groups of a text are rolled in rounds which end whatever is rolled. There are at most half as many rolls as
opening brackets, the one that fails among them. Each one that succeeds adds one roll to the history and its total to
the totals. -/
theorem rollGroups_rounds (totals : List Int) (text : List Char) (history : List InlineRoll) (faces : Faces) :
    ∃ rolls result rest, Rounds totals text faces rolls (result, rest) ∧
      (∀ more, rollGroups (text.count '[' / 2 + more) totals text history faces = ((result, history ++ rolls), rest)) ∧
      match result with
      | .ok (left, all) => all = totals ++ rolls.map (·.result.total) ∧ cutAtGroup? left = none ∧
          2 * rolls.length + left.count '[' ≤ text.count '['
      | .error _ => 2 * (rolls.length + 1) ≤ text.count '[' := by
  obtain ⟨rolls, ⟨result, rest⟩, rounds⟩ := exists_rounds totals text faces
  refine ⟨rolls, result, rest, rounds, fun more => rounds.rollGroups_eq (Nat.le_add_right _ _) history, ?_⟩
  cases result with
  | error error => exact rounds.of_error
  | ok outcome => exact rounds.of_ok

/-- A hidden group may join its neighbours to a new group. -/
example : (rollGroups 2 [] "[[[!1]][2]]".toList [] (.constant 1)).1.1.toOption = some ("2".toList, [1, 2]) := by
  decide +kernel

end Rounds

/-! Paired brackets -/

/-- Brackets stand in the text only as those of groups in double brackets. -/
inductive Paired : List Char → Prop where
  | nil : Paired []
  | char {char : Char} {text : List Char} (notOpening : char ≠ '[') (notClosing : char ≠ ']') (behind : Paired text) :
      Paired (char :: text)
  | group {inside behind : List Char} (inner : Paired inside) (further : Paired behind) :
      Paired (['[', '['] ++ inside ++ [']', ']'] ++ behind)

/-- There is no bracket in the text. -/
def IsPlain (text : List Char) : Prop :=
  '[' ∉ text ∧ ']' ∉ text

instance (text : List Char) : Decidable (IsPlain text) :=
  inferInstanceAs (Decidable (_ ∧ _))

section Paired

variable {cut : GroupCut} {faces rest : Faces} {rolls : List InlineRoll} {plain left : List Char} {all : List Int}

theorem isPlain_shown (hidden : Bool) (result : Notation.Result) : IsPlain (shown hidden result) :=
  ⟨not_mem_shown isApart_opening hidden result, not_mem_shown isApart_closing hidden result⟩

theorem IsPlain.withTotals (isPlain : IsPlain text) (totals : List Int) : IsPlain (withTotals totals text) :=
  ⟨not_mem_withTotals isApart_opening isPlain.1, not_mem_withTotals isApart_closing isPlain.2⟩

theorem Paired.plain_append (isPlain : IsPlain plain) (paired : Paired text) : Paired (plain ++ text) := by
  induction plain with
  | nil => exact paired
  | cons char plain inductionHypothesis =>
      obtain ⟨unopened, unclosed⟩ := isPlain
      have others := inductionHypothesis ⟨List.not_mem_of_not_mem_cons unopened, List.not_mem_of_not_mem_cons unclosed⟩
      exact .char (List.ne_of_not_mem_cons unopened).symm (List.ne_of_not_mem_cons unclosed).symm others

/-- The first group to be rolled stays the same if text without a closing bracket stands before and anything behind. -/
theorem cutAtGroup?_within (found : cutAtGroup? text = some cut) (unclosed : ']' ∉ front) (more : List Char) :
    cutAtGroup? (front ++ text ++ more) = some ⟨front ++ cut.before, cut.inside, cut.behind ++ more⟩ := by
  obtain ⟨⟨head, behind⟩, closed, found⟩ := Option.bind_eq_some_iff.1 found
  obtain ⟨⟨before, inside⟩, opened, same⟩ := Option.bind_eq_some_iff.1 found
  cases same
  refine cutAtGroup?_of ?_ (cutAtLast?_front opened front)
  rw [List.append_assoc, cutAt?_front unclosed, cutAt?_behind closed]
  rfl

theorem cutAtGroup?_plain (isPlain : IsPlain inside) (behind : List Char) :
    cutAtGroup? (['[', '['] ++ inside ++ [']', ']'] ++ behind) = some ⟨[], inside, behind⟩ := by
  obtain ⟨unopened, unclosed⟩ := isPlain
  have closed : cutAt? [']', ']'] (['[', '['] ++ inside ++ [']', ']'] ++ behind) = some (['[', '['] ++ inside, behind) :=
    List.append_assoc .. ▸ cutAt?_append (by simpa using unclosed) behind
  have opened : cutAtLast? ['[', '['] (['[', '['] ++ inside) = some ([], inside) := by
    have nowhere : cutAtLast? ['[', '['] ('[' :: inside) = none := by
      rw [cutAtLast?, cutAtLast?_of_not_mem unopened, after?, if_pos rfl]
      cases inside with
      | nil => rfl
      | cons char inside => rw [after?, if_neg (List.ne_of_not_mem_cons unopened), Option.map_none]
    rw [List.cons_append, List.singleton_append, cutAtLast?, nowhere]
    exact congrArg (Option.map _) (after?_append ['[', '['] inside)
  exact cutAtGroup?_of closed opened

/-- In a text with paired brackets there is a group to be rolled unless there is no bracket at all, and the brackets are
still paired with plain text in place of the group. -/
theorem Paired.plain_or_cut (paired : Paired text) : IsPlain text ∨
    ∃ cut, cutAtGroup? text = some cut ∧ ∀ plain, IsPlain plain → Paired (cut.before ++ plain ++ cut.behind) := by
  induction paired with
  | nil => exact .inl ⟨List.not_mem_nil, List.not_mem_nil⟩
  | @char char text notOpening notClosing behind inductionHypothesis =>
      rcases inductionHypothesis with ⟨unopened, unclosed⟩ | ⟨cut, found, stillPaired⟩
      · exact .inl ⟨List.not_mem_cons_of_ne_of_not_mem notOpening.symm unopened,
          List.not_mem_cons_of_ne_of_not_mem notClosing.symm unclosed⟩
      · have unclosed : ']' ∉ [char] := by simpa using notClosing.symm
        have here := cutAtGroup?_within found unclosed []
        rw [List.append_nil] at here
        refine .inr ⟨_, here, fun plain isPlain => ?_⟩
        have same := Paired.char notOpening notClosing (stillPaired plain isPlain)
        simpa using same
  | @group inside behind inner further innerHypothesis _ =>
      rcases innerHypothesis with isPlain | ⟨cut, found, stillPaired⟩
      · refine .inr ⟨_, cutAtGroup?_plain isPlain behind, fun plain isPlain => ?_⟩
        exact Paired.plain_append isPlain further
      · have unclosed : ']' ∉ ['[', '['] := by decide
        have here := cutAtGroup?_within found unclosed ([']', ']'] ++ behind)
        refine .inr ⟨_, by simpa using here, fun plain isPlain => ?_⟩
        have same := Paired.group (stillPaired plain isPlain) further
        simpa using same

theorem Rounds.isPlain (rounds : Rounds totals text faces rolls (.ok (left, all), rest)) (paired : Paired text) :
    IsPlain left := by
  generalize same : (Except.ok (left, all), rest) = ending at rounds
  induction rounds with
  | done uncut =>
      cases same
      rcases paired.plain_or_cut with isPlain | ⟨cut, found, _⟩
      · exact isPlain
      · rw [uncut] at found
        cases found
  | fails => cases same
  | round found rolled later inductionHypothesis =>
      refine inductionHypothesis ?_ same
      rcases paired.plain_or_cut with ⟨_, unclosed⟩ | ⟨cut, again, stillPaired⟩
      · rw [cutAtGroup?_eq_some found] at unclosed
        simp at unclosed
      · rw [found] at again
        cases again
        exact stillPaired _ (isPlain_shown _ _)

end Paired

/-! Whole expansions -/

/-- The text with what stands for its references. -/
def withReferences (card : Option Card) (room : Nat) (text : List Char) : Expanding (List Char) :=
  match card with
  | some card => expandPieces (expandWithin (some card) room) card (pieces text)
  | none => pure text

section Expansions

variable {card : Option Card} {room : Nat} {history after : List InlineRoll} {faces rest : Faces} {result : List Char}

theorem expandWithin_succ (card : Option Card) (room : Nat) (text : List Char) :
    expandWithin card (room + 1) text = withReferences card room text >>= fun text =>
      rollGroups (text.count '[') [] text >>= fun (text, totals) => pure (withTotals totals text) := by
  cases card <;> rfl

/-- An expansion that succeeds has rolled the groups of the text with its references. -/
theorem expandWithin_rounds (done : expandWithin card (room + 1) text history faces = ((.ok result, after), rest)) :
    ∃ replaced middle between rolls left all,
      withReferences card room text history faces = ((.ok replaced, middle), between) ∧
      Rounds [] replaced between rolls (.ok (left, all), rest) ∧ result = withTotals all left := by
  rw [expandWithin_succ] at done
  obtain ⟨replaced, middle, between, made, finished⟩ := Step.bind_ok done
  obtain ⟨⟨left, all⟩, _, _, rolled, placed⟩ := Step.bind_ok finished
  cases placed
  obtain ⟨rolls, ⟨result, rest⟩, rounds⟩ := exists_rounds [] replaced between
  rw [rounds.rollGroups_eq (Nat.div_le_self _ 2)] at rolled
  cases rolled
  exact ⟨replaced, middle, between, rolls, left, all, made, rounds, rfl⟩

/-- A group is left in an expanded text only behind a closing pair of brackets. No bracket is left if they are paired in
the text with its references. -/
theorem expandWithin_groups (done : expandWithin card room text history faces = ((.ok result, after), rest)) :
    (∀ before inside behind, result = before ++ ['[', '['] ++ inside ++ [']', ']'] ++ behind →
      [']', ']'] <:+: before) ∧
    ∃ replaced middle between, withReferences card (room - 1) text history faces = ((.ok replaced, middle), between) ∧
      (Paired replaced → IsPlain result) := by
  cases room with
  | zero => cases done
  | succ room =>
      obtain ⟨replaced, middle, between, rolls, left, all, made, rounds, rfl⟩ := expandWithin_rounds done
      obtain ⟨-, uncut, -⟩ := rounds.of_ok
      constructor
      · intro before inside behind split
        exact closed_withTotals (fun _ _ _ => cutAtGroup?_eq_none uncut) split
      · exact ⟨replaced, middle, between, made, fun paired => (rounds.isPlain paired).withTotals all⟩

theorem expandWithin_groups_nested :
    let outcome := expandWithin none 1 "d4 [[[[1+1]]d6+$1]]".toList [] (.constant 3)
    outcome.1.1 = .ok "d4 8".toList ∧
      (∀ before inside behind, "d4 8".toList = before ++ ['[', '['] ++ inside ++ [']', ']'] ++ behind →
        [']', ']'] <:+: before) ∧
      IsPlain "d4 8".toList := by
  intro outcome
  have expanded : outcome.1.1 = .ok "d4 8".toList := by decide +kernel
  have done : outcome = ((.ok "d4 8".toList, outcome.1.2), outcome.2) := Prod.ext (Prod.ext expanded rfl) rfl
  obtain ⟨closed, replaced, middle, between, made, plain⟩ := expandWithin_groups done
  cases made
  have plainText (text : List Char) (isPlain : IsPlain text) : Paired text :=
    List.append_nil text ▸ .plain_append isPlain .nil
  have sum : Paired "1+1".toList := plainText _ (by decide)
  have throw : Paired "[[1+1]]d6+$1".toList := .group sum (plainText _ (by decide))
  have whole : Paired "d4 [[[[1+1]]d6+$1]]".toList := .char (by decide) (by decide)
    (.char (by decide) (by decide) (.char (by decide) (by decide) (.group throw .nil)))
  exact ⟨expanded, closed, plain whole⟩

/-- Behind a closing pair of brackets that has no opening pair before it groups are not rolled. -/
theorem expandWithin_groups_stray :
    (expand none "]] [[d6]]".toList [] (.constant 3)).1 = (.ok "]] [[d6]]".toList, []) ∧
      "]] [[d6]]".toList = "]] ".toList ++ ['[', '['] ++ "d6".toList ++ [']', ']'] ++ [] := by
  decide +kernel

end Expansions

end Template

end Tabletop
