/-
This file proves what literals with slots find in texts.

A literal takes the start of a text in several ways if digits can stand in one slot or in the next one, or in a slot or
in the run behind it. The pattern of the literal tries them in an order in which the slots, from the first one on, have
as many digits as they can.
-/

import Mathlib.Data.List.Forall2
import Tabletop.Alias.Literal
import Tabletop.Proofs.Pattern.Match

namespace Tabletop.Alias

open Text

variable {α : Type} {text taken rest : List Char} {digits : List (List Char)} {parts : List Part}

/-! What literals take -/

/-- A character of a text stands for one of a literal in any case. -/
def AnyCase (char other : Char) : Prop :=
  other = char ∨ char ∈ caseVariants other

/-- Parts take a text, with these digits in their slots. -/
inductive Takes : List Part → List Char → List (List Char) → Prop
  | nil : Takes [] [] []
  | run {run taken text : List Char} {parts : List Part} {digits : List (List Char)}
      (anyCase : List.Forall₂ AnyCase run taken) (takes : Takes parts text digits) :
      Takes (.run run :: parts) (taken ++ text) digits
  | slot {inside first text : List Char} {parts : List Part} {digits : List (List Char)}
      (decimal : ∀ char ∈ first, isDecimal char = true)
      (missing : first = [] → (Slot.ofInside inside).standard.isSome) (takes : Takes parts text digits) :
      Takes (.slot inside :: parts) (first ++ text) (first :: digits)

/-- The ways to part some digits at the start of a text from what follows them, the longest first. -/
def someDigits : List Char → List (List Char × List Char)
  | [] => []
  | char :: rest =>
    if isDecimal char then (someDigits rest ++ [([], rest)]).map fun (digits, rest) => (char :: digits, rest) else []

/-- What a slot can take, the longest first. -/
def Slot.cuts (slot : Slot) (text : List Char) : List (List Char × List Char) :=
  someDigits text ++ if slot.standard.isSome then [([], text)] else []

/-- What a run takes, with the text behind it. -/
def cutRun? : List Char → List Char → Option (List Char × List Char)
  | [], text => some ([], text)
  | char :: run, other :: text =>
    if (Pattern.CharSet.anyCase (.single char)).contains other then
      (cutRun? run text).map fun (taken, rest) => (other :: taken, rest)
    else none
  | _ :: _, [] => none

/-- One way in which parts take the start of a text. -/
structure Fit where
  taken : List Char
  digits : List (List Char)
  rest : List Char
deriving DecidableEq

/-- The ways in which parts take the start of a text, in the order in which they are tried. -/
def fits : List Part → List Char → List Fit
  | [], text => [⟨[], [], text⟩]
  | .run run :: parts, text =>
    (cutRun? run text).toList.flatMap fun (taken, rest) =>
      (fits parts rest).map fun fit => { fit with taken := taken ++ fit.taken }
  | .slot inside :: parts, text =>
    ((Slot.ofInside inside).cuts text).flatMap fun (digits, rest) =>
      (fits parts rest).map fun fit => ⟨digits ++ fit.taken, digits :: fit.digits, fit.rest⟩

theorem contains_anyCase (char other : Char) :
    (Pattern.CharSet.anyCase (.single char)).contains other = true ↔ AnyCase char other := by
  have single (other : Char) : (Pattern.CharSet.single char).contains other = true ↔ other = char := by
    unfold Pattern.CharSet.single Pattern.CharSet.contains
    rw [Bool.and_eq_true, decide_eq_true_eq, decide_eq_true_eq]
    exact ⟨fun both => Char.le_antisymm both.2 both.1, fun same => same ▸ ⟨Char.le_refl _, Char.le_refl _⟩⟩
  unfold Pattern.CharSet.contains AnyCase
  rw [Bool.or_eq_true, single, List.any_eq_true]
  constructor
  · rintro (same | ⟨variant, member, same⟩)
    · exact .inl same
    · exact .inr ((single variant).1 same ▸ member)
  · rintro (same | member)
    · exact .inl same
    · exact .inr ⟨char, member, (single char).2 rfl⟩

theorem cutRun?_eq_some {run : List Char} : cutRun? run text = some (taken, rest) ↔
    List.Forall₂ AnyCase run taken ∧ text = taken ++ rest := by
  induction run generalizing text taken with
  | nil =>
    constructor
    · intro cut
      cases cut
      exact ⟨.nil, rfl⟩
    · rintro ⟨⟨⟩, rfl⟩
      rfl
  | cons char run inductionHypothesis =>
    cases text with
    | nil =>
      constructor
      · intro cut
        cases cut
      · rintro ⟨_ | _, same⟩
        cases same
    | cons other text =>
      unfold cutRun?
      split
      · next fit =>
        rw [Option.map_eq_some_iff]
        constructor
        · rintro ⟨⟨more, last⟩, cut, same⟩
          cases same
          obtain ⟨fits, rfl⟩ := inductionHypothesis.1 cut
          exact ⟨.cons ((contains_anyCase _ _).1 fit) fits, rfl⟩
        · rintro ⟨fits, same⟩
          cases fits with
          | cons fit fits =>
            cases same
            exact ⟨_, inductionHypothesis.2 ⟨fits, rfl⟩, rfl⟩
      · next unfit =>
        constructor
        · intro cut
          cases cut
        · rintro ⟨fits, same⟩
          cases fits with
          | cons fit fits =>
            cases same
            exact absurd ((contains_anyCase _ _).2 fit) unfit

theorem mem_someDigits {first : List Char} : (first, rest) ∈ someDigits text ↔
    first ≠ [] ∧ (∀ char ∈ first, isDecimal char = true) ∧ text = first ++ rest := by
  induction text generalizing first with
  | nil => exact ⟨nofun, fun ⟨nonempty, _, same⟩ => absurd (List.append_eq_nil_iff.1 same.symm).1 nonempty⟩
  | cons char text inductionHypothesis =>
    unfold someDigits
    split
    · next leads =>
      rw [List.mem_map]
      constructor
      · rintro ⟨cut, member, same⟩
        cases same
        refine ⟨List.cons_ne_nil _ _, ?_⟩
        rcases List.mem_append.1 member with more | last
        · obtain ⟨-, decimal, rfl⟩ := inductionHypothesis.1 more
          exact ⟨List.forall_mem_cons.2 ⟨leads, decimal⟩, rfl⟩
        · cases List.mem_singleton.1 last
          exact ⟨List.forall_mem_singleton.2 leads, rfl⟩
      · rintro ⟨nonempty, decimal, same⟩
        obtain ⟨digit, digits, rfl⟩ := List.exists_cons_of_ne_nil nonempty
        obtain ⟨rfl, split⟩ := List.cons.inj same
        refine ⟨(digits, rest), List.mem_append.2 ?_, rfl⟩
        cases digits with
        | nil => exact .inr (List.mem_singleton.2 (congrArg _ split.symm))
        | cons second others =>
          exact .inl (inductionHypothesis.2 ⟨List.cons_ne_nil _ _, (List.forall_mem_cons.1 decimal).2, split⟩)
    · next other =>
      refine ⟨nofun, fun ⟨nonempty, decimal, same⟩ => ?_⟩
      obtain ⟨digit, digits, rfl⟩ := List.exists_cons_of_ne_nil nonempty
      obtain ⟨rfl, _⟩ := List.cons.inj same
      exact absurd (decimal _ List.mem_cons_self) other

theorem mem_cuts {slot : Slot} {first : List Char} : (first, rest) ∈ slot.cuts text ↔
    (∀ char ∈ first, isDecimal char = true) ∧ (first = [] → slot.standard.isSome) ∧ text = first ++ rest := by
  unfold Slot.cuts
  rw [List.mem_append, mem_someDigits]
  constructor
  · rintro (⟨nonempty, decimal, same⟩ | last)
    · exact ⟨decimal, fun nothing => absurd nothing nonempty, same⟩
    · split at last
      · next standard =>
        cases List.mem_singleton.1 last
        exact ⟨nofun, fun _ => standard, rfl⟩
      · cases last
  · rintro ⟨decimal, missing, same⟩
    cases first with
    | nil =>
      rw [if_pos (missing rfl)]
      exact .inr (List.mem_singleton.2 (congrArg _ same.symm))
    | cons digit digits => exact .inl ⟨List.cons_ne_nil _ _, decimal, same⟩

/-- The fits are all the ways in which the parts take the start of the text. -/
theorem mem_fits {fit : Fit} : fit ∈ fits parts text ↔
    Takes parts fit.taken fit.digits ∧ text = fit.taken ++ fit.rest := by
  induction parts generalizing text fit with
  | nil =>
    unfold fits
    rw [List.mem_singleton]
    constructor
    · rintro rfl
      exact ⟨.nil, rfl⟩
    · rintro ⟨takes, same⟩
      obtain ⟨taken, digits, rest⟩ := fit
      cases takes
      cases same
      rfl
  | cons part parts inductionHypothesis =>
    cases part with
    | run run =>
      unfold fits
      simp only [List.mem_flatMap, Option.mem_toList, List.mem_map, Prod.exists]
      constructor
      · rintro ⟨taken, rest, cut, inner, member, rfl⟩
        obtain ⟨fits, rfl⟩ := cutRun?_eq_some.1 cut
        obtain ⟨takes, rfl⟩ := inductionHypothesis.1 member
        exact ⟨.run fits takes, (List.append_assoc ..).symm⟩
      · obtain ⟨whole, digits, rest⟩ := fit
        rintro ⟨takes, same⟩
        cases takes with
        | @run _ taken text _ _ fits takes =>
          have cut := cutRun?_eq_some.2 ⟨fits, same.trans (List.append_assoc ..)⟩
          exact ⟨taken, text ++ rest, cut, ⟨text, digits, rest⟩, inductionHypothesis.2 ⟨takes, rfl⟩, rfl⟩
    | slot inside =>
      unfold fits
      simp only [List.mem_flatMap, List.mem_map, Prod.exists]
      constructor
      · rintro ⟨first, rest, cut, inner, member, rfl⟩
        obtain ⟨decimal, missing, rfl⟩ := mem_cuts.1 cut
        obtain ⟨takes, rfl⟩ := inductionHypothesis.1 member
        exact ⟨.slot decimal missing takes, (List.append_assoc ..).symm⟩
      · obtain ⟨whole, digits, rest⟩ := fit
        rintro ⟨takes, same⟩
        cases takes with
        | @slot _ first text _ digits decimal missing takes =>
          have cut := mem_cuts.2 ⟨decimal, missing, same.trans (List.append_assoc ..)⟩
          exact ⟨first, text ++ rest, cut, ⟨text, digits, rest⟩, inductionHypothesis.2 ⟨takes, rfl⟩, rfl⟩

/-- The numbers of digits in the slots. -/
def Fit.lengths (fit : Fit) : List Nat :=
  fit.digits.map List.length

/-- No digits are fewer than some. -/
theorem pairwise_append_nothing {cuts : List (List Char × List Char)}
    (sorted : cuts.Pairwise fun first second => second.1.length < first.1.length)
    (nonempty : ∀ cut ∈ cuts, cut.1 ≠ []) (text : List Char) :
    List.Pairwise (fun first second => second.1.length < first.1.length) (cuts ++ [([], text)]) := by
  refine List.pairwise_append.2 ⟨sorted, List.pairwise_singleton _ _, ?_⟩
  intro first member second same
  cases List.mem_singleton.1 same
  exact List.length_pos_iff.2 (nonempty first member)

theorem someDigits_sorted (text : List Char) :
    (someDigits text).Pairwise fun first second => second.1.length < first.1.length := by
  induction text with
  | nil => exact .nil
  | cons char text inductionHypothesis =>
    unfold someDigits
    split
    · rw [List.pairwise_map]
      have sorted := pairwise_append_nothing inductionHypothesis (fun cut member => (mem_someDigits.1 member).1) text
      exact sorted.imp fun shorter => Nat.succ_lt_succ shorter
    · exact .nil

theorem cuts_sorted (slot : Slot) (text : List Char) :
    (slot.cuts text).Pairwise fun first second => second.1.length < first.1.length := by
  unfold Slot.cuts
  split
  · exact pairwise_append_nothing (someDigits_sorted text) (fun cut member => (mem_someDigits.1 member).1) text
  · rw [List.append_nil]
    exact someDigits_sorted text

/-- Of two fits the one with more digits in the first slot that differs comes first. -/
theorem fits_sorted (parts : List Part) (text : List Char) :
    (fits parts text).Pairwise fun first second => second.lengths < first.lengths := by
  induction parts generalizing text with
  | nil => exact List.pairwise_singleton _ _
  | cons part parts inductionHypothesis =>
    cases part with
    | run run =>
      unfold fits
      cases cutRun? run text with
      | none => exact .nil
      | some cut =>
        rw [Option.toList_some, List.flatMap_singleton, List.pairwise_map]
        exact inductionHypothesis _
    | slot inside =>
      unfold fits
      refine List.pairwise_flatMap.2 ⟨?_, ?_⟩
      · intro cut member
        rw [List.pairwise_map]
        exact (inductionHypothesis _).imp fun later => List.cons_lt_cons_iff.2 (.inr ⟨rfl, later⟩)
      · refine (cuts_sorted _ text).imp fun shorter => ?_
        intro first firstMember second secondMember
        obtain ⟨_, _, rfl⟩ := List.mem_map.1 firstMember
        obtain ⟨_, _, rfl⟩ := List.mem_map.1 secondMember
        exact List.cons_lt_cons_iff.2 (.inl shorter)

/-! The pattern of a literal -/

open Pattern

variable {behind : Continuation α} {cursor : Cursor}

/-- The cursor behind some text. -/
def behindText (cursor : Cursor) (taken rest : List Char) : Cursor :=
  ⟨taken.reverse ++ cursor.before, rest, cursor.groups⟩

theorem firstOf_eq (first second : Unit → Option α) : firstOf first second = (first ()).or (second ()) := by
  unfold firstOf
  cases first () <;> rfl

theorem behindText_cons (before rest more : List Char) (groups : List (Nat × List Char)) (char : Char)
    (taken : List Char) : behindText ⟨char :: before, rest, groups⟩ taken more =
      behindText ⟨before, char :: rest, groups⟩ (char :: taken) more := by
  unfold behindText
  rw [List.reverse_cons, List.append_assoc, List.singleton_append]

/-- To take some digits is to take one and then others, or no more. -/
theorem findSome?_someDigits (before rest : List Char) (groups : List (Nat × List Char)) (char : Char) :
    ((someDigits (char :: rest)).findSome? fun cut =>
        behind (behindText ⟨before, char :: rest, groups⟩ cut.1 cut.2)) =
      if isDecimal char then
        List.findSome? (fun cut => behind (behindText ⟨char :: before, rest, groups⟩ cut.1 cut.2))
          (someDigits rest ++ [([], rest)])
      else none := by
  rw [someDigits]
  split
  · rw [List.findSome?_map]
    exact congrArg (List.findSome? · _) (funext fun cut => congrArg behind (behindText_cons ..).symm)
  · rfl

/-- Digits are taken as long as there are any, and given back one by one. The induction is on the fuel. -/
theorem again_decimal (behind : Continuation α) (cursor : Cursor) (fuel : Nat) (enough : cursor.rest.length ≤ fuel) :
    Node.again (fun behind cursor => (Node.one .decimal).run behind cursor) true behind fuel cursor =
      List.findSome? (fun cut => behind (behindText cursor cut.1 cut.2))
        (someDigits cursor.rest ++ [([], cursor.rest)]) := by
  induction fuel generalizing cursor with
  | zero =>
    obtain ⟨before, rest, groups⟩ := cursor
    obtain rfl : rest = [] := List.length_eq_zero_iff.1 (Nat.le_zero.1 enough)
    exact (List.findSome?_singleton ..).symm
  | succ fuel inductionHypothesis =>
    obtain ⟨before, rest, groups⟩ := cursor
    unfold Node.again oneMore
    rw [if_pos rfl, firstOf_eq, List.findSome?_append, List.findSome?_singleton]
    refine congrArg (Option.or · _) ?_
    cases rest with
    | nil => rfl
    | cons char rest =>
      have rounds := inductionHypothesis ⟨char :: before, rest, groups⟩ (Nat.le_of_succ_le_succ enough)
      have shorter : rest.length < (char :: rest).length := Nat.lt_succ_self _
      rw [findSome?_someDigits, ← rounds]
      exact if_congr Iff.rfl (if_pos shorter) rfl

theorem run_digits : (Node.repeated true (.one .decimal)).run behind cursor =
    (someDigits cursor.rest).findSome? fun cut => behind (behindText cursor cut.1 cut.2) := by
  obtain ⟨before, rest, groups⟩ := cursor
  cases rest with
  | nil => rfl
  | cons char rest =>
    have rounds := again_decimal behind ⟨char :: before, rest, groups⟩ _ (Nat.le_refl _)
    have shorter : rest.length < (char :: rest).length := Nat.lt_succ_self _
    rw [findSome?_someDigits, ← rounds]
    exact if_congr Iff.rfl (if_pos shorter) rfl

/-- A slot takes what it can, the longest digits first. -/
theorem run_slot (slot : Slot) : slot.node.run behind cursor =
    (slot.cuts cursor.rest).findSome? fun cut => behind (behindText cursor cut.1 cut.2) := by
  unfold Slot.node Slot.cuts
  cases slot.standard with
  | none => exact run_digits.trans (congrArg (List.findSome? _) (List.append_nil _).symm)
  | some standard =>
    unfold Node.run oneMore
    rw [if_pos rfl, firstOf_eq, run_digits, if_pos (by rfl), List.findSome?_append, List.findSome?_singleton]
    rfl

/-- A run is taken character by character, in one way. -/
theorem run_run (cursor : Cursor) (run : List Char) (nodes : List Node) :
    (Node.sequences (run.map charNode ++ nodes)).run behind cursor =
      (cutRun? run cursor.rest).bind fun cut => (Node.sequences nodes).run behind (behindText cursor cut.1 cut.2) := by
  induction run generalizing cursor with
  | nil => rfl
  | cons char run inductionHypothesis =>
    obtain ⟨before, rest, groups⟩ := cursor
    rw [List.map_cons, List.cons_append, Node.run_sequences_cons]
    cases rest with
    | nil => rfl
    | cons other rest =>
      unfold cutRun?
      by_cases fit : (CharSet.anyCase (.single char)).contains other = true
      · have further := inductionHypothesis ⟨other :: before, rest, groups⟩
        rw [if_pos fit, Option.bind_map]
        refine (if_pos fit).trans (further.trans ?_)
        exact congrArg (Option.bind _) (funext fun cut => congrArg _ (behindText_cons ..))
      · rw [if_neg fit]
        exact if_neg fit

/-- The groups of the slots, the latest one first. -/
def groups : (index : Nat) → List (List Char) → List (Nat × List Char)
  | _, [] => []
  | index, first :: digits => groups (index + 1) digits ++ [(index, first)]

/-- The cursor behind a fit whose first slot has the number `index`. -/
def Fit.place (fit : Fit) (index : Nat) (cursor : Cursor) : Cursor :=
  ⟨fit.taken.reverse ++ cursor.before, fit.rest, groups index fit.digits ++ cursor.groups⟩

theorem findSome?_flatMap {β γ : Type} {cuts : List β} {each : β → List γ} {first : β → Option α}
    {answer : γ → Option α}
    (same : ∀ cut ∈ cuts, first cut = (each cut).findSome? answer) :
    cuts.findSome? first = (cuts.flatMap each).findSome? answer := by
  induction cuts with
  | nil => rfl
  | cons cut cuts inductionHypothesis =>
    rw [List.flatMap_cons, List.findSome?_append, ← same cut List.mem_cons_self,
      ← inductionHypothesis fun cut member => same cut (List.mem_cons_of_mem _ member), List.findSome?_cons]
    cases first cut <;> rfl

/-- The pattern of a literal tries the fits one after the other. -/
theorem run_nodes (index : Nat) (parts : List Part) : (Node.sequences (nodes index parts)).run behind cursor =
    (fits parts cursor.rest).findSome? fun fit => behind (fit.place index cursor) := by
  induction parts generalizing index cursor with
  | nil => exact (List.findSome?_singleton ..).symm
  | cons part parts inductionHypothesis =>
    cases part with
    | run run =>
      unfold nodes fits
      rw [run_run]
      cases cutRun? run cursor.rest with
      | none => rfl
      | some cut =>
        rw [Option.bind_some, Option.toList_some, List.flatMap_singleton, List.findSome?_map, inductionHypothesis]
        refine congrArg (List.findSome? · _) (funext fun fit => congrArg behind ?_)
        unfold Fit.place behindText
        simp only [List.reverse_append, List.append_assoc]
    | slot inside =>
      unfold nodes fits
      rw [Node.run_sequences_cons]
      refine (run_slot _).trans (findSome?_flatMap fun (first, rest) member => ?_)
      obtain ⟨-, -, split⟩ := mem_cuts.1 member
      have reaches : cursor.Reaches (behindText cursor first rest) first := ⟨split, rfl⟩
      rw [reaches.textSince_eq, List.findSome?_map]
      refine (inductionHypothesis _).trans ?_
      refine congrArg (List.findSome? · _) (funext fun fit => congrArg behind ?_)
      unfold Fit.place behindText
      simp only [groups, List.reverse_append, List.append_assoc, List.singleton_append]

end Tabletop.Alias
