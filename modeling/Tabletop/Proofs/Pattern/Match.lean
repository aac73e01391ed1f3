/-
This file proves where matches of a pattern lie in a text.

A node takes text from a cursor on and goes on behind it. So a pattern all of whose ways pass the start of the text
matches nowhere else.
-/

import Tabletop.Pattern.Match

namespace Tabletop.Pattern

variable {α : Type} {first middle last cursor : Cursor} {taken more : List Char} {behind : Continuation α} {answer : α}

/-- One cursor stands behind the other one, with some text between them. -/
structure Cursor.Reaches (first last : Cursor) (taken : List Char) : Prop where
  rest : first.rest = taken ++ last.rest
  before : last.before = taken.reverse ++ first.before

namespace Cursor.Reaches

theorem refl (cursor : Cursor) : cursor.Reaches cursor [] :=
  ⟨rfl, rfl⟩

theorem trans (left : first.Reaches middle taken) (right : middle.Reaches last more) :
    first.Reaches last (taken ++ more) where
  rest := by rw [left.rest, right.rest, List.append_assoc]
  before := by rw [right.before, left.before, List.reverse_append, List.append_assoc]

/-- Groups do not matter to where cursors stand. -/
theorem withGroups (reaches : first.Reaches last taken) (groups : List (Nat × List Char)) :
    first.Reaches { last with groups := groups } taken :=
  ⟨reaches.rest, reaches.before⟩

theorem textSince_eq (reaches : first.Reaches last taken) : first.textSince last = taken := by
  rw [Cursor.textSince, reaches.rest, List.length_append, Nat.add_sub_cancel, List.take_left]

/-- Only the start of a text leads to the start of the text. -/
theorem before_eq_nil (reaches : first.Reaches last taken) (start : last.before = []) : first.before = [] := by
  rw [reaches.before] at start
  exact (List.append_eq_nil_iff.1 start).2

end Cursor.Reaches

theorem firstOf_eq_some {left right : Unit → Option α} (found : firstOf left right = some answer) :
    left () = some answer ∨ right () = some answer := by
  unfold firstOf at found
  split at found
  · next here => exact .inl (found ▸ here)
  · exact .inr found

theorem oneMore_eq_some {greedy : Bool} {round behind : Unit → Option α}
    (found : oneMore greedy round behind = some answer) : round () = some answer ∨ behind () = some answer := by
  unfold oneMore at found
  split at found
  · exact firstOf_eq_some found
  · exact (firstOf_eq_some found).symm

namespace Node

/-- The part reaches cursors behind, from which it goes on. -/
def Advances (round : Continuation α → Cursor → Option α) : Prop :=
  ∀ behind cursor answer, round behind cursor = some answer →
    ∃ last taken, cursor.Reaches last taken ∧ behind last = some answer

/-- Rounds advance as one round does. The induction is on the fuel. -/
theorem again_advances {round : Continuation α → Cursor → Option α} (advances : Advances round) {greedy : Bool}
    {fuel : Nat} (found : again round greedy behind fuel cursor = some answer) :
    ∃ last taken, cursor.Reaches last taken ∧ behind last = some answer := by
  induction fuel generalizing cursor with
  | zero => exact ⟨cursor, [], .refl cursor, found⟩
  | succ fuel inductionHypothesis =>
      rcases oneMore_eq_some found with round | here
      · obtain ⟨next, taken, reaches, further⟩ := advances _ _ _ round
        split at further
        · obtain ⟨last, more, later, found⟩ := inductionHypothesis further
          exact ⟨last, taken ++ more, reaches.trans later, found⟩
        · cases further
      · exact ⟨cursor, [], .refl cursor, here⟩

/-- A node that leads to an answer takes some text and goes on behind it. -/
theorem run_advances (node : Node) : Advances (node.run (α := α)) := by
  induction node with
  | empty => exact fun behind cursor answer found => ⟨cursor, [], .refl cursor, found⟩
  | one set =>
      intro behind cursor answer found
      unfold run at found
      split at found
      · next char rest ahead =>
        split at found
        · exact ⟨{ cursor with before := char :: cursor.before, rest := rest }, [char], ⟨ahead, rfl⟩, found⟩
        · cases found
      · cases found
  | anchor place =>
      intro behind cursor answer found
      unfold run at found
      split at found
      · exact ⟨cursor, [], .refl cursor, found⟩
      · cases found
  | sequence first second firstAdvances secondAdvances =>
      intro behind cursor answer found
      obtain ⟨middle, taken, reaches, further⟩ := firstAdvances _ _ _ found
      obtain ⟨last, more, later, found⟩ := secondAdvances _ _ _ further
      exact ⟨last, taken ++ more, reaches.trans later, found⟩
  | choice first second firstAdvances secondAdvances =>
      intro behind cursor answer found
      rcases firstOf_eq_some found with left | right
      · exact firstAdvances _ _ _ left
      · exact secondAdvances _ _ _ right
  | optional greedy inner advances =>
      intro behind cursor answer found
      rcases oneMore_eq_some found with round | here
      · exact advances _ _ _ round
      · exact ⟨cursor, [], .refl cursor, here⟩
  | repeated greedy inner advances =>
      intro behind cursor answer found
      obtain ⟨next, taken, reaches, further⟩ := advances _ _ _ found
      split at further
      · obtain ⟨last, more, later, found⟩ := again_advances advances further
        exact ⟨last, taken ++ more, reaches.trans later, found⟩
      · exact ⟨next, taken, reaches, further⟩
  | group index inner advances =>
      intro behind cursor answer found
      obtain ⟨last, taken, reaches, further⟩ := advances _ _ _ found
      exact ⟨_, taken, reaches.withGroups _, further⟩

/-- Every way through the node passes the start of the text. -/
def startsText : Node → Bool
  | .empty => false
  | .one _ => false
  | .anchor place => place == .textStart
  | .sequence first second => first.startsText || second.startsText
  | .choice first second => first.startsText && second.startsText
  | .optional _ _ => false
  | .repeated _ inner => inner.startsText
  | .group _ inner => inner.startsText

/-- Such a node leads to an answer at the start of the text alone. -/
theorem run_startsText {node : Node} (starts : node.startsText = true)
    (found : node.run behind cursor = some answer) : cursor.before = [] := by
  induction node generalizing behind cursor with
  | empty => cases starts
  | one set => cases starts
  | anchor place =>
      obtain rfl := eq_of_beq starts
      unfold run at found
      split at found
      · next start => exact List.isEmpty_iff.1 start
      · cases found
  | sequence first second firstStarts secondStarts =>
      rcases Bool.or_eq_true_iff.1 starts with left | right
      · exact firstStarts left found
      · -- What the first node takes lies in front of the second one, so it takes nothing.
        obtain ⟨middle, taken, reaches, further⟩ := run_advances first _ _ _ found
        exact reaches.before_eq_nil (secondStarts right further)
  | choice first second firstStarts secondStarts =>
      obtain ⟨left, right⟩ := Bool.and_eq_true_iff.1 starts
      rcases firstOf_eq_some found with here | there
      · exact firstStarts left here
      · exact secondStarts right there
  | optional greedy inner _ => cases starts
  | repeated greedy inner innerStarts => exact innerStarts starts found
  | group index inner innerStarts => exact innerStarts starts found

/-- Nodes one after the other are run one after the other, also if there is only one. -/
theorem run_sequences_cons (node : Node) (nodes : List Node) :
    (sequences (node :: nodes)).run behind cursor =
      node.run (fun next => (sequences nodes).run behind next) cursor := by
  cases nodes with
  | nil => rfl
  | cons => rfl

end Node

/-! Matches -/

variable {pattern : Pattern} {text before : List Char} {found : PatternMatch}

theorem matchAt?_eq_some (matched : pattern.matchAt? cursor = some found) :
    found.before = cursor.before.reverse ∧ found.matched ++ found.rest = cursor.rest ∧
      ∃ last, pattern.root.run some cursor = some last := by
  obtain ⟨last, ran, rfl⟩ := Option.map_eq_some_iff.1 matched
  obtain ⟨_, taken, reaches, same⟩ := Node.run_advances _ _ _ _ ran
  cases same
  refine ⟨rfl, ?_, last, ran⟩
  rw [reaches.textSince_eq]
  exact reaches.rest.symm

/-- What is found is a match that begins somewhere in the text. -/
theorem findFrom?_eq_some (matched : pattern.findFrom? before text = some found) : ∃ passed rest,
    text = passed ++ rest ∧ pattern.matchAt? ⟨passed.reverse ++ before, rest, []⟩ = some found := by
  induction text generalizing before with
  | nil => exact ⟨[], [], rfl, matched⟩
  | cons char text inductionHypothesis =>
      unfold findFrom? at matched
      split at matched
      · next here =>
        cases matched
        exact ⟨[], char :: text, rfl, here⟩
      · obtain ⟨passed, rest, split, later⟩ := inductionHypothesis matched
        refine ⟨char :: passed, rest, congrArg (char :: ·) split, ?_⟩
        rw [List.reverse_cons, List.append_assoc, List.singleton_append]
        exact later

/-- The text before a match, the match and the text behind it are the whole text. -/
theorem find?_split (matched : pattern.find? text = some found) :
    found.before ++ found.matched ++ found.rest = text := by
  obtain ⟨passed, rest, whole, here⟩ := findFrom?_eq_some matched
  obtain ⟨front, split, _⟩ := matchAt?_eq_some here
  rw [List.append_assoc, split, front, List.append_nil, List.reverse_reverse, whole]

/-- A pattern that starts with the text is matched at its start or not at all. -/
theorem find?_startsText (starts : pattern.root.startsText = true) (text : List Char) :
    pattern.find? text = pattern.matchAt? ⟨[], text, []⟩ := by
  have nowhere {char : Char} {rest : List Char} : pattern.findFrom? [char] rest = none := by
    cases later : pattern.findFrom? [char] rest with
    | none => rfl
    | some found =>
        obtain ⟨passed, rest, _, here⟩ := findFrom?_eq_some later
        obtain ⟨_, _, last, ran⟩ := matchAt?_eq_some here
        have start := Node.run_startsText starts ran
        exact absurd (List.append_eq_nil_iff.1 start).2 (List.cons_ne_nil _ _)
  cases text with
  | nil => rfl
  | cons char text =>
      rw [find?, findFrom?, nowhere]
      cases pattern.matchAt? ⟨[], char :: text, []⟩ <;> rfl

theorem find?_before (starts : pattern.root.startsText = true) (matched : pattern.find? text = some found) :
    found.before = [] := by
  rw [find?_startsText starts] at matched
  exact (matchAt?_eq_some matched).1

end Tabletop.Pattern
