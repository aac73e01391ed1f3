/-
This file proves where in a text aliases are found.

A literal is found at the start of the text alone. So is a pattern that can be read by itself, since it is put in
parentheses behind a caret. A pattern with a caret of its own is taken as it stands, and is found elsewhere too if there
is a way through it that passes by the caret.
-/

import Tabletop.Alias
import Tabletop.Proofs.Pattern.Match
import Tabletop.Proofs.Pattern.Parser

namespace Tabletop

open Pattern

/-! What patterns in parentheses find -/

section Patterns

variable {source text : List Char} {pattern whole : Pattern}

theorem Alias.anchored_of_ne_caret (apart : source.head? ≠ some '^') :
    Alias.anchored source = "^(?:".toList ++ source ++ [')'] := by
  unfold Alias.anchored
  split
  · exact absurd rfl apart
  · rfl

/-- A pattern that can be read by itself finds at the start of the text what it matches there. -/
theorem Pattern.find?_anchored (apart : source.head? ≠ some '^') (alone : Pattern.parse? source = some pattern)
    (anchored : Pattern.parse? (Alias.anchored source) = some whole) :
    whole.root.startsText = true ∧ ∀ text, whole.find? text = pattern.matchAt? ⟨[], text, []⟩ := by
  rw [Alias.anchored_of_ne_caret apart] at anchored
  obtain rfl : whole = ⟨.sequence (.anchor .textStart) pattern.root, pattern.names⟩ := by
    rcases parse?_anchored alone with read | unread
    · exact Option.some.inj (anchored.symm.trans read)
    · cases unread.symm.trans anchored
  exact ⟨rfl, fun text => find?_startsText rfl text⟩

end Patterns

namespace Alias

variable {parts : List Part}

/-- The slots have names that groups can have, each a name of its own. -/
structure Named (parts : List Part) : Prop where
  valid : ∀ slot ∈ slots parts, isGroupName slot.name = true
  distinct : ((slots parts).map Slot.name).Nodup

theorem pattern?_named (named : Named parts) : pattern? parts =
    some ⟨.sequences (.anchor .textStart :: nodes 1 parts),
      ((slots parts).map Slot.name).map fun name => some (String.ofList name)⟩ := by
  have valid : ((slots parts).map Slot.name).all isGroupName = true := by
    rw [List.all_map]
    exact List.all_eq_true.2 named.valid
  unfold pattern?
  exact if_pos (by rw [valid, Bool.true_and, decide_eq_true named.distinct])

theorem startsText_literal (nodes : List Node) : (Node.sequences (.anchor .textStart :: nodes)).startsText = true := by
  cases nodes <;> rfl

end Alias

/-- The pattern that a trigger is searched with. -/
def AliasTrigger.pattern? : AliasTrigger → Option Pattern
  | .literal source _ => Alias.pattern? (Alias.parts source.toList)
  | .pattern source _ => Pattern.parse? (Alias.anchored source.toList)

/-- A trigger that is found at the start of texts alone. -/
inductive AliasTrigger.KeepsToStart : AliasTrigger → Prop
  | named {source replacement : String} (named : Alias.Named (Alias.parts source.toList)) :
      KeepsToStart (.literal source replacement)
  /-- The pattern can be read by itself. -/
  | alone {source : String} {replacement : Option String} (apart : source.toList.head? ≠ some '^')
      (readable : (Pattern.parse? source.toList).isSome) : KeepsToStart (.pattern source replacement)
  /-- Every way through the pattern passes the start of the text. -/
  | starts {trigger : AliasTrigger}
      (starts : ∀ pattern, trigger.pattern? = some pattern → pattern.root.startsText = true) : KeepsToStart trigger

theorem AliasTrigger.KeepsToStart.startsText {trigger : AliasTrigger} (keeps : trigger.KeepsToStart)
    {pattern : Pattern} (searched : trigger.pattern? = some pattern) : pattern.root.startsText = true := by
  cases keeps with
  | named named =>
      have read := Alias.pattern?_named named
      cases read.symm.trans searched
      exact Alias.startsText_literal _
  | alone apart readable =>
      obtain ⟨alone, read⟩ := Option.isSome_iff_exists.1 readable
      exact (Pattern.find?_anchored apart read searched).1
  | starts starts => exact starts pattern searched

namespace Alias

variable {rules : List Alias} {rule : Alias} {context : Context} {text : List Char} {found : AliasMatch}

/-- What a rule finds is what its pattern finds. -/
theorem match?_eq_some (matched : rule.match? context text = some found) :
    ∃ pattern place, rule.rule.trigger.pattern? = some pattern ∧ pattern.find? text = some place ∧
      found.before = place.before ∧ found.matched = place.matched ∧ found.rest = place.rest := by
  unfold match? at matched
  split at matched
  · next source replacement same =>
    obtain ⟨pattern, read, searched⟩ := Option.bind_eq_some_iff.1 matched
    obtain ⟨place, here, rfl⟩ := Option.map_eq_some_iff.1 searched
    exact ⟨pattern, place, same ▸ read, here, rfl, rfl, rfl⟩
  · next source replacement same =>
    obtain ⟨pattern, read, searched⟩ := Option.bind_eq_some_iff.1 matched
    obtain ⟨place, here, rfl⟩ := Option.map_eq_some_iff.1 searched
    exact ⟨pattern, place, same ▸ read, here, rfl, rfl, rfl⟩

/-- A rule for commands with some trigger. -/
def ofTrigger (id : String) (trigger : AliasTrigger) : Alias :=
  ⟨.embedded id, ⟨id, id, "", .command, trigger, true⟩, none⟩

end Alias

end Tabletop
