/-
This file proves that applying an edit makes of a card what the preview made of its copy.
-/

import Tabletop.Proofs.Engine.LastEdit

namespace Tabletop

/-- The edit of a command. -/
def Evaluator.edit? : Evaluator → Option EditRoll
  | .edit roll => some roll
  | _ => none

theorem Evaluator.edit?_eq_some {evaluator : Evaluator} {edit : EditRoll}
    (edits : evaluator.edit? = some edit) : evaluator = .edit edit := by
  cases evaluator with
  | edit roll =>
      cases edits
      rfl
  | _ => cases edits

namespace Engine

variable {engine : Engine} {now : Instant} {command : Command} {dispatched : Dispatched} {roll : Roll}
  {edit : EditRoll} {assignments : List Assignment} {name : String}

/-- Handling an edit leaves the card as it is and tries the assignments on a copy of it. If the card still has this
content when the roll is applied, then each write does to the card what it did to the copy, and the card is told to
have changed if one of them changed it. -/
theorem dispatch_replays (handled : engine.dispatch now command = .ok dispatched)
    (rolled : dispatched.roll = some roll) (edits : roll.evaluator.edit? = some edit)
    (values : edit.edit = some (.values assignments)) (held : edit.card = some name) :
    dispatched.engine.board = engine.board ∧
      ∃ card start faces copy tried rest, engine.board.registry.get? name = some card ∧
        assignments.foldlM (EditRoll.preview now) card start faces = ((.ok copy, tried), rest) ∧
        ∀ (current : Engine) (live : Card) (later : Instant), current.board.registry.get? name = some live →
          live.content = card.content →
          ∃ last changed applied,
            EditRoll.Replays now later card live assignments edit.writes copy last changed ∧
            last.content = copy.content ∧ current.apply later roll = .ok applied ∧
            applied.engine.board.registry.get? name = some last.withoutChanges ∧
            applied.cards = if changed then [last.withoutChanges] else [] := by
  refine ⟨(dispatch_records handled).board, ?_⟩
  have is := Evaluator.edit?_eq_some edits
  obtain ⟨phase, _, _⟩ := dispatch_made handled rolled
  obtain ⟨start, faces, rest, fresh, made⟩ := dispatch_evaluation handled rolled
  rw [is] at made
  unfold Evaluator.roll at made
  cases fresh with
  | edit source =>
      obtain ⟨inner, done, equal⟩ := Evaluator.take_ok made
      cases equal
      obtain ⟨card, begin, tried, copy, left, stands, named, none, previewed, writes⟩ :=
        EditRoll.roll_previews done values held
      refine ⟨card, begin, _, copy, tried, left, named ▸ Scene.get?_of_card stands, previewed, ?_⟩
      intro current live later kept same
      obtain ⟨added, last, changed, rfl, replays, equal⟩ := EditRoll.previews_replay previewed same later
      have listed : edit.writes = added := by rw [← writes, none, List.nil_append]
      rw [← listed] at replays
      have changes : roll.evaluator.apply later roll.context current.board =
          current.board.changeCard name (EditRoll.writeAll later edit.writes) := by
        rw [is]
        change edit.apply later current.board = _
        rw [EditRoll.apply, held, values]
      have wrote := replays.writeAll
      obtain ⟨applied, applies, stands, cards⟩ :=
        apply_change phase changes kept wrote (EditRoll.writeAll_tells wrote).name
      exact ⟨last, changed, applied, replays, equal, applies, stands, cards⟩
  | _ =>
      obtain ⟨_, _, impossible⟩ := Evaluator.take_ok made
      cases impossible

/-- The command sets the strength, takes a die from missing hit points and adds to a missing size. Hit points that
were tried below zero stay at zero. -/
theorem dispatch_replays_strength :
    ∃ dispatched roll edit assignments copy last applied,
      (silent strongHolder).dispatch .epoch ⟨"st 力量60 hp-d6 体型+5", sender⟩ = .ok dispatched ∧
      dispatched.roll = some roll ∧ roll.evaluator.edit? = some edit ∧
      edit.edit = some (.values assignments) ∧ edit.card = some "A" ∧
      edit.writes.map (fun write => (write.key, write.old, write.requested, write.new)) =
        [("力量", some 50, 60, 60), ("生命值", none, -1, 0), ("体型", none, 5, 5)] ∧
      EditRoll.Replays .epoch .epoch strongCard strongCard assignments edit.writes copy last true ∧
      last.content = copy.content ∧ dispatched.engine.apply .epoch roll = .ok applied ∧
      applied.engine.board.registry.get? "A" = some last.withoutChanges ∧ applied.cards = [last.withoutChanges] := by
  let assignments : List Assignment :=
    [⟨"力量".toList, .assign, "60".toList⟩, ⟨"hp".toList, .subtract, "d6".toList⟩, ⟨"体型".toList, .add, "5".toList⟩]
  have done : ((silent strongHolder).dispatch .epoch ⟨"st 力量60 hp-d6 体型+5", sender⟩).toOption.any
      (fun dispatched => dispatched.roll.any fun roll => roll.evaluator.edit?.any fun edit =>
        (edit.edit = some (.values assignments) && edit.card = some "A") &&
          (edit.writes.map (fun write => (write.key, write.old, write.requested, write.new)) =
            [("力量", some 50, 60, 60), ("生命值", none, -1, 0), ("体型", none, 5, 5)] &&
          (dispatched.engine.apply .epoch roll).toOption.any (·.cards.length = 1))) = true := by
    decide +kernel
  obtain ⟨dispatched, handled, done⟩ := exists_of_any _ _ done
  obtain ⟨roll, rolled, done⟩ := (Option.any_eq_true _ _).1 done
  obtain ⟨edit, edits, done⟩ := (Option.any_eq_true _ _).1 done
  simp only [Bool.and_eq_true, decide_eq_true_eq] at done
  obtain ⟨⟨values, held⟩, writes, done⟩ := done
  obtain ⟨other, appliesToo, one⟩ := exists_of_any _ _ done
  obtain ⟨board, card, _, _, copy, _, _, kept, _, commits⟩ := dispatch_replays handled rolled edits values held
  have stands : (silent strongHolder).board.registry.get? "A" = some strongCard := by decide +kernel
  cases kept.symm.trans stands
  obtain ⟨last, changed, applied, replays, same, applies, left, cards⟩ :=
    commits dispatched.engine strongCard .epoch (by rw [board, stands]) rfl
  obtain rfl := Except.ok.inj (applies.symm.trans appliesToo)
  cases changed with
  | false =>
      rw [cards] at one
      cases of_decide_eq_true one
  | true =>
      exact ⟨dispatched, roll, edit, assignments, copy, last, applied, handled, rolled, edits, values, held, writes,
        replays, same, applies, left, cards⟩

end Engine

end Tabletop
