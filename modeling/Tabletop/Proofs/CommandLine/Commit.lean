/-
This file proves that no change of a card is lost on the way to its file.
-/

import Tabletop.CommandLine.Session
import Tabletop.Proofs.Engine.Apply

namespace Tabletop

variable {m : Type → Type} [Monad m]

/-- Committing a roll writes the user's card first of all, if it is among the given ones. -/
theorem Session.commit_writes {files : Files m} {now : Instant} {session : Session} {roll : Roll}
    {output name path : String} {card : Card} {applied : Applied} (loaded : session.card = some (name, path))
    (saves : session.save = true) (done : session.engine.apply now roll = .ok applied)
    (kept : applied.engine.board.registry.get? name = some card) (given : card ∈ applied.cards) :
    ∃ rest, session.commit files now roll output =
      (writeFile files path card.text).run >>= rest := by
  have named : card.name = name := applied.engine.board.registry.named name card kept
  have found : applied.cards.any (·.name == name) = true := by
    rw [List.any_eq_true]
    exact ⟨card, given, by simp [named]⟩
  have exported : applied.engine.exportCard name = .ok card.text := by
    rw [Engine.exportCard, kept]
  unfold commit
  rw [done]
  dsimp only
  rw [saveCard, loaded]
  dsimp only
  rw [saves, found, Bool.true_and, if_pos rfl, exported]
  exact ⟨_, rfl⟩

/-- Every card that is new or has another stored content after a roll was applied is named, the engine
gives it back, and a session that loaded it and saves it writes it to its file. -/
theorem Engine.apply_losesNothing {engine : Engine} {now : Instant} {roll next : Roll} {board : Board}
    {names : List String}
    (done : roll.apply now roll.context engine.board = .ok (next, board, names)) :
    ∃ applied, engine.apply now roll = .ok applied ∧
      ∀ name card, board.registry.get? name = some card →
        (∀ before, engine.board.registry.get? name = some before → before.content ≠ card.content) →
        name ∈ names ∧
        applied.engine.board.registry.get? name = some card.withoutChanges ∧
        card.withoutChanges ∈ applied.cards ∧
        ∀ (files : Files m) (session : Session) (path output : String), session.engine = engine →
          session.card = some (name, path) → session.save = true →
          ∃ rest, session.commit files now roll output =
            (Session.writeFile files path card.withoutChanges.text).run >>= rest := by
  obtain ⟨messages, applied⟩ := apply_of_roll done
  refine ⟨_, applied, ?_⟩
  intro name card stands other
  have effect := Evaluator.apply_effect (Roll.apply_ok done).2.1
  have named : name ∈ names := effect.names_changed stands other
  have kept : board.registry.withoutChanges.get? name = some card.withoutChanges := by
    rw [Registry.get?_withoutChanges, stands, Option.map_some]
  have given := mem_cardsOf.2 ⟨name, named, kept⟩
  refine ⟨named, kept, given, ?_⟩
  intro files session path output same loaded saves
  subst same
  exact Session.commit_writes loaded saves applied kept given

/-- An engine with one card. -/
def Engine.withInvestigator : Engine :=
  (Engine.new .epoch (.constant 1)).setRegistry (Registry.empty.register (.new .coc "A" .epoch))

/-- A check that left the card with 45 points of sanity. -/
def Roll.shaken : Roll :=
  ⟨.sanity ⟨"1/5", some "A", false, some (50, 45), ""⟩, .rolled,
    ⟨"u1", "Maca", .user, "c1", none, none⟩, "sc 1/5"⟩

theorem Engine.apply_losesNothing_sanity :
    ∃ applied, Engine.withInvestigator.apply .epoch Roll.shaken = .ok applied ∧
      ∃ card ∈ applied.cards, (card.entryOf? "SAN").map (·.value) = some 45 := by
  obtain ⟨⟨next, board, names⟩, done, moved⟩ := exists_of_any
    (Roll.shaken.apply .epoch Roll.shaken.context Engine.withInvestigator.board)
    (fun result => (result.2.1.registry.get? "A").any fun card =>
      (card.withoutChanges.entryOf? "SAN").map (·.value) == some 45 &&
        (Engine.withInvestigator.board.registry.get? "A").all (·.content != card.content))
    (by decide +kernel)
  obtain ⟨card, stands, shaken⟩ := (Option.any_eq_true _ _).1 moved
  obtain ⟨sanity, other⟩ := Bool.and_eq_true_iff.1 shaken
  obtain ⟨applied, same, kept⟩ := Engine.apply_losesNothing (m := Id) done
  refine ⟨applied, same, card.withoutChanges, (kept "A" card stands ?_).2.2.1, eq_of_beq sanity⟩
  intro before found
  rw [found] at other
  exact ne_of_beq_false (Bool.not_eq_true' _ ▸ other)

end Tabletop
