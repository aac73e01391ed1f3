/-
This file proves how death saving throws count over rows of throws of any length.

A row begins anew after a twenty, and when one of the two counts comes to three. The counters of a card are the counts of
the row since then, so they are always below three between two throws.
-/

import Tabletop.Proofs.Notation.Evaluation
import Tabletop.Proofs.Roll.Effect
import Tabletop.Proofs.Step

namespace Tabletop

/-! Rows of faces -/

namespace DeathSave

/-- The successes in a row of faces. -/
def successes (row : List Nat) : Nat :=
  row.countP fun face => 10 ≤ face ∧ face ≤ 19

/-- The failures in a row of faces, of which a one is two. -/
def failures (row : List Nat) : Nat :=
  (row.countP fun face => 2 ≤ face ∧ face ≤ 9) + 2 * row.count 1

def counts (row : List Nat) : DeathSaving :=
  ⟨successes row, failures row⟩

/-- One of the counts of a row has come to three. -/
def Complete (row : List Nat) : Prop :=
  3 ≤ successes row ∨ 3 ≤ failures row
deriving Decidable

/-- The row after one more face. It begins anew after a twenty and when one of its counts has come to three. -/
def extend (row : List Nat) (face : Nat) : List Nat :=
  if face = 20 ∨ Complete (row ++ [face]) then [] else row ++ [face]

/-- The faces since the row last began anew. -/
def sinceReset (faces : List Nat) : List Nat :=
  faces.foldl extend []

/-- The counters that a throw shows: those of the row with its face, or none after a twenty. -/
def shownTally (row : List Nat) (face : Nat) : DeathSaving :=
  if face = 20 then ⟨0, 0⟩ else counts (row ++ [face])

/-- The keys of the replies that end a row by its counts. -/
def endings (row : List Nat) : List String :=
  (if 3 ≤ successes row then ["roll.ds.stable"] else []) ++ if 3 ≤ failures row then ["roll.ds.dead"] else []

variable {row : List Nat} {face : Nat}

theorem successes_concat (row : List Nat) (face : Nat) :
    successes (row ++ [face]) = successes row + if 10 ≤ face ∧ face ≤ 19 then 1 else 0 := by
  rw [successes, List.countP_append, List.countP_singleton]
  simp only [decide_eq_true_eq, successes]

theorem failures_concat (row : List Nat) (face : Nat) :
    failures (row ++ [face]) =
      failures row + (if 2 ≤ face ∧ face ≤ 9 then 1 else 0) + if face = 1 then 2 else 0 := by
  rw [failures, List.countP_append, List.countP_singleton, List.count_append, List.count_singleton]
  simp only [decide_eq_true_eq, failures, beq_iff_eq]
  split <;> split <;> omega

/-- However a row goes on, its counts stay below three. -/
theorem extend_incomplete (row : List Nat) (face : Nat) : ¬Complete (extend row face) := by
  unfold extend
  split
  · decide
  · next goesOn => exact fun complete => goesOn (.inr complete)

theorem sinceReset_incomplete (faces : List Nat) : ¬Complete (sinceReset faces) := by
  apply List.foldlRecOn (motive := fun row => ¬Complete row)
  · decide
  · exact fun row _ face _ => extend_incomplete row face

/-- One face cannot bring both counts to three. -/
theorem not_both (incomplete : ¬Complete row) (face : Nat) :
    ¬(3 ≤ successes (row ++ [face]) ∧ 3 ≤ failures (row ++ [face])) := by
  unfold Complete at incomplete
  rw [successes_concat, failures_concat]
  split <;> split <;> split <;> omega

/-- What a face of a d20 means. -/
theorem ofFace_cases (least : 1 ≤ face) (most : face ≤ 20) :
    face = 1 ∧ ofFace face = .criticalFailure ∨ (2 ≤ face ∧ face ≤ 9) ∧ ofFace face = .failure ∨
      (10 ≤ face ∧ face ≤ 19) ∧ ofFace face = .success ∨ face = 20 ∧ ofFace face = .revived := by
  unfold ofFace
  split
  · exact .inr (.inr (.inr ⟨by omega, rfl⟩))
  split
  · exact .inl ⟨by omega, rfl⟩
  split
  · exact .inr (.inr (.inl ⟨by omega, rfl⟩))
  · exact .inr (.inl ⟨by omega, rfl⟩)

/-- The counters move as the counts of the row do. -/
theorem tally_counts (incomplete : ¬Complete row) (least : 1 ≤ face) (most : face ≤ 20) :
    (ofFace face).tally (counts row) = shownTally row face := by
  unfold Complete at incomplete
  have kept {count : Nat} (few : count < 8) : count % counterBound = count :=
    Nat.mod_eq_of_lt (Nat.lt_trans few (by decide))
  unfold shownTally counts
  rw [successes_concat, failures_concat]
  rcases ofFace_cases least most with ⟨rfl, means⟩ | ⟨range, means⟩ | ⟨range, means⟩ | ⟨rfl, means⟩
  all_goals
    rw [means, tally]
  · dsimp only
    rw [kept (by omega)]
    rfl
  · dsimp only
    rw [kept (by omega), if_neg (by omega), if_neg (by omega), if_pos range, if_neg (by omega)]
    rfl
  · dsimp only
    rw [kept (by omega), if_neg (by omega), if_pos range, if_neg (by omega), if_neg (by omega)]
    rfl
  · rfl

/-- One of the two replies is shown for each count that has come to three. -/
theorem endKey?_counts (never : ¬(3 ≤ successes row ∧ 3 ≤ failures row)) :
    (DeathRoll.endKey? (counts row)).toList = endings row := by
  change (if 3 ≤ successes row then some "roll.ds.stable"
    else if 3 ≤ failures row then some "roll.ds.dead" else none).toList = endings row
  unfold endings
  split
  · next stable =>
    rw [if_neg fun dead => never ⟨stable, dead⟩]
    rfl
  · split <;> rfl

theorem endings_of_incomplete (incomplete : ¬Complete row) : endings row = [] := by
  obtain ⟨notStable, notDead⟩ := not_or.1 incomplete
  rw [endings, if_neg notStable, if_neg notDead, List.append_nil]

theorem endKey?_shownTally (incomplete : ¬Complete row) (face : Nat) :
    (DeathRoll.endKey? (shownTally row face)).toList = endings (row ++ [face]) := by
  unfold shownTally
  split
  · next twenty =>
    have still : ¬Complete (row ++ [face]) := by
      unfold Complete at *
      rw [successes_concat, failures_concat, if_neg (by omega), if_neg (by omega), if_neg (by omega)]
      exact incomplete
    rw [endings_of_incomplete still]
    rfl
  · exact endKey?_counts (not_both incomplete face)

/-- The counts of the row as it goes on are what is written back. -/
theorem settled_counts (row : List Nat) (face : Nat) :
    (if DeathRoll.isOver (shownTally row face) then ⟨0, 0⟩ else shownTally row face) = counts (extend row face) := by
  have ends (row : List Nat) : DeathRoll.isOver (counts row) = true ↔ Complete row := by
    rw [DeathRoll.isOver, Bool.or_eq_true, decide_eq_true_iff, decide_eq_true_iff]
    rfl
  unfold shownTally extend
  by_cases twenty : face = 20
  · rw [if_pos twenty, if_pos (Or.inl twenty)]
    rfl
  rw [if_neg twenty, if_congr ((ends _).trans (or_iff_right twenty).symm) rfl rfl]
  split <;> rfl

end DeathSave

/-! One throw -/

/-- A reply of the scene is filled to a text. -/
def Scene.Writes (scene : Scene) (key : String) (bindings : Reply.Variables) (text : String) : Prop :=
  ∃ faces, (scene.render key bindings faces).1 = text

namespace DeathRoll

open Number

/-- The lines of a throw: its face with what it means, the counters, and the replies that end a row. -/
inductive Shows (scene : Scene) (outcome : DeathSave) (tally : DeathSaving) (endings : List String) :
    String → Prop where
  | lines {working start judged counted : String} {finish : List String}
      (started : scene.Writes "roll.ds.start" (scene.bindings.insert "掷骰输出" working) start)
      (meant : scene.Writes outcome.textKey scene.bindings judged)
      (counts : scene.Writes "roll.ds.tally"
        ((scene.bindings.insert "成功次数" (natText (min tally.success 3))).insert
          "失败次数" (natText (min tally.failure 3))) counted)
      (ends : List.Forall₂ (fun key line => scene.Writes key scene.bindings line) endings finish) :
      Shows scene outcome tally endings ("\n".intercalate ((start ++ " " ++ judged) :: counted :: finish))

theorem render_each (scene : Scene) (bindings : Reply.Variables) (keys : List String) (faces : Faces) :
    List.Forall₂ (fun key line => scene.Writes key bindings line) keys
      ((keys.mapM (scene.render · bindings)) faces).1 := by
  induction keys generalizing faces with
  | nil => exact .nil
  | cons key keys inductionHypothesis =>
      rw [List.mapM_cons, Step.draw_bind, Step.draw_bind]
      exact .cons ⟨faces, rfl⟩ (inductionHypothesis _)

theorem text_shows (scene : Scene) (result : Notation.Result) (outcome : DeathSave) (tally : DeathSaving)
    (faces : Faces) :
    Shows scene outcome tally (endKey? tally).toList (text scene result outcome tally faces).1 := by
  unfold text
  rw [Step.draw_bind, Step.draw_bind, Step.draw_bind, Step.draw_bind]
  have started : scene.Writes "roll.ds.start" (scene.bindings.insert "掷骰输出" result.output) _ := ⟨faces, rfl⟩
  generalize scene.render "roll.ds.start" _ faces = start at started ⊢
  have judged : scene.Writes outcome.textKey scene.bindings _ := ⟨start.2, rfl⟩
  generalize scene.render outcome.textKey _ start.2 = judge at judged ⊢
  have counted : scene.Writes "roll.ds.tally" ((scene.bindings.insert "成功次数" (natText (min tally.success 3))).insert
      "失败次数" (natText (min tally.failure 3))) _ := ⟨judge.2, rfl⟩
  exact .lines started judged counted (render_each scene scene.bindings _ _)

/-- A throw takes one face. -/
theorem d20_rolls (faces : Faces) : ∃ result, Notation.roll "d20" .random faces =
    (.ok result, (Faces.draw 1 20 faces).2) ∧ result.total = (Faces.draw 1 20 faces).1 := by
  have parsed : Notation.parse "d20".toList = .ok (.dice ⟨1, 20, none, false⟩) := by decide +kernel
  have rolls := Notation.roll_of_parse parsed .random faces
  have thrown : Notation.Expr.roll .random (.dice ⟨1, 20, none, false⟩) faces =
      (.ok ⟨Notation.keptSum [⟨20, (Faces.draw 1 20 faces).1, true, false⟩],
        Notation.diceText [⟨20, (Faces.draw 1 20 faces).1, true, false⟩],
        [⟨20, (Faces.draw 1 20 faces).1, true, false⟩]⟩, (Faces.draw 1 20 faces).2) := rfl
  rw [thrown] at rolls
  exact ⟨_, rolls, congrArg Nat.cast (Nat.add_zero _)⟩

/-- A throw counts the next face on the counters of the card. -/
theorem rollFor_makes (scene : Scene) (card : DndCard) (record : DeathRoll) {faces : Faces} {outcome : DeathSave}
    {tally : DeathSaving} (means : DeathSave.ofFace (Faces.draw 1 20 faces).1 = outcome)
    (moves : outcome.tally card.deathSaving = tally) :
    ∃ output rest, Shows scene outcome tally (endKey? tally).toList output ∧ rollFor scene card record faces =
      ((.ok (), ⟨some card.core.name, some outcome, if isOver tally then ⟨0, 0⟩ else tally, output⟩), rest) := by
  obtain ⟨result, rolled, total⟩ := d20_rolls faces
  rw [← total] at means
  subst means moves
  let shown := text scene result (.ofFace result.total) ((DeathSave.ofFace result.total).tally card.deathSaving)
    (Faces.draw 1 20 faces).2
  refine ⟨shown.1, shown.2, text_shows .., ?_⟩
  unfold rollFor
  rw [Step.bind_apply, Step.dice, rolled]
  rfl

theorem settle_deathSaving (now : Instant) (saving : DeathSaving) (outcome : DeathSave) (card : DndCard) :
    (settle now saving outcome card).deathSaving = saving := by
  have saved : (card.setDeathSaving now saving).deathSaving = saving := by
    unfold DndCard.setDeathSaving
    split
    · next same => exact same
    · rfl
  unfold settle
  split <;> exact saved

theorem apply_settles {board : Board} {name : String} {card : DndCard}
    (there : board.registry.get? name = some (.dnd card)) (now : Instant) (outcome : DeathSave) (saving : DeathSaving)
    (output : String) : apply ⟨some name, some outcome, saving, output⟩ now board =
      .ok ({ board with registry := board.registry.register (.dnd (settle now saving outcome card)) }, [name]) := by
  have named := (settle_tells now saving outcome card).name
  refine Board.changeCard_of_ok there (?_ : _ = Except.ok (Card.dnd (settle now saving outcome card), true)) named
  rfl

/-! Rows of throws -/

/-- What a throw finds when it is asked for. -/
structure Throw where
  context : Context
  setup : Setup
  now : Instant
  faces : Faces

namespace Throw

variable {thrown : Throw} {board : Board} {name : String} {row : List Nat}

def face (thrown : Throw) : Nat :=
  (Faces.draw 1 20 thrown.faces).1

def scene (thrown : Throw) (board : Board) : Scene :=
  ⟨thrown.context, thrown.setup, board⟩

/-- The one who asks for the throw holds the card. -/
def Held (thrown : Throw) (board : Board) (name : String) : Prop :=
  board.registry.links.cardOf? thrown.context.channel thrown.context.user = some name

/-- Makes a throw and writes it to the card. -/
def make? (thrown : Throw) (board : Board) : Option (DeathRoll × Board × List String) :=
  match (roll (thrown.scene board) .new thrown.faces).1 with
  | (.ok (), made) => (made.apply thrown.now board).toOption.map fun (after, names) => (made, after, names)
  | (.error _, _) => none

theorem Held.of_links {after : Board} (held : thrown.Held board name)
    (links : after.registry.links = board.registry.links) : thrown.Held after name := by
  unfold Held
  rw [links]
  exact held

theorem face_range (thrown : Throw) : 1 ≤ thrown.face ∧ thrown.face ≤ 20 := by
  change 1 ≤ max 1 (min 20 _) ∧ max 1 (min 20 _) ≤ 20
  omega

end Throw

/-- The counters of a card are the counts of a row. -/
def Counts (board : Board) (name : String) (row : List Nat) : Prop :=
  ∃ card, board.registry.get? name = some (.dnd card) ∧ card.deathSaving = DeathSave.counts row

variable {thrown : Throw} {board : Board} {name : String} {row : List Nat}

/-- A throw goes on with the row that the counters are the counts of. -/
theorem Throw.make?_counts (counts : Counts board name row) (incomplete : ¬DeathSave.Complete row)
    (held : thrown.Held board name) :
    ∃ made after, thrown.make? board = some (made, after, [name]) ∧
      Counts after name (DeathSave.extend row thrown.face) ∧ after.registry.links = board.registry.links ∧
      Shows (thrown.scene board) (.ofFace thrown.face) (DeathSave.shownTally row thrown.face)
        (DeathSave.endings (row ++ [thrown.face])) made.output := by
  obtain ⟨card, there, saving⟩ := counts
  have named : card.core.name = name := board.registry.named name (.dnd card) there
  have linked : (thrown.scene board).card? = some (.dnd card) := by
    change (board.registry.links.cardOf? thrown.context.channel thrown.context.user).bind _ = _
    rw [held]
    exact there
  obtain ⟨least, most⟩ := thrown.face_range
  obtain ⟨output, rest, shows, rolled⟩ := rollFor_makes (thrown.scene board) card .new
    (rfl : _ = DeathSave.ofFace thrown.face) (saving ▸ DeathSave.tally_counts incomplete least most)
  rw [DeathSave.endKey?_shownTally incomplete] at shows
  rw [DeathSave.settled_counts, named] at rolled
  have made : roll (thrown.scene board) .new thrown.faces =
      rollFor (thrown.scene board) card .new thrown.faces := by
    unfold roll
    rw [linked]
  let saved := DeathSave.counts (DeathSave.extend row thrown.face)
  have settled := settle_tells thrown.now saved (.ofFace thrown.face) card
  let after : Board :=
    { board with registry := board.registry.register (.dnd (settle thrown.now saved (.ofFace thrown.face) card)) }
  refine ⟨⟨some name, some (.ofFace thrown.face), saved, output⟩, after, ?_,
    ⟨_, ?_, settle_deathSaving thrown.now saved (.ofFace thrown.face) card⟩, rfl, shows⟩
  · unfold Throw.make?
    rw [made, rolled]
    dsimp only
    rw [apply_settles there]
    rfl
  · rw [Registry.get?_register, if_pos (settled.name.trans named)]

/-- Makes throws one after another, each on the card that the one before left. -/
def makeEach? (board : Board) (throws : List Throw) : Option Board :=
  throws.foldlM (fun board thrown => (thrown.make? board).map fun (_, after, _) => after) board

/-- A run of throws goes on with a row. The induction is on the throws, and the row grows with each of them. -/
theorem makeEach?_counts {throws : List Throw} (counts : Counts board name row)
    (incomplete : ¬DeathSave.Complete row) (held : ∀ thrown ∈ throws, thrown.Held board name) :
    ∃ after, makeEach? board throws = some after ∧
      Counts after name ((throws.map (·.face)).foldl DeathSave.extend row) ∧
      after.registry.links = board.registry.links := by
  induction throws generalizing board row with
  | nil => exact ⟨board, rfl, counts, rfl⟩
  | cons thrown throws inductionHypothesis =>
      obtain ⟨made, middle, makes, counted, links, _⟩ :=
        thrown.make?_counts counts incomplete (held thrown List.mem_cons_self)
      obtain ⟨after, makesEach, countedEach, linksEach⟩ :=
        inductionHypothesis counted (DeathSave.extend_incomplete row thrown.face) fun other member =>
          (held other (List.mem_cons_of_mem _ member)).of_links links
      refine ⟨after, ?_, countedEach, linksEach.trans links⟩
      unfold makeEach?
      rw [List.foldlM_cons, makes]
      exact makesEach

/-- However many throws are made on a card without successes and failures, its counters are the successes and failures
since they last began anew, and both are below three. The next throw shows a reply of its own exactly when it brings one
of them to three, and never both replies. -/
theorem makeEach?_countsSinceReset {throws : List Throw} {card : DndCard}
    (there : board.registry.get? name = some (.dnd card)) (fresh : card.deathSaving = ⟨0, 0⟩)
    (held : ∀ thrown ∈ throws, thrown.Held board name) :
    ∃ after saved row, makeEach? board throws = some after ∧
      row = DeathSave.sinceReset (throws.map (·.face)) ∧ after.registry.get? name = some (.dnd saved) ∧
      saved.deathSaving = ⟨DeathSave.successes row, DeathSave.failures row⟩ ∧
      DeathSave.successes row < 3 ∧ DeathSave.failures row < 3 ∧
      ∀ thrown : Throw, thrown.Held board name → ∃ made last, thrown.make? after = some (made, last, [name]) ∧
        Counts last name (DeathSave.extend row thrown.face) ∧
        Shows (thrown.scene after) (.ofFace thrown.face) (DeathSave.shownTally row thrown.face)
          (DeathSave.endings (row ++ [thrown.face])) made.output ∧
        ¬(3 ≤ DeathSave.successes (row ++ [thrown.face]) ∧ 3 ≤ DeathSave.failures (row ++ [thrown.face])) := by
  have incomplete := DeathSave.sinceReset_incomplete (throws.map (·.face))
  have start : Counts board name [] := ⟨card, there, fresh⟩
  obtain ⟨after, makes, counted, links⟩ := makeEach?_counts start (by decide) held
  obtain ⟨saved, stands, counts⟩ := counted
  obtain ⟨fewSuccesses, fewFailures⟩ := not_or.1 incomplete
  refine ⟨after, saved, _, makes, rfl, stands, counts, Nat.not_le.1 fewSuccesses, Nat.not_le.1 fewFailures,
    fun thrown holds => ?_⟩
  obtain ⟨made, last, makesNext, countsNext, _, shows⟩ :=
    thrown.make?_counts ⟨saved, stands, counts⟩ incomplete (holds.of_links links)
  exact ⟨made, last, makesNext, countsNext, shows, DeathSave.not_both incomplete thrown.face⟩

/-- A board with one card, and a user who holds it. -/
def bedside : Board :=
  { Board.empty with
    registry := (Registry.empty.register (.dnd (.new "Tav" .epoch))).link "c1" "u1" (some "Tav") }

/-- A throw of that user with a face. -/
def bedsideThrow (face : Nat) : Throw :=
  ⟨⟨"u1", "Maca", .user, "c1", none, none⟩, ⟨.standard .epoch, []⟩, .epoch, .constant face⟩

theorem bedside_held (face : Nat) : (bedsideThrow face).Held bedside "Tav" :=
  Links.cardOf?_give

/-- A success and a one leave counters of one and two, and the next failure is the third one. -/
theorem makeEach?_countsSinceReset_bedside :
    bedside.registry.get? "Tav" = some (.dnd (.new "Tav" .epoch)) ∧
      (∀ thrown ∈ [bedsideThrow 12, bedsideThrow 1], thrown.Held bedside "Tav") ∧
      ∃ after saved made last, makeEach? bedside [bedsideThrow 12, bedsideThrow 1] = some after ∧
        after.registry.get? "Tav" = some (.dnd saved) ∧ saved.deathSaving = ⟨1, 2⟩ ∧
        (bedsideThrow 5).make? after = some (made, last, ["Tav"]) ∧ Counts last "Tav" [] ∧
        Shows ((bedsideThrow 5).scene after) .failure ⟨1, 3⟩ ["roll.ds.dead"] made.output := by
  have there : bedside.registry.get? "Tav" = some (.dnd (.new "Tav" .epoch)) :=
    (Registry.get?_link ..).trans ((Registry.get?_register ..).trans (if_pos rfl))
  have held : ∀ thrown ∈ [bedsideThrow 12, bedsideThrow 1], thrown.Held bedside "Tav" :=
    List.forall_mem_cons.2 ⟨bedside_held 12, List.forall_mem_singleton.2 (bedside_held 1)⟩
  obtain ⟨after, saved, row, makes, counted, stands, counts, _, _, nextThrow⟩ :=
    makeEach?_countsSinceReset there rfl held
  have faces : row = [12, 1] := counted.trans (by decide +kernel)
  subst faces
  obtain ⟨made, last, makesNext, countsNext, shows, _⟩ := nextThrow (bedsideThrow 5) (bedside_held 5)
  exact ⟨there, held, after, saved, made, last, makes, stands, counts, makesNext, countsNext, shows⟩

end DeathRoll

end Tabletop
