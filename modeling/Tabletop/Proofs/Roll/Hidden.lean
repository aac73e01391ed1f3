/-
This file proves what a hidden roll shows, and to whom.

The sender sees the whole result. Everyone else sees a text that takes nothing from the roll but its
description. Reading a command puts all that it rolls on the list of inline rolls. So a command that is read without an
inline roll takes no faces, and it is read in the same way whatever faces there are.
-/

import Tabletop.Proofs.Roll.Target
import Tabletop.Proofs.Step
import Tabletop.Roll

namespace Tabletop

open Step Text

/-! What commands roll while they are read -/

namespace Template

/-- The expansion puts all that it rolls on the list of inline rolls. -/
abbrev Recorded {α : Type} (step : Expanding α) : Prop :=
  Records id step

theorem expandReference_records {inner : List Char → Expanding (List Char)}
    (recorded : ∀ text, Recorded (inner text)) (card : Card) (reference : Reference) :
    Recorded (expandReference inner card reference) := by
  unfold expandReference
  dsimp only
  split
  · refine (recorded _).bind fun expression => ?_
    exact records_dice (fun _ _ => rfl) fun _ => records_pure _
  · split
    · exact records_pure _
    · exact records_pure _

theorem expandPieces_records {inner : List Char → Expanding (List Char)}
    (recorded : ∀ text, Recorded (inner text)) (card : Card) (pieces : List Piece) :
    Recorded (expandPieces inner card pieces) := by
  induction pieces with
  | nil => exact records_pure _
  | cons piece rest inductionHypothesis =>
      cases piece with
      | char char => exact inductionHypothesis.bind fun _ => records_pure _
      | reference reference =>
          refine (expandReference_records recorded card reference).bind fun text => ?_
          exact inductionHypothesis.bind fun _ => records_pure _

theorem rollGroups_records (fuel : Nat) (totals : List Int) (text : List Char) :
    Recorded (rollGroups fuel totals text) := by
  induction fuel generalizing totals text with
  | zero => exact records_pure _
  | succ fuel inductionHypothesis =>
      unfold rollGroups
      split
      · exact records_pure _
      · exact records_dice (fun _ _ => rfl) fun _ => inductionHypothesis _ _

theorem expandWithin_records (card : Option Card) (room : Nat) (text : List Char) :
    Recorded (expandWithin card room text) := by
  induction room generalizing text with
  | zero => exact records_throw _
  | succ room inductionHypothesis =>
      have behind (text : List Char) : Recorded
          (rollGroups (text.count '[') [] text >>= fun rolled => pure (withTotals rolled.2 rolled.1)) :=
        (rollGroups_records _ _ _).bind fun _ => records_pure _
      cases card with
      | none => exact (records_pure _).bind behind
      | some card => exact (expandPieces_records inductionHypothesis card _).bind behind

end Template

namespace Alias

theorem resolveWithin_records (rules : List Alias) (context : Context) (card : Option Card)
    (room : Nat) (text : List Char) :
    Template.Recorded (resolveWithin rules context card room text) := by
  induction room generalizing text with
  | zero => exact records_throw _
  | succ room inductionHypothesis =>
      unfold resolveWithin
      split
      · refine (Template.expandWithin_records card _ _).bind fun expanded => ?_
        exact (inductionHypothesis _).bind fun _ => records_pure _
      · exact records_pure _

theorem resolve_records (rules : List Alias) (context : Context) (card : Option Card)
    (text : List Char) : Template.Recorded (resolve rules context card text) :=
  resolveWithin_records rules context card _ text

end Alias

namespace StandardRoll

theorem expandText_records (scene : Scene) (text : List Char) :
    Records (·.history) (expandText scene text) := by
  refine Records.within (?_ : Template.Recorded _) fun _ _ => rfl
  refine (Alias.resolve_records _ _ _ _).bind fun aliased => ?_
  exact Template.expandWithin_records _ _ _

theorem read_records (scene : Scene) : Records (·.history) (read scene) := by
  refine records_get fun roll => ?_
  refine (expandText_records scene _).bind fun text => ?_
  exact records_modify fun _ => rfl

end StandardRoll

/-! Hidden rolls -/

namespace Setup

/-- The hooks around the dice leave a part of the state of a roll alone. -/
def HooksKeep {α : Type} (setup : Setup) (part : RollState → α) : Prop :=
  ∀ kind, ∀ hook ∈ setup.diceRollHooks kind, ∀ state, part (hook state) = part state

theorem HooksKeep.fold {α : Type} {setup : Setup} {part : RollState → α} (kept : setup.HooksKeep part)
    (kind : HookKind) (state : RollState) :
    part ((setup.diceRollHooks kind).foldl (fun state hook => hook state) state) = part state :=
  List.foldlRecOn (motive := fun later => part later = part state) _ _ rfl
    fun later same hook used => (kept kind hook used later).trans same

/-- A reply with a single candidate takes no faces. -/
theorem render_single {setup : Setup} {key : String} {item : Reply.Item}
    (single : setup.text? key = some [item]) (bindings : Reply.Variables) (faces : Faces) :
    setup.render key bindings faces =
      (String.ofList (Reply.render bindings item.text.toList), faces) := by
  unfold render
  rw [single]
  rfl

end Setup

namespace StandardRoll

variable {scene : Scene} {start after : StandardRoll} {faces rest : Faces}

/-- What stands for a hidden roll with a description. -/
def hiddenText (scene : Scene) (description : String) : StateM Faces String :=
  scene.render "roll.hidden" (scene.bindings.insert "描述" description)

/-- What happens between reading the command and writing the output. -/
def work (scene : Scene) : Rolling Unit := do
  runHooks scene .beforeDiceRoll
  rollDice scene
  runHooks scene .afterDiceRoll
  modify fun roll => { roll with growth := growthOf roll.state }

theorem roll_eq (scene : Scene) : roll scene = (do read scene; work scene; write scene) := by
  simp only [roll, work, bind_assoc]

/-- A roll that does not fail reads its command, works it out and writes its output. -/
theorem roll_ok (made : roll scene start faces = ((.ok (), after), rest)) :
    ∃ told left worked between, read scene start faces = ((.ok (), told), left) ∧
      work scene told left = ((.ok (), worked), between) ∧
      write scene worked between = ((.ok (), after), rest) := by
  rw [roll_eq] at made
  obtain ⟨_, told, left, first, made⟩ := bind_ok made
  obtain ⟨_, worked, between, second, third⟩ := bind_ok made
  exact ⟨told, left, worked, between, first, second, third⟩

/-- Working a roll out changes its state by the hooks and the dice, and tells which skills grow. -/
theorem work_ok (done : work scene start faces = ((.ok (), after), rest)) :
    ∃ before thrown left middle, runHooks scene .beforeDiceRoll start faces = ((.ok (), before), left) ∧
      rollDice scene before left = ((.ok (), thrown), middle) ∧ after.state =
        (scene.setup.diceRollHooks .afterDiceRoll).foldl (fun state hook => hook state) thrown.state ∧
      after.growth = growthOf after.state := by
  obtain ⟨_, before, left, hooked, done⟩ := bind_ok done
  obtain ⟨_, thrown, _, rolled, done⟩ := bind_ok done
  obtain ⟨_, _, _, changed, done⟩ := bind_ok done
  cases changed
  cases done
  exact ⟨before, thrown, left, _, hooked, rolled, rfl, rfl⟩

/-- Writing the output changes nothing but the output. -/
theorem write_keeps (holds : StandardRoll → Prop) (unwritten : ∀ roll output privateOutput, holds roll →
      holds { roll with output := output, privateOutput := privateOutput }) : Keeps holds (write scene) := by
  apply keeps_get
  intro roll held
  refine (keeps_draw _).bind fun full => ?_
  split
  · exact (keeps_draw _).bind fun shown => keeps_set (unwritten roll _ _ held)
  · exact keeps_set (unwritten roll _ _ held)

/-! What is left alone -/

section Keeps

variable {α : Type} {part : RollState → α}

/-- The roll has the same inline rolls as another one, and a part of its state is the same. -/
def Agrees (part : RollState → α) (told roll : StandardRoll) : Prop :=
  roll.history = told.history ∧ part roll.state = part told.state

theorem modifyState_agrees (told : StandardRoll) {change : RollState → RollState}
    (kept : ∀ state, part (change state) = part state) :
    Keeps (Agrees part told) (modifyState change) :=
  keeps_modify fun roll held => ⟨held.1, (kept roll.state).trans held.2⟩

theorem runHooks_agrees (told : StandardRoll) (kept : scene.setup.HooksKeep part) (kind : HookKind) :
    Keeps (Agrees part told) (runHooks scene kind) :=
  modifyState_agrees told fun state => kept.fold kind state

theorem repeated_agrees (told : StandardRoll) {step : Rolling Unit}
    (kept : Keeps (Agrees part told) step) (times : Nat) :
    Keeps (Agrees part told) (repeated step times) := by
  induction times with
  | zero => exact keeps_pure _
  | succ times inductionHypothesis => exact kept.bind fun _ => inductionHypothesis

theorem write_agrees (told : StandardRoll) : Keeps (Agrees part told) (write scene) :=
  write_keeps _ fun _ _ _ held => held

variable (unrolled : ∀ state rolls, part { state with rolls := rolls } = part state)
include unrolled

theorem addRoll_agrees (told : StandardRoll) (roll : TestedRoll) :
    Keeps (Agrees part told) (addRoll roll) :=
  modifyState_agrees told fun state => unrolled state _

theorem rollDice_agrees (told : StandardRoll) : Keeps (Agrees part told) (rollDice scene) := by
  refine (modifyState_agrees told fun state => unrolled state _).bind fun _ => ?_
  apply keeps_get
  intro roll held
  dsimp only
  split
  · apply repeated_agrees
    exact keeps_forM fun skill => (keeps_dice _ _).bind fun _ => addRoll_agrees unrolled told _
  · apply repeated_agrees
    exact (keeps_dice _ _).bind fun _ => addRoll_agrees unrolled told _

theorem work_agrees (told : StandardRoll) (kept : scene.setup.HooksKeep part) :
    Keeps (Agrees part told) (work scene) := by
  refine (runHooks_agrees told kept _).bind fun _ => ?_
  refine (rollDice_agrees unrolled told).bind fun _ => ?_
  refine (runHooks_agrees told kept _).bind fun _ => ?_
  exact keeps_modify fun _ held => held

end Keeps

/-- A roll keeps the inline rolls of its command, and what the hooks and the dice leave alone. -/
theorem roll_agrees {α : Type} {part : RollState → α}
    (unrolled : ∀ state rolls, part { state with rolls := rolls } = part state)
    (kept : scene.setup.HooksKeep part) (made : roll scene start faces = ((.ok (), after), rest)) :
    ∃ told left, read scene start faces = ((.ok (), told), left) ∧ Agrees part told after := by
  obtain ⟨told, left, worked, between, first, second, third⟩ := roll_ok made
  have agrees := (work_agrees unrolled told kept).after ⟨rfl, rfl⟩ second
  exact ⟨told, left, first, (write_agrees told).after agrees third⟩

/-! What is shown -/

/-- Others may not answer a hidden roll. -/
theorem snapshot?_hidden (hidden : after.state.hidden = true) : after.snapshot? = none := by
  unfold snapshot?
  rw [hidden]

/-- The flag in the command hides the roll, unless a hook shows it. -/
theorem roll_hidden (kept : scene.setup.HooksKeep (·.hidden))
    (made : roll scene start faces = ((.ok (), after), rest)) :
    after.state.hidden = (splitFlags (trim start.source.toList)).1.hidden := by
  obtain ⟨told, left, first, agrees⟩ := roll_agrees (fun _ _ => rfl) kept made
  refine agrees.2.trans ?_
  unfold read at first
  obtain ⟨_, _, _, looked, first⟩ := bind_ok first
  cases looked
  obtain ⟨text, _, _, _, stored⟩ := bind_ok first
  cases stored
  rfl

/-- Everyone sees that there is a hidden roll, and its sender sees the whole result. -/
theorem roll_shows (made : roll scene start faces = ((.ok (), after), rest))
    (hidden : after.state.hidden = true) :
    ∃ left right, after.privateOutput = some (fullText scene after left).1 ∧
      after.output = (hiddenText scene after.state.description right).1 := by
  obtain ⟨_, _, worked, left, _, _, written⟩ := roll_ok made
  unfold write at written
  obtain ⟨_, _, _, looked, written⟩ := bind_ok written
  cases looked
  obtain ⟨full, _, right, drawn, written⟩ := bind_ok written
  cases drawn
  split at written
  · obtain ⟨shown, _, _, drawn, written⟩ := bind_ok written
    cases drawn
    cases written
    exact ⟨left, _, rfl, rfl⟩
  · next shown =>
    cases written
    exact absurd hidden shown

/-- A command that is read without an inline roll is read in the same way with any other faces. -/
theorem read_other {told : StandardRoll} {left : Faces}
    (first : read scene start faces = ((.ok (), told), left)) (none : told.history = [])
    (other : Faces) : start.history = [] ∧ read scene start other = ((.ok (), told), other) := by
  obtain ⟨added, grown, still⟩ := read_records scene _ _ _ _ _ first
  obtain ⟨before, nothing⟩ := List.append_eq_nil_iff.1 (grown.symm.trans none)
  exact ⟨before, still nothing other⟩

end StandardRoll

/-- An answer rolls a standard roll. If that cannot be compared, then nothing is added to its output. -/
theorem OpposedRoll.roll_ok {scene : Scene} {start after : OpposedRoll} {faces rest : Faces}
    (made : roll scene start faces = ((.ok (), after), rest)) :
    ∃ left, StandardRoll.roll scene start.inner faces = ((.ok (), after.inner), left) ∧
      (after.inner.snapshot? = none → after.output = after.inner.output) := by
  unfold roll at made
  obtain ⟨_, answered, left, first, made⟩ := bind_ok made
  obtain ⟨inner, rolled, rfl⟩ := within_eq first
  obtain ⟨_, _, _, looked, made⟩ := bind_ok made
  cases looked
  dsimp only at made
  cases compared : inner.snapshot? with
  | none =>
      rw [compared] at made
      cases made
      exact ⟨_, rolled, fun _ => rfl⟩
  | some reply =>
      rw [compared] at made
      obtain ⟨_, _, _, drawn, made⟩ := bind_ok made
      cases drawn
      cases made
      exact ⟨_, rolled, fun alone => nomatch compared.symm.trans alone⟩

namespace Evaluator

/-- The standard roll that is worked out, on its own or as an answer. -/
def standard? : Evaluator → Option StandardRoll
  | .standard roll => some roll
  | .opposed roll => some roll.inner
  | _ => none

/-- A standard roll that was made on its own or as an answer began as one. If it is hidden, then nobody
can answer it, and others see what it shows and nothing else. -/
theorem roll_standard {scene : Scene} {now : Instant} {start after : Evaluator}
    {inner : StandardRoll} {faces rest : Faces}
    (made : start.roll scene now faces = ((.ok (), after), rest))
    (standard : after.standard? = some inner) :
    ∃ before left, start.standard? = some before ∧
      StandardRoll.roll scene before faces = ((.ok (), inner), left) ∧
      (inner.state.hidden = true → after.output = inner.output ∧ after.snapshot? = none) := by
  cases start with
  | standard roll =>
      unfold Evaluator.roll at made
      obtain ⟨_, rolled, rfl⟩ := take_ok made
      cases standard
      exact ⟨roll, rest, rfl, rolled, fun hidden => ⟨rfl, StandardRoll.snapshot?_hidden hidden⟩⟩
  | opposed roll =>
      unfold Evaluator.roll at made
      obtain ⟨_, answered, rfl⟩ := take_ok made
      cases standard
      obtain ⟨left, rolled, alone⟩ := OpposedRoll.roll_ok answered
      exact ⟨roll.inner, left, rfl, rolled,
        fun hidden => ⟨alone (StandardRoll.snapshot?_hidden hidden), rfl⟩⟩
  | _ =>
      unfold Evaluator.roll at made
      obtain ⟨_, _, rfl⟩ := take_ok made
      cases standard

/-- Only a roll on its own passes on what its sender sees. -/
theorem privateOutput_standard {evaluator : Evaluator} {inner : StandardRoll}
    (standard : evaluator.standard? = some inner) :
    evaluator.privateOutput = if evaluator.kind = .standard then inner.privateOutput else none := by
  cases evaluator with
  | standard roll =>
      cases standard
      rfl
  | opposed roll => rfl
  | _ => cases standard

end Evaluator

end Tabletop
