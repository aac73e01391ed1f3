/-
This file proves who sees what of a hidden roll.

The sender of a command gets the whole result of a hidden roll, unless the roll answers another one: then
nobody gets it. What everyone else sees depends on the roll through its description alone.
-/

import Tabletop.Proofs.Engine.Dispatch
import Tabletop.Proofs.Roll.Hidden

namespace Tabletop

open Text

/-- A special command is no standard roll. -/
theorem SpecialCommand.evaluator_standard? {command : SpecialCommand} {rest : String}
    {text : List Char} (found : find? text = some (command, rest)) :
    (command.evaluator rest).standard? = none := by
  obtain ⟨listed, member, chosen⟩ := List.exists_of_findSome?_eq_some found
  obtain ⟨_, _, same⟩ := Option.map_eq_some_iff.1 chosen
  cases same
  simp only [all, List.mem_cons, List.not_mem_nil, or_false] at member
  rcases member with rfl | rfl | rfl | rfl | rfl | rfl | rfl | rfl <;> rfl

/-- What everyone but one user sees of a command. -/
structure PublicView where
  output : Option String
  messages : List Message
  openRolls : OpenRolls
  /-- What a reply would be compared with. -/
  snapshot : Option Snapshot

def Dispatched.publicView (dispatched : Dispatched) (user : String) : PublicView where
  output := dispatched.roll.map (·.output)
  messages := dispatched.messages.filter (·.receiver != .user user)
  openRolls := dispatched.engine.openRolls
  snapshot := dispatched.roll.bind (·.snapshot?)

namespace Engine

variable {engine : Engine} {now : Instant} {command : Command} {dispatched : Dispatched} {roll : Roll}
  {inner : StandardRoll}

/-- A standard roll begins with the text of the command, on its own or as an answer. -/
theorem evaluator?_standard {context : Context} {text : List Char} {history : List InlineRoll}
    {evaluator : Evaluator} {start : StandardRoll}
    (chosen : engine.evaluator? context text history = some evaluator)
    (standard : evaluator.standard? = some start) :
    start = .new (String.ofList text) history := by
  unfold evaluator? at chosen
  split at chosen
  · next found =>
    split at chosen
    · cases chosen
      rw [SpecialCommand.evaluator_standard? found] at standard
      cases standard
    · cases chosen
  · dsimp only at chosen
    split at chosen
    · cases chosen
      cases standard
      rfl
    · cases chosen
      cases standard
      rfl

/-- What a command finds around it once the hooks of its channel are through with it. -/
def sceneOf (engine : Engine) (command : Command) : Scene :=
  engine.scene (engine.received command).context

/-- The expansion of the aliases in the command that the hooks leave. -/
def expansion (engine : Engine) (command : Command) : Expanding (List Char) :=
  Alias.resolve ((engine.sceneOf command).setup.aliases .command) (engine.sceneOf command).context
    (engine.sceneOf command).card? (trim (engine.received command).text.toList)

theorem expansion_records (engine : Engine) (command : Command) :
    Template.Recorded (engine.expansion command) :=
  Alias.resolve_records _ _ _ _

/-- What stands behind a command that led to a standard roll: its aliases were expanded, and the roll of
the text that came out of it was made. -/
theorem dispatch_standard (handled : engine.dispatch now command = .ok dispatched)
    (rolled : dispatched.roll = some roll) (standard : roll.evaluator.standard? = some inner) :
    ∃ text history left between,
      engine.expansion command [] engine.faces = ((.ok text, history), left) ∧
      StandardRoll.roll (engine.sceneOf command) (.new (String.ofList text) history) left =
        ((.ok (), inner), between) ∧
      roll.command = String.ofList text ∧ roll.context = (engine.sceneOf command).context ∧
      roll.phase = .rolled ∧
      (inner.state.hidden = true →
        roll.evaluator.output = inner.output ∧ roll.evaluator.snapshot? = none) := by
  obtain ⟨faces, evaluated, _⟩ := dispatch_roll handled rolled
  obtain ⟨text, history, left, evaluator, resolved, chosen, made⟩ := evaluate_ok evaluated
  obtain ⟨before, between, began, standardRolled, shown⟩ :=
    Evaluator.roll_standard (Roll.roll_evaluator made) standard
  rw [evaluator?_standard chosen began] at standardRolled
  have same := Roll.roll_ok made
  refine ⟨text, history, left, between, resolved, standardRolled, ?_, ?_, ?_, shown⟩
  · rw [same]
    rfl
  · rw [same]
    rfl
  · rw [same]

/-! What the sender gets -/

/-- A hidden roll shows what its standard roll shows, and nobody can answer it. -/
theorem dispatch_shows (handled : engine.dispatch now command = .ok dispatched)
    (rolled : dispatched.roll = some roll) (standard : roll.evaluator.standard? = some inner)
    (hidden : inner.state.hidden = true) :
    roll.output = inner.output ∧ roll.privateOutput = roll.evaluator.privateOutput ∧
      roll.snapshot? = none := by
  obtain ⟨_, _, _, _, _, _, _, _, phase, shown⟩ := dispatch_standard handled rolled standard
  obtain ⟨output, alone⟩ := shown hidden
  simp only [Roll.output, Roll.privateOutput, Roll.snapshot?, phase, reduceCtorEq, if_false, output,
    alone, and_self]

/-- An engine that shows the descriptions of hidden rolls and the faces of others. -/
def plain : Engine :=
  saying ([("roll.hidden", [⟨Reply.slot "描述", 1⟩]), ("roll.result", [⟨Reply.slot "掷骰输出", 1⟩])] ++
    ["roll.start", "roll.inline.first", "roll.inline.last", "roll.test", "test.best"].map
      fun key => (key, []))

/-- Another user, who answers the message of the sender. -/
def answerer : Context :=
  ⟨"u2", "Bob", .user, "c1", none, some "m1"⟩

/-- Handling a command leads to a standard roll that is hidden, on its own or as an answer. -/
structure Hides (engine : Engine) (now : Instant) (command : Command) (dispatched : Dispatched)
    (roll : Roll) (inner : StandardRoll) : Prop where
  handled : engine.dispatch now command = .ok dispatched
  rolled : dispatched.roll = some roll
  standard : roll.evaluator.standard? = some inner
  hidden : inner.state.hidden = true

/-- A roll that cannot be compared is not opened to replies. -/
theorem openIfWanted_alone (alone : roll.snapshot? = none) : engine.openIfWanted roll = engine := by
  rcases openIfWanted_cases engine roll with same | ⟨_, _, _, _, compared, _⟩
  · exact same
  · rw [alone] at compared
    cases compared

/-- The private messages of a roll go to its sender. -/
theorem privateMessages_others (roll : Roll) :
    (privateMessages roll).filter (·.receiver != .user roll.context.user) = [] := by
  rw [List.filter_eq_nil_iff]
  intro message sent
  obtain ⟨text, _, rfl⟩ := List.mem_map.1 sent
  simp

/-- What others see of a hidden roll is known from its description. -/
theorem Hides.publicView_eq {item : Reply.Item} (hides : Hides engine now command dispatched roll inner)
    (single : (engine.sceneOf command).setup.text? "roll.hidden" = some [item]) :
    dispatched.publicView (engine.sceneOf command).context.user =
      { output := some (String.ofList (Reply.render
          ((engine.sceneOf command).bindings.insert "描述" inner.state.description) item.text.toList))
        messages := (engine.hookMessages command).filter
          (·.receiver != .user (engine.sceneOf command).context.user)
        openRolls := engine.openRolls
        snapshot := none } := by
  obtain ⟨handled, rolled, standard, hidden⟩ := hides
  obtain ⟨output, _, alone⟩ := dispatch_shows handled rolled standard hidden
  obtain ⟨_, _, _, _, _, made, _, context, _, _⟩ := dispatch_standard handled rolled standard
  obtain ⟨_, right, _, shown⟩ := StandardRoll.roll_shows made hidden
  rw [StandardRoll.hiddenText, Scene.render, Setup.render_single single] at shown
  obtain ⟨faces, _, same, messages⟩ := dispatch_roll handled rolled
  rw [Dispatched.publicView, rolled, same, openIfWanted_alone alone, messages,
    List.filter_append, ← context, privateMessages_others,
    List.append_nil, Option.map_some, Option.bind_some, output, shown, alone, context]

/-- The aliases of the command are expanded and its text is read, and the description stays as it was
read. -/
theorem dispatch_reads (handled : engine.dispatch now command = .ok dispatched)
    (rolled : dispatched.roll = some roll) (standard : roll.evaluator.standard? = some inner)
    (kept : (engine.sceneOf command).setup.HooksKeep (·.description)) :
    ∃ text history left told rest,
      engine.expansion command [] engine.faces = ((.ok text, history), left) ∧
      StandardRoll.read (engine.sceneOf command) (.new (String.ofList text) history) left =
        ((.ok (), told), rest) ∧
      StandardRoll.Agrees (·.description) told inner := by
  obtain ⟨text, history, left, _, resolved, made, _⟩ := dispatch_standard handled rolled standard
  obtain ⟨told, rest, first, agrees⟩ := StandardRoll.roll_agrees (fun _ _ => rfl) kept made
  exact ⟨text, history, left, told, rest, resolved, first, agrees⟩

/-- A roll whose command is read without an inline roll has the same description with any other faces. -/
theorem dispatch_description {one other : Faces} {first second : Dispatched} {roll' : Roll}
    {inner' : StandardRoll} (kept : (engine.sceneOf command).setup.HooksKeep (·.description))
    (handled : dispatch { engine with faces := one } now command = .ok first)
    (rolled : first.roll = some roll) (standard : roll.evaluator.standard? = some inner)
    (handled' : dispatch { engine with faces := other } now command = .ok second)
    (rolled' : second.roll = some roll') (standard' : roll'.evaluator.standard? = some inner')
    (none : inner.history = []) : inner.state.description = inner'.state.description := by
  obtain ⟨text, history, left, told, _, resolved, reads, agrees⟩ :=
    dispatch_reads handled rolled standard kept
  obtain ⟨text', history', left', told', _, resolved', reads', agrees'⟩ :=
    dispatch_reads handled' rolled' standard' kept
  -- Neither the aliases nor the text of the first command took faces, so they lead to the same roll.
  obtain ⟨unrolled, again⟩ := StandardRoll.read_other reads (agrees.1.symm.trans none) left'
  obtain ⟨added, grown, still⟩ := expansion_records _ _ _ _ _ _ _ resolved
  have nothing : added = [] := grown.symm.trans unrolled
  have same := (still nothing other).symm.trans resolved'
  cases same
  have told := again.symm.trans reads'
  cases told
  exact agrees.2.trans agrees'.2.symm

/-- The same hidden command under two streams of faces looks the same to everyone but its sender, if the
text for hidden rolls has one candidate and the hooks leave the description alone. Inline rolls are the
exception: they put what they roll into the description, so either there are none or they lead to the
same description. -/
theorem dispatch_publicView {one other : Faces} {first second : Dispatched} {roll' : Roll}
    {inner' : StandardRoll} {item : Reply.Item}
    (single : (engine.sceneOf command).setup.text? "roll.hidden" = some [item])
    (kept : (engine.sceneOf command).setup.HooksKeep (·.description))
    (hides : Hides { engine with faces := one } now command first roll inner)
    (hides' : Hides { engine with faces := other } now command second roll' inner')
    (told : inner.history = [] ∨ inner.state.description = inner'.state.description) :
    first.publicView (engine.received command).context.user =
      second.publicView (engine.received command).context.user := by
  have same : inner.state.description = inner'.state.description := by
    rcases told with none | same
    · exact dispatch_description kept hides.handled hides.rolled hides.standard hides'.handled
        hides'.rolled hides'.standard none
    · exact same
  have view := hides.publicView_eq single
  rw [same] at view
  exact view.trans (hides'.publicView_eq single).symm

/-- A closed run of a command shows that its roll is hidden. -/
theorem exists_hides (engine : Engine) (command : Command) (test : StandardRoll → Bool)
    (passes : (engine.dispatch .epoch command).toOption.any (fun dispatched =>
      dispatched.roll.any fun roll => roll.evaluator.standard?.any fun inner =>
        inner.state.hidden && test inner) = true) :
    ∃ dispatched roll inner, Hides engine .epoch command dispatched roll inner ∧
      test inner = true := by
  obtain ⟨dispatched, handled, rolls⟩ := exists_of_any _ _ passes
  obtain ⟨roll, rolled, standards⟩ := (Option.any_eq_true _ _).1 rolls
  obtain ⟨inner, standard, checks⟩ := (Option.any_eq_true _ _).1 standards
  obtain ⟨hidden, tested⟩ := Bool.and_eq_true_iff.1 checks
  exact ⟨dispatched, roll, inner, ⟨handled, rolled, standard, hidden⟩, tested⟩

/-- Without plugins no hook changes a roll. -/
theorem plain_hooksKeep {α : Type} (channel : String) (part : RollState → α) :
    (plain.setup channel).HooksKeep part := by
  intro kind hook used
  have none : (plain.setup channel).diceRollHooks kind = [] := by
    cases kind <;> rfl
  rw [none] at used
  cases used

/-- There is one text for hidden rolls. -/
theorem plain_hiddenText : ∃ item, (plain.setup "c1").text? "roll.hidden" = some [item] := by
  have one : ((plain.setup "c1").text? "roll.hidden").any (·.length == 1) = true := by
    decide +kernel
  obtain ⟨items, found, single⟩ := (Option.any_eq_true _ _).1 one
  obtain ⟨item, rfl⟩ := List.length_eq_one_iff.1 (eq_of_beq single)
  exact ⟨item, found⟩

/-- Nobody but the sender can tell a three from a five. -/
theorem dispatch_publicView_plain :
    ∃ first roll inner second roll' inner',
      Hides { plain with faces := .constant 3 } .epoch ⟨"rh d100", sender⟩ first roll inner ∧
      Hides { plain with faces := .constant 5 } .epoch ⟨"rh d100", sender⟩ second roll' inner' ∧
      inner.state.rolls ≠ inner'.state.rolls ∧
      first.publicView "u1" = second.publicView "u1" := by
  obtain ⟨first, roll, inner, hides, three⟩ := exists_hides
    { plain with faces := .constant 3 } ⟨"rh d100", sender⟩
    (fun inner => inner.history.isEmpty && inner.state.rolls.map (·.result.total) == [3])
    (by decide +kernel)
  obtain ⟨second, roll', inner', hides', five⟩ := exists_hides
    { plain with faces := .constant 5 } ⟨"rh d100", sender⟩
    (fun inner => inner.state.rolls.map (·.result.total) == [5]) (by decide +kernel)
  obtain ⟨unrolled, three⟩ := Bool.and_eq_true_iff.1 three
  obtain ⟨item, single⟩ := plain_hiddenText
  refine ⟨first, roll, inner, second, roll', inner', hides, hides', ?_, ?_⟩
  · intro same
    rw [same, eq_of_beq five] at three
    cases three
  · have unhooked : (plain.sceneOf ⟨"rh d100", sender⟩).setup = plain.setup "c1" := rfl
    have kept := plain_hooksKeep "c1" (·.description)
    rw [← unhooked] at single kept
    exact dispatch_publicView single kept hides hides' (.inl (List.isEmpty_iff.1 unrolled))

/-- An inline roll stands in the description, which everyone sees. -/
theorem dispatch_publicView_inline :
    ∃ item first roll inner second roll' inner',
      (plain.setup "c1").text? "roll.hidden" = some [item] ∧
      (plain.setup "c1").HooksKeep (·.description) ∧
      Hides { plain with faces := .constant 3 } .epoch ⟨"rh d100 [[d6]]次偷袭", sender⟩ first roll inner ∧
      Hides { plain with faces := .constant 5 } .epoch ⟨"rh d100 [[d6]]次偷袭", sender⟩ second roll'
        inner' ∧
      roll.output ≠ roll'.output := by
  obtain ⟨first, roll, inner, hides, three⟩ := exists_hides
    { plain with faces := .constant 3 } ⟨"rh d100 [[d6]]次偷袭", sender⟩
    (·.output == "3次偷袭") (by decide +kernel)
  obtain ⟨second, roll', inner', hides', five⟩ := exists_hides
    { plain with faces := .constant 5 } ⟨"rh d100 [[d6]]次偷袭", sender⟩
    (·.output == "5次偷袭") (by decide +kernel)
  obtain ⟨item, single⟩ := plain_hiddenText
  refine ⟨item, first, roll, inner, second, roll', inner', single, plain_hooksKeep "c1" _, hides,
    hides', ?_⟩
  rw [(dispatch_shows hides.handled hides.rolled hides.standard hides.hidden).1,
    (dispatch_shows hides'.handled hides'.rolled hides'.standard hides'.hidden).1,
    eq_of_beq three, eq_of_beq five]
  decide

end Engine

end Tabletop
