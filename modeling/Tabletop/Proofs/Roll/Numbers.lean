/-
This file proves as which numbers the digits in the command of a standard roll count.

The patterns let digits of all scripts and all white space through, and runs of any length. What reads the numbers
knows ASCII digits, takes only spaces away, and has numbers of limited size. What it cannot read counts as one
repetition, as no modifier and as no value.
-/

import Tabletop.Proofs.Roll.Mentions

namespace Tabletop

open Number Step Text

/-! Reading digits -/

namespace Number

variable {digits : List Char} {sign : Char}

/-- The digits are ASCII ones. -/
def IsPlain (digits : List Char) : Prop :=
  ∀ char ∈ digits, char.isDigit = true

instance (digits : List Char) : Decidable (IsPlain digits) :=
  decidable_of_iff (digits.all Char.isDigit = true) List.all_eq_true

/-- A number with its sign. -/
def withSign (sign : Char) (number : Nat) : Int :=
  if sign = '-' then -(number : Int) else number

theorem readDigits?_eq (some : digits ≠ []) :
    readDigits? digits = if IsPlain digits then Option.some (natOfDigits digits) else none := by
  have asked : (!digits.isEmpty && digits.all Char.isDigit) = true ↔ IsPlain digits := by
    rw [List.isEmpty_eq_false_iff.2 some, Bool.not_false, Bool.true_and, List.all_eq_true, IsPlain]
  exact if_congr asked rfl rfl

theorem filter_readDigits? (some : digits ≠ []) (sign : Char) :
    ((readDigits? digits).map (withSign sign)).filter isWord =
      if IsPlain digits ∧ isWord (withSign sign (natOfDigits digits)) = true then
        Option.some (withSign sign (natOfDigits digits)) else none := by
  rw [readDigits?_eq some]
  by_cases plain : IsPlain digits
  · rw [if_pos plain, Option.map_some, Option.filter_some]
    simp only [plain, true_and]
  · rw [if_neg plain, if_neg fun read => plain read.1]
    rfl

theorem readWord?_signed (isSign : sign ∈ ['+', '-']) (some : digits ≠ []) :
    readWord? (sign :: digits) = if IsPlain digits ∧ isWord (withSign sign (natOfDigits digits)) = true then
      Option.some (withSign sign (natOfDigits digits)) else none := by
  rw [← filter_readDigits? some]
  simp only [List.mem_cons, List.not_mem_nil, or_false] at isSign
  rcases isSign with rfl | rfl
  · simp only [readWord?]
    cases readDigits? digits <;> rfl
  · simp only [readWord?]
    cases readDigits? digits <;> rfl

theorem readWord?_decimal (some : digits ≠ []) (decimal : ∀ char ∈ digits, isDecimal char = true) :
    readWord? digits = if IsPlain digits ∧ (natOfDigits digits : Int) ≤ maxWord then
      Option.some (natOfDigits digits : Int) else none := by
  have natural : isWord (withSign '+' (natOfDigits digits)) = true ↔ (natOfDigits digits : Int) ≤ maxWord := by
    have unsigned : withSign '+' (natOfDigits digits) = natOfDigits digits := rfl
    rw [isWord_iff, unsigned]
    unfold minWord
    omega
  have read := filter_readDigits? some '+'
  simp only [natural] at read
  refine Eq.trans ?_ read
  unfold readWord?
  split
  · exact absurd (decimal '-' List.mem_cons_self) (by decide)
  · exact absurd (decimal '+' List.mem_cons_self) (by decide)
  · cases readDigits? digits <;> rfl

theorem readBelow?_decimal (some : digits ≠ []) (decimal : ∀ char ∈ digits, isDecimal char = true) (bound : Nat) :
    readBelow? bound digits = if IsPlain digits ∧ natOfDigits digits < bound then
      Option.some (natOfDigits digits) else none := by
  unfold readBelow?
  split
  · exact absurd (decimal '+' List.mem_cons_self) (by decide)
  · dsimp only
    rw [readDigits?_eq some]
    by_cases plain : IsPlain digits
    · rw [if_pos plain, Option.filter_some]
      simp only [plain, true_and, decide_eq_true_eq]
    · rw [if_neg plain, if_neg fun read => plain read.1]
      rfl

end Number

namespace StandardRoll

variable {scene : Scene} {start after told : StandardRoll} {faces rest left : Faces} {text : List Char}

/-! Repetitions -/

/-- How often a text asks to roll. The number in front of its number sign counts as one if it cannot be read. -/
structure Repeats (text : List Char) (times : Nat) : Prop where
  read {digits : List Char} (numbered : IsNumbered text digits) (plain : IsPlain digits)
    (fits : natOfDigits digits < countRange) : times = max 1 (min (natOfDigits digits) maxTimes)
  lost {digits : List Char} (numbered : IsNumbered text digits)
    (unread : ¬(IsPlain digits ∧ natOfDigits digits < countRange)) : times = 1
  once (unnumbered : ∀ digits, ¬IsNumbered text digits) : times = 1

theorem repeats_splitTimes (text : List Char) : Repeats text (splitTimes text).1 where
  read numbered plain fits := by
    rw [splitTimes_numbered numbered, timesOf, readBelow?_decimal numbered.some numbered.decimal,
      if_pos ⟨plain, fits⟩]
    rfl
  lost numbered unread := by
    rw [splitTimes_numbered numbered, timesOf, readBelow?_decimal numbered.some numbered.decimal, if_neg unread]
    rfl
  once := splitTimes_plain

/-- A text asks for one number of rolls. -/
theorem repeats_iff {times : Nat} : Repeats text times ↔ times = (splitTimes text).1 := by
  refine ⟨fun repeats => ?_, fun same => same ▸ repeats_splitTimes text⟩
  have split := repeats_splitTimes text
  by_cases found : ∃ digits, IsNumbered text digits
  · obtain ⟨digits, numbered⟩ := found
    by_cases read : IsPlain digits ∧ natOfDigits digits < countRange
    · rw [repeats.read numbered read.1 read.2, split.read numbered read.1 read.2]
    · rw [repeats.lost numbered read, split.lost numbered read]
  · have unnumbered := not_exists.1 found
    rw [repeats.once unnumbered, split.once unnumbered]

theorem splitTimes_bounds (text : List Char) : 1 ≤ (splitTimes text).1 ∧ (splitTimes text).1 ≤ maxTimes := by
  have least : 1 ≤ maxTimes := by decide
  unfold splitTimes
  dsimp only
  split
  · exact ⟨Nat.le_max_left .., Nat.max_le.2 ⟨least, Nat.min_le_right ..⟩⟩
  · exact ⟨Nat.le_refl 1, least⟩

/-! Modifiers and values -/

/-- A modifier is read if at most spaces stand behind its sign, its digits are ASCII ones and its number fits. -/
structure IsLegible (sign : Char) (blanks digits : List Char) : Prop where
  spaces : ∀ char ∈ blanks, char = ' '
  plain : IsPlain digits
  fits : isWord (withSign sign (natOfDigits digits)) = true

/-- A skill is what a mention counts as. A modifier that cannot be read counts as zero, and a number that cannot be
read as none. -/
structure ReadsAs (card : Option Card) (kind : CardKind) (mention : Mention) (skill : Skill) : Prop where
  name : skill.name = String.ofList mention.name
  modified {sign : Char} {blanks digits : List Char} (isSigned : IsSigned mention.modifier sign blanks digits)
    (legible : IsLegible sign blanks digits) : skill.modifier = withSign sign (natOfDigits digits)
  modifierLost {sign : Char} {blanks digits : List Char} (isSigned : IsSigned mention.modifier sign blanks digits)
    (illegible : ¬IsLegible sign blanks digits) : skill.modifier = 0
  unmodified (unsigned : mention.modifier = []) : skill.modifier = 0
  numbered (some : mention.number ≠ []) (plain : IsPlain mention.number)
    (fits : (natOfDigits mention.number : Int) ≤ maxWord) : skill.number = Option.some ↑(natOfDigits mention.number)
  numberLost (some : mention.number ≠ [])
    (unread : ¬(IsPlain mention.number ∧ (natOfDigits mention.number : Int) ≤ maxWord)) : skill.number = none
  unnumbered (unsigned : mention.number = []) : skill.number = none
  inline {value : Int} (number : skill.number = some value) (others : kind ≠ .dnd) :
    skill.entry = some (.temporary skill.name value (Difficulty.split mention.name).1)
  stored (other : skill.number = none ∨ kind = .dnd) : skill.entry = card.bind (·.entryOf? skill.name)

namespace Mention

variable {mention : Mention} {sign : Char} {blanks digits : List Char}

/-- Only spaces are taken out of a modifier. -/
theorem modifierValue_signed (isSigned : IsSigned mention.modifier sign blanks digits) :
    mention.modifierValue = (readWord? (sign :: (blanks.filter (· != ' ') ++ digits))).getD 0 := by
  have visible : ∀ char ∈ digits, (char != ' ') = true := by
    intro char member
    rw [bne_iff_ne]
    rintro rfl
    exact absurd (isSigned.decimal ' ' member) (by decide)
  rw [modifierValue, isSigned.spelled, List.filter_cons_of_pos, List.filter_append, List.filter_eq_self.2 visible]
  rw [bne_iff_ne]
  rintro rfl
  exact absurd isSigned.isSign (by decide)

theorem filter_spaces (spaces : ∀ char ∈ blanks, char = ' ') : blanks.filter (· != ' ') = [] := by
  refine List.filter_eq_nil_iff.2 fun char member => ?_
  rw [spaces char member]
  decide

theorem modifierValue_legible (isSigned : IsSigned mention.modifier sign blanks digits)
    (legible : IsLegible sign blanks digits) : mention.modifierValue = withSign sign (natOfDigits digits) := by
  rw [modifierValue_signed isSigned, filter_spaces legible.spaces, List.nil_append,
    readWord?_signed isSigned.isSign isSigned.some, if_pos ⟨legible.plain, legible.fits⟩]
  rfl

theorem modifierValue_illegible (isSigned : IsSigned mention.modifier sign blanks digits)
    (illegible : ¬IsLegible sign blanks digits) : mention.modifierValue = 0 := by
  rw [modifierValue_signed isSigned,
    readWord?_signed isSigned.isSign (List.append_ne_nil_of_right_ne_nil _ isSigned.some), if_neg]
  · rfl
  rintro ⟨plain, fits⟩
  obtain ⟨left, right⟩ := List.forall_mem_append.1 plain
  -- No white space is a digit, so all of it was taken out.
  have spaces : ∀ char ∈ blanks, char = ' ' := by
    intro char member
    by_contra other
    have visible := Instant.isBlank_of_isDigit (left char (List.mem_filter.2 ⟨member, bne_iff_ne.2 other⟩))
    rw [isSigned.blank char member] at visible
    cases visible
  rw [filter_spaces spaces, List.nil_append] at fits
  exact illegible ⟨spaces, right, fits⟩

/-- The skill that a mention counts as, be there something to test or not. -/
def reading (mention : Mention) (card : Option Card) (kind : CardKind) : Skill :=
  ⟨String.ofList mention.name, mention.modifierValue, mention.numberValue?, mention.entryOf? card kind⟩

/-- There is something to test. -/
def testable (kind : CardKind) (skill : Skill) : Bool :=
  skill.entry.isSome || (kind == .dnd && skill.number.isSome)

theorem entryOf?_others {kind : CardKind} (others : kind ≠ .dnd) (card : Option Card) :
    mention.entryOf? card kind = (mention.numberValue?.map fun value =>
      Entry.temporary (String.ofList mention.name) value (Difficulty.split mention.name).1).or
        (card.bind (·.entryOf? (String.ofList mention.name))) := by
  cases kind with
  | dnd => exact absurd rfl others
  | coc => rfl
  | general => rfl

theorem readsAs_reading (decimal : ∀ char ∈ mention.number, isDecimal char = true) (card : Option Card)
    (kind : CardKind) : ReadsAs card kind mention (mention.reading card kind) where
  name := rfl
  modified := modifierValue_legible
  modifierLost := modifierValue_illegible
  unmodified unsigned := by
    rw [reading, modifierValue, unsigned]
    rfl
  numbered some plain fits := (readWord?_decimal some decimal).trans (if_pos ⟨plain, fits⟩)
  numberLost some unread := (readWord?_decimal some decimal).trans (if_neg unread)
  unnumbered none := by
    rw [reading, numberValue?, none]
    rfl
  inline {value} number others := by
    have read : mention.numberValue? = some value := number
    rw [reading, entryOf?_others others, read]
    rfl
  stored other := by
    by_cases dnd : kind = .dnd
    · rw [dnd]
      rfl
    · have read : mention.numberValue? = none := other.resolve_right dnd
      rw [reading, entryOf?_others dnd, read]
      rfl

end Mention

/-- The skills of a description are the mentions in it for which there is something to test. -/
theorem skills_eq (description : List Char) (card : Option Card) (kind : CardKind) :
    skills description card kind = ((mentions description).map (·.reading card kind)).filter (Mention.testable kind) := by
  rw [← List.filterMap_eq_filter, List.filterMap_map]
  rfl

/-- What stands behind a name is the run of digits that the pattern found. -/
theorem Finds.decimal {found : List Mention} (finds : Finds text found) :
    ∀ mention ∈ found, ∀ char ∈ mention.number, isDecimal char = true := by
  induction finds with
  | done => exact fun mention member => absurd member List.not_mem_nil
  | skip _ _ inductionHypothesis => exact inductionHypothesis
  | found cuts _ inductionHypothesis =>
      refine List.forall_mem_cons.2 ⟨?_, inductionHypothesis⟩
      cases cuts with
      | mention _ _ _ _ _ numbered => exact numbered.all

/-! How often is rolled -/

/-- A step that does not fail makes so many rolls. -/
def Adds (count : Nat) (step : Rolling Unit) : Prop :=
  ∀ start after faces rest, step start faces = ((.ok (), after), rest) →
    after.state.rolls.length = start.state.rolls.length + count

theorem adds_addRoll (rolled : TestedRoll) : Adds 1 (addRoll rolled) := by
  intro start after faces rest done
  cases done
  exact List.length_append

/-- Throwing the dice makes no roll yet. -/
theorem adds_rolled {expression : String} {next : Notation.Result → Rolling Unit} {count : Nat}
    (later : ∀ result, Adds count (next result)) : Adds count (Step.dice expression .random >>= next) := by
  intro start after faces rest done
  obtain ⟨result, between, left, thrown, done⟩ := bind_ok done
  obtain rfl : start = between := congrArg (·.1.2) thrown
  exact later result _ _ _ _ done

theorem Adds.next {first second : Rolling Unit} {count more : Nat} (adds : Adds count first)
    (later : Adds more second) : Adds (count + more) (first >>= fun _ => second) := by
  intro start after faces rest done
  obtain ⟨_, between, left, made, done⟩ := bind_ok done
  rw [later _ _ _ _ done, adds _ _ _ _ made, Nat.add_assoc]

theorem adds_forM {items : List Skill} {step : Skill → Rolling Unit} (adds : ∀ item, Adds 1 (step item)) :
    Adds items.length (items.forM step) := by
  induction items with
  | nil =>
      intro start after faces rest done
      cases done
      rfl
  | cons item items inductionHypothesis =>
      rw [List.forM_eq_forM, List.forM_cons, List.length_cons, Nat.add_comm]
      exact (adds item).next inductionHypothesis

theorem adds_repeated {step : Rolling Unit} {count : Nat} (adds : Adds count step) (times : Nat) :
    Adds (times * count) (repeated step times) := by
  induction times with
  | zero =>
      intro start after faces rest done
      cases done
      rw [Nat.zero_mul]
      rfl
  | succ times inductionHypothesis =>
      rw [Nat.succ_mul, Nat.add_comm]
      exact adds.next inductionHypothesis

/-- How many rolls one repetition makes. -/
def perTime (state : RollState) : Nat :=
  if state.cardKind = .dnd ∧ state.skills ≠ [] then state.skills.length else 1

theorem rollDice_length (done : rollDice scene start faces = ((.ok (), after), rest)) :
    after.state.rolls.length = max 1 (min start.state.times maxTimes) * perTime start.state := by
  obtain ⟨_, _, _, modified, done⟩ := bind_ok done
  cases modified
  obtain ⟨_, _, _, looked, done⟩ := bind_ok done
  cases looked
  dsimp only at done
  unfold perTime
  split at done
  · next dnd =>
    have each (skill : Skill) : Adds 1 (rollSkill scene start.state.expression skill) :=
      adds_rolled fun _ => adds_addRoll _
    rw [if_pos dnd, adds_repeated (adds_forM each) _ _ _ _ _ done]
    exact Nat.zero_add _
  · next others =>
    have once : Adds 1 (rollOnce scene { start.state with rolls := [] }) := adds_rolled fun _ => adds_addRoll _
    rw [if_neg others, adds_repeated once _ _ _ _ _ done]
    exact Nat.zero_add _

/-! Commands -/

/-- What the numbers in a command tell, and the rolls that follow from it. -/
def requested (state : RollState) : Nat × CardKind × List Skill × List TestedRoll :=
  (state.times, state.cardKind, state.skills, state.rolls)

theorem read_times (reading : read scene start faces = ((.ok (), told), left)) :
    told.state.times = (splitTimes (splitFlags (trim start.source.toList)).2).1 := by
  obtain ⟨_, _, _, looked, reading⟩ := bind_ok reading
  cases looked
  obtain ⟨_, _, _, _, stored⟩ := bind_ok reading
  cases stored
  rfl

/-- If the hooks leave alone what is requested, that is what is rolled. -/
theorem roll_requested (kept : scene.setup.HooksKeep requested)
    (reading : read scene start faces = ((.ok (), told), left))
    (done : roll scene start faces = ((.ok (), after), rest)) :
    after.state.rolls.length = told.state.times * perTime told.state ∧
      ∀ rolled ∈ after.state.rolls, ∃ state : RollState, state.cardKind = told.state.cardKind ∧
        state.skills = told.state.skills ∧ Makes scene state rolled := by
  obtain ⟨again, _, worked, _, first, work, written⟩ := roll_ok done
  obtain rfl : again = told := congrArg (·.1.2) (first.symm.trans reading)
  obtain ⟨before, thrown, _, _, hooked, dice, changed, _⟩ := work_ok work
  cases hooked
  have length := rollDice_length dice
  obtain ⟨rolls, rfl, makes⟩ := rollDice_made dice
  have unwritten : after.state = worked.state :=
    (write_keeps (fun roll => roll.state = worked.state) fun _ _ _ held => held).after rfl written
  -- The hooks in front of the dice keep the request, and those behind them keep the rolls.
  have early := kept.fold .beforeDiceRoll again.state
  have late := kept.fold .afterDiceRoll
    { (scene.setup.diceRollHooks .beforeDiceRoll).foldl (fun state hook => hook state) again.state with rolls := rolls }
  rw [← changed, ← unwritten] at late
  simp only [requested, Prod.mk.injEq] at early late
  obtain ⟨sameTimes, sameKind, sameSkills, _⟩ := early
  have bounds := splitTimes_bounds (splitFlags (trim start.source.toList)).2
  rw [← read_times reading] at bounds
  have clamped : max 1 (min again.state.times maxTimes) = again.state.times := by omega
  dsimp only at length
  rw [late.2.2.2]
  refine ⟨?_, fun rolled member => ⟨_, sameKind, sameSkills, makes rolled member⟩⟩
  rw [length, sameTimes, clamped, perTime, perTime, sameKind, sameSkills]

end StandardRoll

end Tabletop
