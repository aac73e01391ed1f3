/-
This file proves how a number that stands in the command itself is tested beside the same number on the card.

The card looks the whole name up before it takes a word for a difficulty off. A number in the command is always divided
by the difficulty with which its name begins.
-/

import Tabletop.Proofs.Card.Exact
import Tabletop.Proofs.Instant.Text
import Tabletop.Proofs.Roll.Tests

namespace Tabletop

open Number Step Text

/-! Digits -/

namespace Number

variable {number : Nat} {char : Char}

/-- A numeral is read back as the number that it was written for. -/
theorem readWord?_writeNat (fits : (number : Int) ≤ maxWord) : readWord? (writeNat number) = some (number : Int) := by
  have digits : readDigits? (writeNat number) = some number := by
    have all : (writeNat number).all Char.isDigit = true :=
      List.all_eq_true.2 fun _ member => isDigit_of_mem_writeNat member
    have some : (writeNat number).isEmpty = false := List.isEmpty_eq_false_iff.2 Nat.toDigits_ne_nil
    rw [readDigits?, all, some, if_pos (by rfl), natOfDigits_eq]
    exact congrArg Option.some Nat.ofDigitChars_ten_toDigits
  have word : isWord (number : Int) = true := isWord_iff.2 ⟨by unfold minWord; omega, fits⟩
  unfold readWord?
  split
  · next rest same =>
    exact absurd (isDigit_of_mem_writeNat (same ▸ List.mem_cons_self)) (by decide)
  · next rest same =>
    exact absurd (isDigit_of_mem_writeNat (same ▸ List.mem_cons_self)) (by decide)
  · rw [digits]
    exact (Option.filter_some ..).trans (if_pos word)

theorem isDecimal_of_isDigit (digit : char.isDigit = true) : isDecimal char = true := by
  have bounds := toNat_of_isDigit digit
  unfold isDecimal CodeRanges.contains
  rw [List.any_eq_true]
  refine ⟨(0x30, 0x39), List.mem_cons_self, ?_⟩
  simpa using bounds

end Number

namespace Difficulty

theorem divisor_pos (difficulty : Difficulty) : 0 < difficulty.divisor := by
  cases difficulty <;> decide

/-- Only a harder test lowers a number, and it lowers every positive one. -/
theorem tdiv_divisor_eq {number : Int} (natural : 0 ≤ number) (difficulty : Difficulty) :
    number.tdiv difficulty.divisor = number ↔ number = 0 ∨ difficulty = .normal := by
  rw [Int.tdiv_eq_ediv_of_nonneg natural]
  cases difficulty with
  | normal => simp [divisor]
  | hard =>
      simp only [divisor, reduceCtorEq, or_false]
      omega
  | extreme =>
      simp only [divisor, reduceCtorEq, or_false]
      omega

/-- The part of a natural number that a difficulty leaves fits if the number does. -/
theorem isWord_tdiv {number : Int} (natural : 0 ≤ number) (fits : number ≤ maxWord) (difficulty : Difficulty) :
    isWord (number.tdiv difficulty.divisor) = true := by
  have part := tdiv_between_self (Int.le_of_lt difficulty.divisor_pos) number
  exact isWord_iff.2 ⟨by unfold minWord; omega, by omega⟩

end Difficulty

/-- The value of an entry is its base value if the whole name stands on the card, and otherwise the part of it that the
difficulty leaves. -/
theorem CocCard.entryOf?_value {card : CocCard} {input : String} {entry : Entry}
    (stands : card.entryOf? input = some entry) :
    entry.value = if (card.plainEntryOf? input input).isSome then entry.baseValue
      else entry.baseValue.tdiv (Difficulty.split input.toList).1.divisor := by
  unfold entryOf? at stands
  split at stands
  · next whole found =>
    cases stands
    rw [found]
    exact Int.tdiv_one _
  · next absent =>
    rw [absent, if_neg (by decide)]
    split at stands
    · cases stands
    · next difficulty rest _ same =>
      obtain ⟨whole, _, rfl⟩ := Option.map_eq_some_iff.1 stands
      rw [same]
      rfl

namespace StandardRoll

variable {scene : Scene} {start after : StandardRoll} {faces rest : Faces} {name blanks : List Char}

/-! Descriptions of one skill -/

theorem isNamePart_of_isBlank {char : Char} (blank : isBlank char = true) : isNamePart char = false := by
  rw [isNamePart, blank]
  rfl

theorem isNamePart_of_isDigit {char : Char} (digit : char.isDigit = true) : isNamePart char = false := by
  rw [isNamePart, isDecimal_of_isDigit digit, Bool.or_true]
  rfl

/-- The mentions by the first character of the text. -/
theorem mentions_eq (text : List Char) : mentions text =
    match text with
    | [] => []
    | char :: rest =>
      if isNamePart char then (cutMention (char :: rest)).1 :: mentions (cutMention (char :: rest)).2
      else mentions rest := by
  fun_cases mentions text with
  | case1 => rfl
  | case2 char rest part => exact (if_pos part).symm
  | case3 char rest other => exact (if_neg other).symm

/-- The name of a mention is a run of the characters of names. -/
theorem isNamePart_of_mem_mentions {text : List Char} {mention : Mention} (member : mention ∈ mentions text) :
    ∀ char ∈ mention.name, isNamePart char = true := by
  fun_induction mentions text with
  | case1 => exact absurd member List.not_mem_nil
  | case2 char rest part inductionHypothesis =>
      rcases List.mem_cons.1 member with rfl | later
      · exact List.all_eq_true.1 List.all_takeWhile
      · exact inductionHypothesis later
  | case3 char rest other inductionHypothesis => exact inductionHypothesis member

/-- The description names one skill and nothing else. -/
def IsName (name : List Char) : Prop :=
  mentions name = [⟨name, [], []⟩]

instance (name : List Char) : Decidable (IsName name) :=
  inferInstanceAs (Decidable (_ = _))

theorem IsName.ne_nil (single : IsName name) : name ≠ [] := by
  rintro rfl
  rw [IsName, mentions_eq] at single
  cases single

theorem IsName.parts (single : IsName name) : ∀ char ∈ name, isNamePart char = true := by
  have member : (⟨name, [], []⟩ : Mention) ∈ mentions name := by
    rw [single]
    exact List.mem_singleton.2 rfl
  exact isNamePart_of_mem_mentions member

/-- A name is read up to the first character that cannot stand in it. -/
theorem IsName.mentions_append (single : IsName name) {behind : List Char}
    (stops : behind.takeWhile isNamePart = []) :
    mentions (name ++ behind) =
      ⟨name, (Notation.cutBonus (trimStart behind)).1,
        (trimStart (Notation.cutBonus (trimStart behind)).2).takeWhile isDecimal⟩ ::
      mentions ((trimStart (Notation.cutBonus (trimStart behind)).2).dropWhile isDecimal) := by
  have taken : (name ++ behind).takeWhile isNamePart = name := by
    rw [List.takeWhile_append_of_pos single.parts, stops, List.append_nil]
  have left : (name ++ behind).dropWhile isNamePart = behind := by
    have whole := List.takeWhile_append_dropWhile (p := isNamePart) (l := name ++ behind)
    rw [taken] at whole
    exact List.append_cancel_left whole
  obtain ⟨char, rest, same⟩ := List.exists_cons_of_ne_nil single.ne_nil
  have part : isNamePart char = true := single.parts char (same ▸ List.mem_cons_self)
  have opened : mentions (name ++ behind) =
      (cutMention (name ++ behind)).1 :: mentions (cutMention (name ++ behind)).2 := by
    rw [same, List.cons_append, mentions_eq]
    exact if_pos part
  simp only [opened, cutMention, taken, left]

/-- A numeral in front of the end is not cut as a number with a sign. -/
theorem cutBonus_writeNat (number : Nat) : Notation.cutBonus (writeNat number) = ([], writeNat number) := by
  unfold Notation.cutBonus
  split
  · next sign rest same =>
    have digit : sign.isDigit = true := isDigit_of_mem_writeNat (same ▸ List.mem_cons_self)
    have unsigned : (sign == '+' || sign == '-') = false := by
      rw [Bool.or_eq_false_iff, beq_eq_false_iff_ne, beq_eq_false_iff_ne]
      constructor
      · rintro rfl
        exact absurd digit (by decide)
      · rintro rfl
        exact absurd digit (by decide)
    simp only [unsigned, Bool.false_and, if_neg Bool.false_ne_true]
  · next same => rw [same]

/-- A numeral behind a name is read as its number, whatever blanks stand between them. -/
theorem IsName.mentions_number (single : IsName name) (blank : ∀ char ∈ blanks, isBlank char = true)
    (number : Nat) : mentions (name ++ (blanks ++ writeNat number)) = [⟨name, [], writeNat number⟩] := by
  have digit : ∀ char ∈ writeNat number, char.isDigit = true := fun _ => isDigit_of_mem_writeNat
  have trimmed : trimStart (writeNat number) = writeNat number := by
    have plain := Instant.trimStart_digits (Nat.toDigits_ne_nil : writeNat number ≠ []) digit []
    rwa [List.append_nil] at plain
  have skipped : trimStart (blanks ++ writeNat number) = writeNat number := by
    rw [trimStart, List.dropWhile_append_of_pos blank]
    exact trimmed
  have other : ∀ char ∈ blanks ++ writeNat number, isNamePart char = false := by
    refine List.forall_mem_append.2 ⟨fun char member => ?_, fun char member => ?_⟩
    · exact isNamePart_of_isBlank (blank char member)
    · exact isNamePart_of_isDigit (digit char member)
  have stops : (blanks ++ writeNat number).takeWhile isNamePart = [] := by
    cases same : blanks ++ writeNat number with
    | nil => rfl
    | cons first rest =>
        have none := other first (same ▸ List.mem_cons_self)
        exact List.takeWhile_cons_of_neg (by rw [none]; decide)
  have all : ∀ char ∈ writeNat number, isDecimal char = true :=
    fun char member => isDecimal_of_isDigit (digit char member)
  have read : (writeNat number).takeWhile isDecimal = writeNat number := List.takeWhile_eq_self_iff.2 all
  have done : (writeNat number).dropWhile isDecimal = [] := List.dropWhile_eq_nil_iff.2 all
  rw [single.mentions_append stops, skipped, cutBonus_writeNat, trimmed, read, done, mentions_eq]

/-! What the skill is tested against -/

/-- A numeral behind a name is tested in place of what the card has. -/
theorem Mention.entryOf?_writeNat {number : Nat} (fits : (number : Int) ≤ maxWord) (name : List Char)
    (card : Option Card) : (⟨name, [], writeNat number⟩ : Mention).entryOf? card .coc =
      some (.temporary (String.ofList name) number (Difficulty.split name).1) := by
  unfold Mention.entryOf? Mention.numberValue?
  rw [readWord?_writeNat fits]
  rfl

/-- The roll is made for the skills that a description names. -/
def MadeFor (scene : Scene) (description : List Char) (rolled : TestedRoll) : Prop :=
  ∃ state : RollState, state.cardKind = scene.cardKind ∧
    state.skills = skills description scene.card? scene.cardKind ∧ Makes scene state rolled

/-- What tells which tests a roll makes, and the rolls with them. -/
def asked (state : RollState) : String × CardKind × List Skill × List TestedRoll :=
  (state.description, state.cardKind, state.skills, state.rolls)

/-- Reading a command finds the skills that its description names. -/
theorem read_skills (told : read scene start faces = ((.ok (), after), rest)) :
    after.state.cardKind = scene.cardKind ∧
      after.state.skills = skills after.state.description.toList scene.card? scene.cardKind := by
  obtain ⟨_, _, _, looked, told⟩ := bind_ok told
  cases looked
  obtain ⟨_, _, _, expanded, told⟩ := bind_ok told
  cases told
  refine ⟨rfl, ?_⟩
  dsimp only
  rw [String.toList_ofList]

/-- If the hooks leave alone what is asked, every roll is made for the description that it tells. -/
theorem roll_madeFor (kept : scene.setup.HooksKeep asked)
    (done : roll scene start faces = ((.ok (), after), rest)) :
    ∀ rolled ∈ after.state.rolls, MadeFor scene after.state.description.toList rolled := by
  obtain ⟨told, _, worked, _, reading, work, written⟩ := roll_ok done
  obtain ⟨before, thrown, _, _, hooked, dice, changed, _⟩ := work_ok work
  cases hooked
  obtain ⟨rolls, rfl, makes⟩ := rollDice_made dice
  obtain ⟨kind, named⟩ := read_skills reading
  have same : after.state = worked.state :=
    (write_keeps (fun roll => roll.state = worked.state) fun _ _ _ held => held).after rfl written
  -- The hooks in front of the dice and those behind them keep the description, and the latter keep the rolls.
  have early := kept.fold .beforeDiceRoll told.state
  have late := kept.fold .afterDiceRoll
    { (scene.setup.diceRollHooks .beforeDiceRoll).foldl (fun state hook => hook state) told.state with rolls := rolls }
  rw [← changed, ← same] at late
  simp only [asked, Prod.mk.injEq] at early late
  obtain ⟨description, sameKind, sameSkills, _⟩ := early
  rw [late.2.2.2, late.1, description]
  intro rolled member
  exact ⟨_, sameKind.trans kind, sameSkills.trans named, makes rolled member⟩

/-- A name that is read as one skill of the one game system with difficulties has a single test. -/
theorem MadeFor.tests {card : CocCard} (held : scene.card? = some (.coc card)) {description : List Char}
    {mention : Mention} (single : mentions description = [mention]) {entry : Entry}
    (tested : mention.entryOf? (some (.coc card)) .coc = some entry) {rolled : TestedRoll}
    (made : MadeFor scene description rolled) : ∃ test, rolled.tests = [test] ∧ test.base = entry.baseValue ∧
      test.target = wrap (entry.value + mention.modifierValue) := by
  obtain ⟨state, kind, named, makes⟩ := made
  have coc : scene.cardKind = .coc := by
    rw [Scene.cardKind, held]
    rfl
  rw [coc] at kind named
  have one : state.skills = [⟨String.ofList mention.name, mention.modifierValue, mention.numberValue?, some entry⟩] := by
    rw [named, held, skills, single, List.filterMap_cons, Mention.skill?, tested]
    rfl
  cases makes with
  | once others _ =>
      rw [one]
      exact ⟨_, rfl, rfl, rfl⟩
  | skill dnd _ _ =>
      rw [kind] at dnd
      cases dnd

/-- The whole name stands on the card, although it begins with a word for a difficulty. -/
def HidesDifficulty (card : CocCard) (name : List Char) : Prop :=
  (card.plainEntryOf? (String.ofList name) (String.ofList name)).isSome ∧ (Difficulty.split name).1 ≠ .normal

instance (card : CocCard) (name : List Char) : Decidable (HidesDifficulty card name) :=
  inferInstanceAs (Decidable (_ ∧ _))

/-- Without hooks nothing changes the state of a roll. -/
theorem stage_keeps {α : Type} (card : Card) (part : RollState → α) : (stage card).setup.HooksKeep part := by
  intro kind hook member
  rw [stage_unhooked] at member
  cases member

/-- A card with some training in one skill, and in another one whose name begins like a harder test. -/
def athlete : CocCard :=
  { CocCard.new "A" .epoch with skills := .ofPairs [("侦查", 40), ("极限运动", 50)] }

theorem stage_athlete : (stage (.coc athlete)).card? = some (.coc athlete) := by
  decide +kernel

end StandardRoll

end Tabletop
