/-
This file proves when the references of a template lead to an end.

A reference to an ability leads to the references in its expression, and so on. An expansion has room for so many
abilities one behind the other. It fails if more of them follow one another, as they do round every cycle. Otherwise
only dice notation can make it fail.
-/

import Mathlib.Logic.Relation
import Tabletop.Proofs.Card.ReadBack
import Tabletop.Proofs.Step
import Tabletop.Template

namespace Tabletop

open Step

/-! Abilities -/

/-- Two abilities of a card are the same one, perhaps under different names. What is calculated may share its key with
what is stored. -/
def Ability.IsSame (first second : Ability) : Prop :=
  first.key = second.key ∧ first.isReadonly = second.isReadonly

namespace Card

variable {card : Card} {name other : String} {ability same : Ability}

/-- An ability is stored on the card, or it follows from the characteristics. -/
theorem ability?_source (found : card.ability? name = some ability) :
    (ability.isReadonly = false ∧ card.core.abilities[ability.key]? = some ability.expression) ∨
      ability.isReadonly = true ∧
        ∃ investigator : CocCard, card = .coc investigator ∧
          investigator.bulk?.map CocCard.damageBonusOf = some ability.expression := by
  have stored {core : CardCore} (found : core.ability? name = some ability) :
      ability.isReadonly = false ∧ core.abilities[ability.key]? = some ability.expression := by
    obtain ⟨⟨key, expression⟩, kept, rfl⟩ := Option.map_eq_some_iff.1 found
    exact ⟨rfl, (Table.lookup?_eq_some kept).1⟩
  cases card with
  | general card => exact .inl (stored found)
  | dnd card => exact .inl (stored found)
  | coc card =>
      change card.ability? name = some ability at found
      unfold CocCard.ability? at found
      split at found
      · next kept =>
        cases found
        exact .inl (stored kept)
      · split at found
        · obtain ⟨bulk, known, rfl⟩ := Option.map_eq_some_iff.1 found
          exact .inr ⟨rfl, card, rfl, by rw [known]; rfl⟩
        · cases found

/-- The same ability has one expression, whatever name it is asked for by. -/
theorem expression_eq (found : card.ability? name = some ability) (again : card.ability? other = some same)
    (isSame : same.IsSame ability) : same.expression = ability.expression := by
  obtain ⟨key, readonly⟩ := isSame
  rcases ability?_source found with ⟨stored, kept⟩ | ⟨calculated, investigator, rfl, follows⟩
  · rcases ability?_source again with ⟨_, keptToo⟩ | ⟨calculated, _⟩
    · rw [key, kept] at keptToo
      exact (Option.some.inj keptToo).symm
    · rw [calculated, stored] at readonly
      cases readonly
  · rcases ability?_source again with ⟨stored, _⟩ | ⟨_, _, sameCard, followsToo⟩
    · rw [stored, calculated] at readonly
      cases readonly
    · cases sameCard
      rw [follows] at followsToo
      exact (Option.some.inj followsToo).symm

end Card

namespace Template

variable {card : Card} {text : List Char} {ability : Ability} {room : Nat}

/-! Chains of references -/

/-- The ability of a card that a part of a template stands for. -/
def abilityOf? (card : Card) : Piece → Option Ability
  | .char _ => none
  | .reference reference => card.ability? (String.ofList reference.name)

/-- The abilities to which a text refers. -/
def abilitiesIn (card : Card) (text : List Char) : List Ability :=
  (pieces text).filterMap (abilityOf? card)

theorem mem_abilitiesIn : ability ∈ abilitiesIn card text ↔
    ∃ reference, .reference reference ∈ pieces text ∧ card.ability? (String.ofList reference.name) = some ability := by
  unfold abilitiesIn
  rw [List.mem_filterMap]
  constructor
  · rintro ⟨_ | reference, member, found⟩
    · cases found
    · exact ⟨reference, member, found⟩
  · rintro ⟨reference, member, found⟩
    exact ⟨.reference reference, member, found⟩

/-- The expression of the one ability refers to the other one. -/
def LeadsTo (card : Card) (first second : Ability) : Prop :=
  second ∈ abilitiesIn card first.expression.toList

/-- Through references in expressions the ability leads to itself again. -/
def IsCyclic (card : Card) (ability : Ability) : Prop :=
  ∃ again, Relation.TransGen (LeadsTo card) ability again ∧ again.IsSame ability

/-- The text refers to the first of these abilities, and each of them leads to the next one. -/
inductive Chain (card : Card) : List Char → List Ability → Prop where
  | nil {text : List Char} : Chain card text []
  | cons {text : List Char} {ability : Ability} {others : List Ability} (refers : ability ∈ abilitiesIn card text)
      (chain : Chain card ability.expression.toList others) : Chain card text (ability :: others)

/-- Behind an ability on a cycle comes another one. -/
theorem IsCyclic.next (cyclic : IsCyclic card ability) (refers : ability ∈ abilitiesIn card text) :
    ∃ next, LeadsTo card ability next ∧ IsCyclic card next := by
  obtain ⟨again, path, same⟩ := cyclic
  obtain ⟨_, _, found⟩ := mem_abilitiesIn.1 refers
  -- The last step of the path finds the ability again, so what it leads to comes behind this one as well.
  have returns {next : Ability} (leads : LeadsTo card ability next) : LeadsTo card again next := by
    obtain ⟨before, _, last⟩ := Relation.TransGen.tail'_iff.1 path
    obtain ⟨_, _, foundAgain⟩ := mem_abilitiesIn.1 last
    unfold LeadsTo at leads ⊢
    rwa [Card.expression_eq found foundAgain same]
  obtain ⟨next, leads, further⟩ := Relation.TransGen.head'_iff.1 path
  refine ⟨next, leads, next, ?_, rfl, rfl⟩
  exact Relation.TransGen.tail' further (returns leads)

/-- A cycle can be followed for as long as one likes. -/
theorem IsCyclic.exists_chain (cyclic : IsCyclic card ability) (refers : ability ∈ abilitiesIn card text)
    (length : Nat) : ∃ abilities, Chain card text abilities ∧ abilities.length = length := by
  induction length generalizing text ability with
  | zero => exact ⟨[], .nil, rfl⟩
  | succ length inductionHypothesis =>
      obtain ⟨next, leads, cyclicToo⟩ := cyclic.next refers
      obtain ⟨others, chain, long⟩ := inductionHypothesis cyclicToo leads
      exact ⟨ability :: others, .cons refers chain, congrArg (· + 1) long⟩

/-! Expansions that fail -/

/-- A template cannot be expanded if the expression of one of its abilities cannot. -/
theorem expandPieces_fails {inner : List Char → Expanding (List Char)} {pieces : List Piece} {reference : Reference}
    (member : .reference reference ∈ pieces) (found : card.ability? (String.ofList reference.name) = some ability)
    (fails : Fails (inner ability.expression.toList)) : Fails (expandPieces inner card pieces) := by
  induction pieces with
  | nil => cases member
  | cons piece rest inductionHypothesis =>
      rcases List.mem_cons.1 member with rfl | behind
      · refine Fails.bind ?_ _
        unfold expandReference
        dsimp only
        rw [found]
        exact fails.bind _
      · cases piece with
        | char char => exact (inductionHypothesis behind).bind _
        | reference reference => exact fails_behind _ fun _ => (inductionHypothesis behind).bind _

/-- An expansion fails if as many abilities follow one another as it has room for. The induction is on the room. -/
theorem Chain.fails {abilities : List Ability} (chain : Chain card text abilities) (long : room ≤ abilities.length) :
    Fails (expandWithin (some card) room text) := by
  induction room generalizing text abilities with
  | zero => exact fails_throw _
  | succ room inductionHypothesis =>
      cases chain with
      | nil => cases long
      | cons refers chain =>
          obtain ⟨reference, member, found⟩ := mem_abilitiesIn.1 refers
          exact (expandPieces_fails member found (inductionHypothesis chain (Nat.le_of_succ_le_succ long))).bind _

/-! Expansions that come to an end -/

/-- The error is one of dice notation. -/
def IsOfDice (error : Error) : Prop :=
  ∃ reason, error = .dice reason

theorem rollGroups_failsOnly (fuel : Nat) (totals : List Int) (text : List Char) :
    FailsOnly IsOfDice (rollGroups fuel totals text) := by
  induction fuel generalizing totals text with
  | zero => exact failsOnly_pure _
  | succ fuel inductionHypothesis =>
      unfold rollGroups
      split
      · exact failsOnly_pure _
      · refine (failsOnly_dice (fun reason => ⟨reason, rfl⟩) _ _).bind fun result => ?_
        exact (failsOnly_modify _).bind fun _ => inductionHypothesis _ _

theorem expandPieces_failsOnly {inner : List Char → Expanding (List Char)} {pieces : List Piece}
    (only : ∀ reference ability, .reference reference ∈ pieces →
      card.ability? (String.ofList reference.name) = some ability →
        FailsOnly IsOfDice (inner ability.expression.toList)) :
    FailsOnly IsOfDice (expandPieces inner card pieces) := by
  induction pieces with
  | nil => exact failsOnly_pure _
  | cons piece rest inductionHypothesis =>
      have others := inductionHypothesis fun reference ability member => only reference ability (.tail _ member)
      cases piece with
      | char char => exact others.bind fun _ => failsOnly_pure _
      | reference reference =>
          refine FailsOnly.bind ?_ fun _ => others.bind fun _ => failsOnly_pure _
          unfold expandReference
          dsimp only
          split
          · next ability found =>
            refine (only reference ability (.head _) found).bind fun expression => ?_
            refine (failsOnly_dice (fun reason => ⟨reason, rfl⟩) _ _).bind fun result => ?_
            exact (failsOnly_modify _).bind fun _ => failsOnly_pure _
          · split
            · exact failsOnly_pure _
            · exact failsOnly_pure _

/-- Only dice notation makes an expansion fail that has room for all abilities that follow one another. The induction is
on the room. -/
theorem expandWithin_failsOnly (short : ∀ abilities, Chain card text abilities → abilities.length < room) :
    FailsOnly IsOfDice (expandWithin (some card) room text) := by
  induction room generalizing text with
  | zero => exact absurd (short [] .nil) (Nat.lt_irrefl 0)
  | succ room inductionHypothesis =>
      refine FailsOnly.bind (expandPieces_failsOnly fun reference ability member found => ?_) fun expanded =>
        (rollGroups_failsOnly _ _ _).bind fun _ => failsOnly_pure _
      refine inductionHypothesis fun abilities chain => ?_
      exact Nat.lt_of_succ_lt_succ (short _ (.cons (mem_abilitiesIn.2 ⟨reference, member, found⟩) chain))

/-- A text that refers to an ability on a cycle cannot be expanded at any depth. At the top no expansion goes too deep
if no more than 99 abilities follow one another, which leaves no room for a cycle. -/
theorem expand_cyclic (card : Card) (text : List Char) :
    (∀ ability ∈ abilitiesIn card text, IsCyclic card ability → ∀ depth history faces,
      ∃ error, (expandWithin (some card) (maxDepth + 1 - depth) text history faces).1.1 = .error error) ∧
    ((∀ abilities, Chain card text abilities → abilities.length ≤ 99) → ∀ history faces deepest,
      (expand (some card) text history faces).1.1 ≠ .error (.tooDeep deepest)) := by
  constructor
  · intro ability refers cyclic depth history faces
    obtain ⟨abilities, chain, long⟩ := cyclic.exists_chain refers (maxDepth + 1 - depth)
    exact chain.fails long.ge history faces
  · intro short history faces deepest failed
    have room (abilities : List Ability) (chain : Chain card text abilities) : abilities.length < maxDepth + 1 :=
      Nat.lt_succ_of_le (short abilities chain)
    obtain ⟨reason, same⟩ := expandWithin_failsOnly room history faces _ failed
    cases same

/-- A loop through names in another case and without a total, and an expression with the damage bonus. -/
theorem expand_cyclic_loop :
    let abilities := [("a", "$B+1"), ("b", "[[d6]]+$\x7b!A\x7d"), ("fist", "1d3+$db")]
    let core := { CardCore.new "A" .epoch with abilities := .ofPairs abilities }
    let card := Card.coc { CocCard.new "A" .epoch with core, props := .ofPairs [("力量", 60), ("体型", 70)] }
    (∃ ability ∈ abilitiesIn card "7+$A".toList, IsCyclic card ability ∧ ∀ depth history faces,
      ∃ error, (expandWithin (some card) (maxDepth + 1 - depth) "7+$A".toList history faces).1.1 = .error error) ∧
    (∀ abilities, Chain card "$fist".toList abilities → abilities.length ≤ 99) ∧ ∀ history faces deepest,
      (expand (some card) "$fist".toList history faces).1.1 ≠ .error (.tooDeep deepest) := by
  intro abilities core card
  let a : Ability := ⟨"A", "a", "$B+1", false⟩
  let b : Ability := ⟨"B", "b", "[[d6]]+$\x7b!A\x7d", false⟩
  let fist : Ability := ⟨"fist", "fist", "1d3+$db", false⟩
  let bonus : Ability := ⟨"db", "伤害加值", "1d4", true⟩
  have first : abilitiesIn card "7+$A".toList = [a] := by decide +kernel
  have second : abilitiesIn card "$B+1".toList = [b] := by decide +kernel
  have third : abilitiesIn card "[[d6]]+$\x7b!A\x7d".toList = [a] := by decide +kernel
  have refers : a ∈ abilitiesIn card "7+$A".toList := first ▸ List.mem_singleton_self _
  have leads : b ∈ abilitiesIn card "$B+1".toList := second ▸ List.mem_singleton_self _
  have back : a ∈ abilitiesIn card "[[d6]]+$\x7b!A\x7d".toList := third ▸ List.mem_singleton_self _
  have cyclic : IsCyclic card a := ⟨a, .tail (.single leads) back, rfl, rfl⟩
  have strike : abilitiesIn card "$fist".toList = [fist] := by decide +kernel
  have strength : abilitiesIn card "1d3+$db".toList = [bonus] := by decide +kernel
  have none : abilitiesIn card "1d4".toList = [] := by decide +kernel
  have short : ∀ abilities, Chain card "$fist".toList abilities → abilities.length ≤ 99 := by
    intro abilities chain
    cases chain with
    | nil => decide
    | cons refers chain =>
        obtain rfl := List.mem_singleton.1 (strike ▸ refers)
        cases chain with
        | nil => decide
        | cons refers chain =>
            obtain rfl := List.mem_singleton.1 (strength ▸ refers)
            cases chain with
            | nil => decide
            | cons refers chain => exact absurd (none ▸ refers) List.not_mem_nil
  have fails := (expand_cyclic card "7+$A".toList).1 a refers cyclic
  exact ⟨⟨a, refers, cyclic, fails⟩, short, (expand_cyclic card "$fist".toList).2 short⟩

end Template

end Tabletop
