/-
This file proves for which cards that commands and death saving throws made the rows of the summary are right.

Commands take no blanks into the keys of entries, but they take them into the names and expressions of abilities.
-/

import Tabletop.Proofs.Card.Listing
import Tabletop.Proofs.Card.Shifts
import Tabletop.Proofs.Roll.Preview
import Tabletop.Proofs.Roll.Writes

namespace Tabletop

open Step Text Number

/-! Keys without blanks -/

namespace Card

/-- An entry of the card stands under the key. -/
def HasKey : Card → String → Prop
  | .general card, key => key ∈ card.skills
  | .coc card, key => ∃ part, key ∈ card.part part
  | .dnd card, key => ∃ part, key ∈ card.part part

/-- No key of an entry has blanks. -/
def SolidKeys (card : Card) : Prop :=
  ∀ key, card.HasKey key → Solid key.toList

end Card

theorem Synonyms.keyOf_solid {synonyms : Synonyms} (targets : ∀ pair ∈ synonyms, Solid pair.2.toList)
    {input : String} (solid : Solid input.toList) : Solid (synonyms.keyOf input).toList := by
  unfold keyOf
  cases found : synonyms.find? fun pair => sameUpToAsciiCase pair.1 input with
  | none => exact solid
  | some pair => exact targets pair (List.mem_of_find?_eq_some found)

/-- A name is kept under a key of the table or under itself. -/
theorem Table.keyFor_solid {α : Type} {table : Table α} {name : String}
    (keys : ∀ key ∈ table, Solid key.toList) (solid : Solid name.toList) : Solid (table.keyFor name).toList := by
  rcases table.keyFor_cases name with there | ⟨_, same⟩
  · exact keys _ there
  · rwa [same]

namespace CocCard

variable {card : CocCard} {now : Instant} {value : Int} {key : String}

theorem put_solidKeys (solid : (Card.coc card).SolidKeys) (part : CocPart) (plain : Solid key.toList) :
    (Card.coc (card.put now part key value).1).SolidKeys := by
  rintro other ⟨place, there⟩
  rw [part_put] at there
  split at there
  · rcases Table.mem_insert.1 there with rfl | old
    · exact plain
    · exact solid other ⟨part, old⟩
  · exact solid other ⟨place, there⟩

theorem setMythos_solidKeys (solid : (Card.coc card).SolidKeys) :
    (Card.coc (card.setMythos now value).1).SolidKeys := by
  have first : (Card.coc (card.put now .skills mythos (bounded (some 99) value)).1).SolidKeys :=
    put_solidKeys solid .skills (by decide)
  rw [setMythos]
  dsimp only
  split
  · split
    · exact put_solidKeys first .basic (by decide)
    · exact first
  · exact first

theorem EntryRule.solidKeys {result : CocCard × Bool} (rule : EntryRule card now value key result)
    (solid : (Card.coc card).SolidKeys) (plain : Solid key.toList) : (Card.coc result.1).SolidKeys := by
  cases rule with
  | prop prop => exact put_solidKeys solid .props plain
  | hitPoints => exact put_solidKeys solid .basic plain
  | magicPoints => exact put_solidKeys solid .basic plain
  | sanity => exact put_solidKeys solid .basic plain
  | mythos => exact setMythos_solidKeys solid
  | luck => exact put_solidKeys solid .basic plain
  | skill notProp notBasic notMythos =>
      exact put_solidKeys solid .skills (Table.keyFor_solid (fun name there => solid name ⟨.skills, there⟩) plain)

end CocCard

namespace DndCard

variable {card after : DndCard} {now : Instant} {value : Int} {key : String} {changed : Bool}

theorem put_solidKeys (solid : (Card.dnd card).SolidKeys) (part : DndPart) (plain : Solid key.toList) :
    (Card.dnd (card.put now part key value).1).SolidKeys := by
  rintro other ⟨place, there⟩
  rw [part_put] at there
  split at there
  · rcases Table.mem_insert.1 there with rfl | old
    · exact plain
    · exact solid other ⟨part, old⟩
  · exact solid other ⟨place, there⟩

/-- Only the parts of a card count. -/
theorem solidKeys_congr (solid : (Card.dnd card).SolidKeys) (same : after.part = card.part) :
    (Card.dnd after).SolidKeys := by
  rintro other ⟨part, there⟩
  rw [same] at there
  exact solid other ⟨part, there⟩

theorem EntryRule.solidKeys {result : Except Fault (DndCard × Bool)} (rule : EntryRule card now value key result)
    (written : result = .ok (after, changed)) (solid : (Card.dnd card).SolidKeys) (plain : Solid key.toList) :
    (Card.dnd after).SolidKeys := by
  cases rule with
  | prop prop =>
      cases written
      exact put_solidKeys solid .props plain
  | skill skill =>
      cases written
      exact put_solidKeys solid .skills plain
  | @saving _ prop names =>
      have parts : (card.setSaving now key prop (0 < value)).1.part = card.part := by
        unfold setSaving
        dsimp only
        split <;> rfl
      rw [Except.ok.inj written] at parts
      exact solidKeys_congr solid parts
  | hitPoints =>
      cases written
      exact put_solidKeys solid .basic plain
  | basic basic =>
      cases written
      exact put_solidKeys solid .basic plain
  | slot names kept =>
      unfold setSlot at written
      split at written
      · cases written
      · cases written
        exact solidKeys_congr solid rfl
  | item notProp notSkill notHitPoints notBasic =>
      cases written
      exact put_solidKeys solid .items (Table.keyFor_solid (fun name there => solid name ⟨.items, there⟩) plain)

end DndCard

namespace Card

variable {card after : Card} {now : Instant} {input : String} {value : Int} {changed : Bool}

theorem new_solidKeys (kind : CardKind) (name : String) (now : Instant) : (Card.new kind name now).SolidKeys := by
  intro key has
  cases kind with
  | general => simp [HasKey, Card.new, GeneralCard.new] at has
  | coc =>
      obtain ⟨part, there⟩ := has
      cases part <;> simp [CocCard.new, CocCard.part] at there
  | dnd =>
      obtain ⟨part, there⟩ := has
      cases part <;> simp [DndCard.new, DndCard.part] at there

/-- A number that is written under a name without blanks stands under a key without blanks. -/
theorem setEntry_solidKeys (solid : card.SolidKeys) (plain : Solid input.toList)
    (done : card.setEntry now input value = .ok (after, changed)) : after.SolidKeys := by
  cases card with
  | general card =>
      cases done
      intro key there
      rcases Table.mem_insert.1 there with rfl | old
      · exact Table.keyFor_solid solid plain
      · exact solid key old
  | coc card =>
      cases done
      exact (card.setEntry_rule now input value).solidKeys solid
        (Synonyms.keyOf_solid (by decide +kernel) plain)
  | dnd card =>
      obtain ⟨⟨inner, told⟩, written, same⟩ := map_eq_ok.1 done
      cases same
      exact (card.setEntry_rule now input value).solidKeys written solid
        (Synonyms.keyOf_solid (by decide +kernel) plain)

theorem setAbility_solidKeys (solid : card.SolidKeys) (now : Instant) (name expression : String) :
    (card.setAbility now name expression).1.SolidKeys := by
  cases card <;> exact solid

end Card

theorem Board.changeCard_solidKeys {board after : Board} {name other : String}
    {change : Card → Except Fault (Card × Bool)} {names : List String} {held card : Card}
    (step : ∀ before card changed, change before = .ok (card, changed) → before.SolidKeys → card.SolidKeys)
    (done : board.changeCard name change = .ok (after, names)) (kept : board.registry.get? other = some held)
    (stands : after.registry.get? other = some card) (solid : held.SolidKeys) : card.SolidKeys := by
  have keeps : (fun before after : Card => before.SolidKeys → after.SolidKeys) held card :=
    changeCard_relates (fun _ => id) step done kept stands
  exact keeps solid

/-! Commands -/

namespace Edit

theorem isBlank_of_isNamePart {char : Char} (part : isNamePart char = true) : isBlank char = false := by
  unfold isNamePart at part
  cases blank : isBlank char with
  | false => rfl
  | true =>
      rw [blank] at part
      cases part

theorem takeWhile_solid (text : List Char) : Solid (text.takeWhile isNamePart) := fun _ member =>
  isBlank_of_isNamePart (List.mem_takeWhile_imp member)

theorem nameBeforeDie_subset (run : List Char) : nameBeforeDie run ⊆ run := by
  intro char member
  rw [nameBeforeDie, List.mem_reverse] at member
  exact List.mem_reverse.1 ((List.dropWhile_subset _) (List.mem_of_mem_tail member))

theorem cutAssignment?_solid {text rest : List Char} {assignment : Assignment}
    (found : cutAssignment? text = some (assignment, rest)) : Solid assignment.name := by
  unfold cutAssignment? at found
  rcases Option.or_eq_some_iff.1 found with whole | ⟨_, die⟩
  · unfold cutWhole? at whole
    dsimp only at whole
    split at whole
    · cases whole
    · cases whole
      exact takeWhile_solid text
  · unfold cutAtDie? at die
    dsimp only at die
    split at die
    · cases die
    · cases die
      exact fun char member => takeWhile_solid text char (nameBeforeDie_subset _ member)

/-- The names of entries in a command have no blanks. -/
theorem assignments_solid {text : List Char} {assignment : Assignment} (member : assignment ∈ assignments text) :
    Solid assignment.name := by
  fun_induction assignments text with
  | case1 => exact absurd member List.not_mem_nil
  | case2 char rest part first behind found inductionHypothesis =>
      rcases List.mem_cons.1 member with rfl | later
      · exact cutAssignment?_solid found
      · exact inductionHypothesis later
  | case3 char rest part found inductionHypothesis => exact inductionHypothesis member
  | case4 char rest other inductionHypothesis => exact inductionHypothesis member

theorem parse?_solid {text : List Char} {asked : List Assignment} (read : parse? text = some (.values asked)) :
    ∀ assignment ∈ asked, Solid assignment.name := by
  unfold parse? at read
  dsimp only at read
  split at read
  · cases read
  · cases read
  · next rest _ _ =>
    obtain ⟨_, _, behind⟩ := Option.bind_eq_some_iff.1 read
    dsimp only at behind
    split at behind <;> cases behind
  · cases read
    exact fun assignment member => assignments_solid member

end Edit

namespace EditRoll

variable {scene : Scene} {now : Instant} {source : String} {before roll : EditRoll} {copy last : Card}
  {assignments : List Assignment} {faces rest : Faces} {board after : Board} {names : List String}
  {name : String} {held card : Card}

/-- The names that values are written to are those in the command. The induction is on the assignments. -/
theorem previews_inputs (done : assignments.foldlM (preview now) copy before faces = ((.ok last, roll), rest)) :
    roll.writes.map (·.input) =
      before.writes.map (·.input) ++ assignments.map fun assignment => String.ofList assignment.name := by
  induction assignments generalizing copy before faces with
  | nil =>
      cases done
      exact (List.append_nil _).symm
  | cons assignment assignments inductionHypothesis =>
      rw [List.foldlM_cons] at done
      obtain ⟨tried, middle, left, first, done⟩ := bind_ok done
      obtain ⟨write, rfl, tells⟩ := preview_tells first
      rw [inductionHypothesis done, List.map_append, List.map_singleton, tells.input, List.append_assoc,
        List.singleton_append, List.map_cons]

theorem roll_edit (scene : Scene) (now : Instant) (edit : Option Edit) :
    Keeps (fun roll : EditRoll => roll.edit = edit) (EditRoll.roll scene now) := by
  have settled : IsSettled fun roll : EditRoll => roll.edit = edit := fun _ _ _ same => same
  unfold EditRoll.roll
  split
  · exact reply_keeps settled _
  · refine Keeps.bind (keeps_modify fun _ same => same) fun _ => ?_
    exact keeps_get fun _ _ => rollEdit_keeps settled scene now _ _

/-- All that a command writes to entries is written under names without blanks. -/
theorem roll_solid (done : EditRoll.roll scene now (.new source) faces = ((.ok (), roll), rest))
    (asked : roll.edit = some (.values assignments)) (named : roll.card = some name) :
    ∀ write ∈ roll.writes, Solid write.input.toList := by
  have edit : roll.edit = Edit.parse? source.toList := (roll_edit scene now _).after rfl done
  obtain ⟨_, start, tried, last, left, _, _, none, previewed, stays⟩ := roll_previews done asked named
  have inputs := previews_inputs previewed
  rw [none, stays, List.map_nil, List.nil_append] at inputs
  intro write member
  have input : write.input ∈ assignments.map fun assignment => String.ofList assignment.name :=
    inputs ▸ List.mem_map_of_mem member
  obtain ⟨assignment, there, same⟩ := List.mem_map.1 input
  rw [← same, String.toList_ofList]
  exact Edit.parse?_solid (edit.symm.trans asked) assignment there

theorem writeAll_solidKeys {writes : List EntryWrite} {changed : Bool} (solid : held.SolidKeys)
    (plain : ∀ write ∈ writes, Solid write.input.toList)
    (done : writeAll now writes held = .ok (card, changed)) : card.SolidKeys := by
  refine foldlM_keeps_of_mem (fun result : Card × Bool => result.1.SolidKeys) ?_ solid done
  intro write member result next before wrote
  obtain ⟨⟨after, told⟩, set, same⟩ := bind_eq_ok.1 wrote
  cases same
  exact Card.setEntry_solidKeys before (plain write member) set

theorem apply_solidKeys (done : EditRoll.roll scene now (.new source) faces = ((.ok (), roll), rest))
    {later : Instant} (applied : roll.apply later board = .ok (after, names))
    (kept : board.registry.get? name = some held) (stands : after.registry.get? name = some card)
    (solid : held.SolidKeys) : card.SolidKeys := by
  have unchanged (same : board.registry.get? name = some card) : card.SolidKeys := by
    rwa [← Option.some.inj (kept.symm.trans same)]
  unfold EditRoll.apply at applied
  split at applied
  · next named edit isNamed isEdit =>
    refine Board.changeCard_solidKeys ?_ applied kept stands solid
    intro first second changed change solid
    cases edit with
    | view names =>
        cases change
        exact solid
    | ability name expression =>
        cases change
        exact Card.setAbility_solidKeys solid later name expression
    | values assignments => exact writeAll_solidKeys solid (roll_solid done isEdit isNamed) change
  · cases applied
    exact unchanged stands

end EditRoll

theorem DeathRoll.settle_solidKeys {card : DndCard} (solid : (Card.dnd card).SolidKeys) (now : Instant)
    (saving : DeathSaving) (outcome : DeathSave) : (Card.dnd (settle now saving outcome card)).SolidKeys := by
  have saved : (Card.dnd (card.setDeathSaving now saving)).SolidKeys := by
    refine DndCard.solidKeys_congr solid ?_
    unfold DndCard.setDeathSaving
    split <;> rfl
  unfold settle
  split
  · exact DndCard.put_solidKeys saved .basic (by decide)
  · exact saved

theorem DeathRoll.apply_solidKeys {roll : DeathRoll} {now : Instant} {board after : Board} {names : List String}
    {name : String} {held card : Card} (applied : roll.apply now board = .ok (after, names))
    (kept : board.registry.get? name = some held) (stands : after.registry.get? name = some card)
    (solid : held.SolidKeys) : card.SolidKeys := by
  unfold DeathRoll.apply at applied
  split at applied
  · refine Board.changeCard_solidKeys ?_ applied kept stands solid
    intro first second changed change solid
    cases first with
    | general first =>
        cases change
        exact solid
    | coc first =>
        cases change
        exact solid
    | dnd first =>
        cases change
        exact settle_solidKeys solid now _ _
  · cases applied
    rwa [← Option.some.inj (kept.symm.trans stands)]

namespace Card

/-- A card that was made anew and then changed by commands for its entries and abilities and by death saving throws of
its holder. -/
inductive Edited : Card → Prop where
  | new (kind : CardKind) (name : String) (now : Instant) : Edited (.new kind name now)
  | edit {scene : Scene} {now later : Instant} {source : String} {faces rest : Faces} {roll : EditRoll}
      {board : Board} {names : List String} {card after : Card} (edited : Edited card)
      (held : scene.card? = some card)
      (rolled : EditRoll.roll scene now (.new source) faces = ((.ok (), roll), rest))
      (applied : roll.apply later scene.board = .ok (board, names))
      (stands : board.registry.get? card.name = some after) : Edited after
  | deathSave {scene : Scene} {later : Instant} {faces rest : Faces} {roll : DeathRoll}
      {board : Board} {names : List String} {card after : Card} (edited : Edited card)
      (held : scene.card? = some card) (rolled : DeathRoll.roll scene .new faces = ((.ok (), roll), rest))
      (applied : roll.apply later scene.board = .ok (board, names))
      (stands : board.registry.get? card.name = some after) : Edited after

theorem Edited.solidKeys {card : Card} (edited : card.Edited) : card.SolidKeys := by
  induction edited with
  | new kind name now => exact new_solidKeys kind name now
  | edit edited held rolled applied stands inductionHypothesis =>
      exact EditRoll.apply_solidKeys rolled applied (Scene.get?_of_card held) stands inductionHypothesis
  | deathSave edited held rolled applied stands inductionHypothesis =>
      exact DeathRoll.apply_solidKeys applied (Scene.get?_of_card held) stands inductionHypothesis

/-- The abilities that the summary of a card lists. -/
def listedAbilities : Card → List (String × String)
  | .coc card => card.core.abilities.toList
  | _ => []

theorem listed_values {group : String} {values : Values} {row : CardRow}
    (member : row ∈ CardRow.listed group (valueEntries values)) :
    row.key ∈ values ∧ ∃ number, row.value = intText number := by
  obtain ⟨entry, there, rfl⟩ := List.mem_map.1 member
  obtain ⟨⟨key, number⟩, stands, rfl⟩ := List.mem_map.1 there
  exact ⟨Table.mem_of_get (Std.ExtTreeMap.mem_toList_iff_getElem?_eq_some.1 stands), number, rfl⟩

/-- A row shows a number under a key of the card, or an ability. -/
theorem listed_cases {card : Card} {row : CardRow} (member : row ∈ card.listed) :
    (card.HasKey row.key ∧ ∃ number, row.value = intText number) ∨ (row.key, row.value) ∈ card.listedAbilities := by
  obtain ⟨⟨group, entries⟩, there, inside⟩ := List.mem_flatMap.1 member
  cases card with
  | general card =>
      cases List.mem_singleton.1 there
      exact .inl (listed_values inside)
  | coc card =>
      simp only [groups, List.mem_cons, List.not_mem_nil, or_false] at there
      rcases there with same | same | same | same
      · cases same
        exact .inl ((listed_values inside).imp_left fun there => ⟨.props, there⟩)
      · cases same
        exact .inl ((listed_values inside).imp_left fun there => ⟨.basic, there⟩)
      · cases same
        exact .inl ((listed_values inside).imp_left fun there => ⟨.skills, there⟩)
      · cases same
        obtain ⟨entry, stands, rfl⟩ := List.mem_map.1 inside
        exact .inr stands
  | dnd card =>
      simp only [groups, List.mem_cons, List.not_mem_nil, or_false] at there
      rcases there with same | same | same | same
      · cases same
        exact .inl ((listed_values inside).imp_left fun there => ⟨.props, there⟩)
      · cases same
        exact .inl ((listed_values inside).imp_left fun there => ⟨.basic, there⟩)
      · cases same
        obtain ⟨entry, trained, rfl⟩ := List.mem_map.1 inside
        obtain ⟨⟨key, number⟩, stands, rfl⟩ := List.mem_map.1 trained
        have kept := Std.ExtTreeMap.mem_toList_iff_getElem?_eq_some.1 (List.mem_of_mem_filter stands)
        exact .inl ⟨⟨.skills, Table.mem_of_get kept⟩, _, rfl⟩
      · cases same
        exact .inl ((listed_values inside).imp_left fun there => ⟨.items, there⟩)

theorem ability_listed {card : Card} {ability : String × String} (member : ability ∈ card.listedAbilities) :
    ⟨"能力", ability.1, ability.2⟩ ∈ card.listed := by
  cases card with
  | general card => cases member
  | coc card =>
      have last : ("能力", card.core.abilities.toList) ∈ (Card.coc card).groups := by
        rw [groups]
        simp
      exact List.mem_flatMap.2 ⟨_, last, List.mem_map_of_mem member⟩
  | dnd card => cases member

/-- The rows for a card that commands and death saving throws made are one for each entry and ability of its summary, in
their order, exactly if the name of the card has one line, no death saving throws count, no key has a colon, and no
ability has blanks in its name or its expression. -/
theorem rows_of_edited {card : Card} (edited : card.Edited) : card.rows = card.listed ↔
    '\n' ∉ card.name.toList ∧ ¬card.HasSaves ∧ (∀ row ∈ card.listed, ':' ∉ row.key.toList) ∧
      ∀ ability ∈ card.listedAbilities, Solid ability.1.toList ∧ Solid ability.2.toList := by
  rw [rows_eq_listed_iff]
  refine and_congr_right fun _ => and_congr_right fun _ => ⟨fun plain => ⟨fun row member => (plain row member).colon,
    fun ability member => ?_⟩, fun ⟨colons, abilities⟩ row member => ?_⟩
  · have row := plain _ (ability_listed member)
    exact ⟨row.key, row.value⟩
  · rcases listed_cases member with ⟨has, number, same⟩ | ability
    · exact ⟨edited.solidKeys _ has, colons row member, same ▸ intText_solid number⟩
    · exact ⟨(abilities _ ability).1, colons row member, (abilities _ ability).2⟩

/-- What a user finds who holds the card. The replies to commands for it are empty. -/
def heldBy (card : Card) : Scene :=
  let keys := ["roll.st.prompt", "roll.st.line", "roll.st.ability"]
  let texts := ⟨"own", "own", "", true, .ofPairs (keys.map fun key => (key, []))⟩
  let config := { Config.standard .epoch with texts := [⟨.embedded "own", true⟩], own := ⟨[], [], [texts]⟩ }
  ⟨⟨"u1", "Maca", .user, "c1", none, none⟩, ⟨config, []⟩,
    { Board.empty with registry := (Registry.empty.register card).link "c1" "u1" (some card.name) }⟩

/-- The card after a command of its holder. -/
def command? (card : Card) (source : String) : Option Card :=
  match EditRoll.roll card.heldBy .epoch (.new source) (.constant 1) with
  | ((.ok (), roll), _) =>
    (roll.apply .epoch card.heldBy.board).toOption.bind fun (board, _) => board.registry.get? card.name
  | ((.error _, _), _) => none

theorem heldBy_card (card : Card) : card.heldBy.card? = some card := by
  have linked : card.heldBy.board.registry.links.cardOf? "c1" "u1" = some card.name := Links.cardOf?_give
  change (card.heldBy.board.registry.links.cardOf? "c1" "u1").bind card.heldBy.board.registry.get? = some card
  rw [linked, Option.bind_some]
  exact (Registry.get?_link ..).trans ((Registry.get?_register ..).trans (if_pos rfl))

theorem Edited.command {card after : Card} {source : String} (edited : card.Edited)
    (done : card.command? source = some after) : after.Edited := by
  unfold command? at done
  split at done
  · next roll rest rolled =>
    obtain ⟨⟨board, names⟩, applied, stands⟩ := Option.bind_eq_some_iff.1 done
    exact .edit edited card.heldBy_card rolled (toOption_eq_some.1 applied) stands
  · cases done

/-- Numbers and an expression without blanks have a row each. -/
theorem rows_of_edited_solid : ∃ card : Card, card.Edited ∧ card.rows = card.listed ∧
    card.rows = [⟨"属性", "力量", "60"⟩, ⟨"技能", "侦查", "40"⟩, ⟨"能力", "拳", "1d6+2"⟩] := by
  have done : (((Card.new .coc "A" .epoch).command? "力量60 侦查40").bind (command? · "&拳=1d6+2")).any
      (fun card => decide
        (card.rows = [⟨"属性", "力量", "60"⟩, ⟨"技能", "侦查", "40"⟩, ⟨"能力", "拳", "1d6+2"⟩] ∧
          '\n' ∉ card.name.toList ∧ ¬card.HasSaves ∧ (∀ row ∈ card.listed, ':' ∉ row.key.toList) ∧
          ∀ ability ∈ card.listedAbilities, Solid ability.1.toList ∧ Solid ability.2.toList)) = true := by
    decide +kernel
  obtain ⟨card, made, holds⟩ := (Option.any_eq_true _ _).1 done
  obtain ⟨first, middle, last⟩ := Option.bind_eq_some_iff.1 made
  obtain ⟨rows, plain⟩ := of_decide_eq_true holds
  have edited : card.Edited := ((Edited.new .coc "A" .epoch).command middle).command last
  exact ⟨card, edited, (rows_of_edited edited).2 plain, rows⟩

/-- A blank in an expression cuts it into rows of its own. -/
theorem rows_of_edited_cut : ∃ card : Card, card.Edited ∧ card.rows ≠ card.listed ∧
    card.listed = [⟨"能力", "拳", "1d6 + 2"⟩] ∧
    card.rows = [⟨"能力", "拳", "1d6"⟩, ⟨"能力", "+", ""⟩, ⟨"能力", "2", ""⟩] := by
  have done : ((Card.new .coc "A" .epoch).command? "&拳=1d6 + 2").any (fun card => decide
      (card.rows ≠ card.listed ∧ card.listed = [⟨"能力", "拳", "1d6 + 2"⟩] ∧
        card.rows = [⟨"能力", "拳", "1d6"⟩, ⟨"能力", "+", ""⟩, ⟨"能力", "2", ""⟩])) = true := by
    decide +kernel
  obtain ⟨card, made, shows⟩ := (Option.any_eq_true _ _).1 done
  exact ⟨card, (Edited.new .coc "A" .epoch).command made, of_decide_eq_true shows⟩

end Card

end Tabletop
