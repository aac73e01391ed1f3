/-
This file proves which way an entry moves when an amount is added to what it reads.

The sum is written under the name of the entry. What a card keeps of it may be something else: a resource within its
limit, the training of a skill, or whether a saving throw is proficient.
-/

import Tabletop.Proofs.Card.Made

namespace Tabletop

open Number Text

/-- Two numbers are in the order in which an amount moves them: upwards if it is added, downwards if it is taken
away. -/
def Number.MovesBy (amount old new : Int) : Prop :=
  (0 ≤ amount → old ≤ new) ∧ (amount ≤ 0 → new ≤ old)

namespace Number

variable {amount old new : Int}

theorem movesBy_add (amount old : Int) : MovesBy amount old (old + amount) := by
  constructor <;> omega

/-- What is worth something for each step moves as the steps do. -/
theorem movesBy_affine (base : Int) {worth : Int} (positive : 0 < worth) :
    MovesBy amount (base + old * worth) (base + new * worth) ↔ MovesBy amount old new := by
  simp only [MovesBy, Int.add_le_add_iff_left, Int.mul_le_mul_right positive]

/-- A number that is brought within a limit moves the right way, unless it was above the limit and something is
added. -/
theorem movesBy_bounded (limit : Option Int) (nonneg : 0 ≤ old) :
    MovesBy amount old (CocCard.bounded limit (old + amount)) ↔
      (0 ≤ amount → ∀ most, limit = some most → old ≤ max 0 most) := by
  unfold MovesBy
  cases limit with
  | none =>
      dsimp only [CocCard.bounded]
      refine ⟨fun _ _ _ => nofun, fun _ => ?_⟩
      omega
  | some limit =>
      dsimp only [CocCard.bounded]
      constructor
      · intro moves adds most same
        cases same
        omega
      · intro within
        constructor
        · intro adds
          have below := within adds limit rfl
          omega
        · omega

end Number

/-! Resources -/

namespace CocCard

variable {card : CocCard} {input key : String}

/-- A key that belongs elsewhere is not found in a part. -/
theorem InOrder.stored?_elsewhere (ordered : card.InOrder) (caseless : isCaseless key = true) {part : CocPart}
    (elsewhere : home key ≠ part) : card.stored? input key part = none := by
  have missing : key ∉ card.part part := fun there => elsewhere (ordered.atHome part key there)
  rw [stored?_caseless caseless, Std.ExtTreeMap.getElem?_eq_none missing, Option.map_none]

/-- A resource reads what is stored. -/
theorem InOrder.entryOf?_basic (ordered : card.InOrder) (basic : synonyms.keyOf input ∈ basicNames) :
    card.entryOf? input = card.basic[synonyms.keyOf input]?.map fun value =>
      { Entry.stored input (synonyms.keyOf input) value .basic with modifier := .difficulty .normal } := by
  have facts : ∀ name ∈ basicNames, isCaseless name = true ∧ home name = .basic := by decide +kernel
  obtain ⟨caseless, belongs⟩ := facts _ basic
  have uncomputed : card.computed? (synonyms.keyOf input) = none := by
    simp only [basicNames, List.mem_cons, List.not_mem_nil, or_false] at basic
    rcases basic with same | same | same | same
    all_goals
      rw [same]
      rfl
  have plain : card.plainEntryOf? input input = card.basic[synonyms.keyOf input]?.map fun value =>
      .stored input (synonyms.keyOf input) value .basic := by
    rw [plainEntryOf?, ordered.stored?_elsewhere caseless (by rw [belongs]; decide),
      ordered.stored?_elsewhere caseless (by rw [belongs]; decide), stored?_caseless caseless, uncomputed]
    simp only [Option.none_or, Option.map_none, Option.or_none]
    rfl
  rw [CocCard.entryOf?, plain, split_of_basic basic]
  cases card.basic[synonyms.keyOf input]? with
  | none => rfl
  | some value =>
      rw [Option.map_some, Option.map_some]
      simp only [Entry.withDifficulty, Entry.stored, Difficulty.divisor, Int.tdiv_one]

/-- The mythos reads what is stored, or else zero. -/
theorem InOrder.entryOf?_mythos (ordered : card.InOrder) (named : synonyms.keyOf input = mythos) :
    (card.entryOf? input).map (·.value) = some (card.skills.getD mythos 0) := by
  have caseless : isCaseless mythos = true := by decide
  have belongs : home mythos = .skills := by decide +kernel
  have props : card.stored? input mythos .props = none :=
    ordered.stored?_elsewhere caseless (by rw [belongs]; decide)
  have basic : card.stored? input mythos .basic = none :=
    ordered.stored?_elsewhere caseless (by rw [belongs]; decide)
  have computed : card.computed? mythos = some 0 := rfl
  have plain : ∃ entry, card.plainEntryOf? input input = some entry ∧
      entry.baseValue = card.skills.getD mythos 0 := by
    rw [plainEntryOf?, named, props, basic, computed, stored?_caseless caseless]
    change ∃ entry, (none : Option Entry).or ((card.skills[mythos]?.map _).or _) = some entry ∧ _
    rw [Std.ExtTreeMap.getD_eq_getD_getElem?]
    cases card.skills[mythos]? with
    | some value => exact ⟨_, rfl, rfl⟩
    | none => exact ⟨_, rfl, rfl⟩
  obtain ⟨entry, found, value⟩ := plain
  rw [entryOf?_of_plain found, Option.map_some, Entry.withDifficulty, value]
  simp only [Difficulty.divisor, Int.tdiv_one]

end CocCard

namespace Resource

variable {resource : Resource} {card after : Card} {now : Instant} {input : String} {number : Int} {changed : Bool}

/-- A name of a resource reads what is stored of it. -/
theorem entryOf?_of_named (ordered : card.InOrder) (has : card.kind = resource.kind)
    (named : resource.Named input) : (card.entryOf? input).map (·.value) = resource.stored? card := by
  have read {values : Option Int} {entry : Int → Entry} (same : ∀ value, (entry value).value = value) :
      (values.map entry).map (·.value) = values := by
    cases values with
    | none => rfl
    | some value => exact congrArg some (same value)
  cases resource with
  | cocHitPoints =>
      cases card with
      | coc card =>
          have basic : CocCard.synonyms.keyOf input ∈ CocCard.basicNames := named ▸ by decide
          change (card.entryOf? input).map _ = card.basic[CocCard.hitPoints]?
          rw [CocCard.InOrder.entryOf?_basic ordered basic, named]
          exact read fun _ => rfl
      | general card => cases has
      | dnd card => cases has
  | cocMagicPoints =>
      cases card with
      | coc card =>
          have basic : CocCard.synonyms.keyOf input ∈ CocCard.basicNames := named ▸ by decide
          change (card.entryOf? input).map _ = card.basic[CocCard.magicPoints]?
          rw [CocCard.InOrder.entryOf?_basic ordered basic, named]
          exact read fun _ => rfl
      | general card => cases has
      | dnd card => cases has
  | dndHitPoints =>
      cases card with
      | dnd card =>
          have basic : DndCard.synonyms.keyOf input ∈ DndCard.basicNames := named ▸ by decide
          change (card.entryOf? input).map _ = card.basic[DndCard.hitPoints]?
          rw [DndCard.InOrder.entryOf?_basic ordered basic, named]
          exact read fun _ => rfl
      | general card => cases has
      | coc card => cases has

/-- Writing a resource leaves its limit as it is. -/
theorem limit?_of_named (has : card.kind = resource.kind)
    (written : card.write now (.entry input number) = .ok (after, changed)) (named : resource.Named input) :
    resource.limit? after = resource.limit? card := by
  cases Card.write_entry written with
  | general card => cases resource <;> cases has
  | coc card =>
      cases resource with
      | cocHitPoints => exact (CocCard.setEntry_hitPoints named).2
      | cocMagicPoints => exact (CocCard.setEntry_magicPoints named).2
      | dndHitPoints => cases has
  | dnd done =>
      cases resource with
      | dndHitPoints => exact (DndCard.setEntry_hitPoints named done).2
      | cocHitPoints => cases has
      | cocMagicPoints => cases has

/-- A name stands for one resource of a card. -/
theorem Named.unique {other : Resource} (named : resource.Named input) (namedToo : other.Named input)
    (has : other.kind = resource.kind) : other = resource := by
  have apart : CocCard.magicPoints ≠ CocCard.hitPoints := by decide
  cases resource with
  | cocHitPoints =>
      cases other with
      | cocHitPoints => rfl
      | cocMagicPoints => exact absurd (namedToo.symm.trans named) apart
      | dndHitPoints => cases has
  | cocMagicPoints =>
      cases other with
      | cocHitPoints => exact absurd (named.symm.trans namedToo) apart
      | cocMagicPoints => rfl
      | dndHitPoints => cases has
  | dndHitPoints =>
      cases other with
      | cocHitPoints => cases has
      | cocMagicPoints => cases has
      | dndHitPoints => rfl

end Resource

namespace DndCard

variable {card : DndCard} {now : Instant} {input key prop : String}

theorem part_put (card : DndCard) (now : Instant) (part other : DndPart) (key : String) (value : Int) :
    (card.put now part key value).1.part other =
      if other = part then (card.part part).insert key value else card.part other := by
  cases part <;> cases other <;> rfl

theorem new_short (name : String) (now : Instant) : (new name now).Short where
  part part key value stands := by cases part <;> simp [new, DndCard.part] at stands
  slot level slot stands := by simp [new] at stands

/-- The card stays short if a short number is put on it. -/
theorem Short.put (short : card.Short) (now : Instant) (part : DndPart) (key : String) {value : Int}
    (fits : isShort value = true) : (card.put now part key value).1.Short where
  part other name number stands := by
    rw [part_put] at stands
    split at stands
    · rw [Table.get_insert] at stands
      split at stands
      · cases stands
        exact fits
      · exact short.part part name number stands
    · exact short.part other name number stands
  slot level slot stands := by
    refine short.slot level slot ?_
    cases part <;> exact stands

/-- A saving throw reads the bonus that it has if its attribute is known. -/
theorem postfixEntryOf?_saving (names : savingProp? key = some prop) :
    card.postfixEntryOf? input key = card.props[prop]?.map fun score =>
      { Entry.computed input key (card.savingBonus prop score) with modifier := .ofPostfix .saving } := by
  unfold savingProp? at names
  split at names
  · next text found =>
    dsimp only at names
    split at names
    · cases names
      unfold postfixEntryOf?
      rw [found]
      cases stands : card.props[synonyms.keyOf text]? with
      | none => simp only [Option.bind_eq_bind, Option.bind_some, stands, Option.bind_none, Option.map_none]
      | some score =>
          simp only [Option.bind_eq_bind, Option.bind_some, stands, Option.map_some]
          rfl
    · cases names
  · cases names

/-- The bonus of a saving throw goes up if it is proficient. -/
theorem TrainingExact.savingBonus_eq (exact : card.TrainingExact) (prop : String) (score : Int) :
    card.savingBonus prop score = attributeModifier score +
      (if card.savingProficiency.contains prop then 1 else 0) * card.proficiencyBonus := by
  by_cases proficient : card.savingProficiency.contains prop = true
  · rw [exact.saving prop score proficient, if_pos proficient, Int.one_mul]
  · rw [savingBonus, if_neg proficient, if_neg proficient, Int.zero_mul, Int.add_zero]

theorem proficiencyBonus_pos (card : DndCard) : 0 < card.proficiencyBonus := by
  have bonus := card.proficiencyBonus_between (Int.le_max_left 1 _) (Int.le_max_right 1 (card.basic.getD level 1))
  omega

variable {after : DndCard} {name : String} {old : Entry} {value : Int} {told : Bool}

/-- What a skill is worth moves as its training does. -/
theorem InOrder.skill_movesBy (ordered : card.InOrder) (orderedToo : after.InOrder) (held : card.TrainingBounded)
    (heldToo : after.TrainingBounded) (short : card.Short) (notProp : synonyms.keyOf name ∉ propNames)
    (skill : isSkill (synonyms.keyOf name) = true) (there : card.entryOf? name = some old)
    (done : card.putAt now value (.skill (synonyms.keyOf name)) = .ok (after, told)) (amount : Int) :
    ∃ new, after.entryOf? name = some new ∧ (MovesBy amount old.value new.value ↔
      MovesBy amount (card.skills.getD (synonyms.keyOf name) 0) (max 0 (min value 2))) := by
  rw [ordered.entryOf?_skill notProp skill] at there
  rw [orderedToo.entryOf?_skill notProp skill]
  generalize synonyms.keyOf name = key at *
  obtain ⟨⟨other, prop⟩, listed⟩ := Option.isSome_iff_exists.1
    (List.find?_isSome.2 (List.any_eq_true.1 skill))
  have same := List.find?_some listed
  obtain rfl := eq_of_beq same
  cases done
  have least : isShort (max 0 (min value 2)) = true := by
    rw [isShort_iff_between]
    omega
  have shortToo := short.put now .skills other least
  obtain ⟨before, reads, _, worth⟩ := short.skill_value held name listed
  obtain ⟨new, readsToo, _, worthToo⟩ := shortToo.skill_value heldToo name listed
  cases there.symm.trans reads
  refine ⟨new, readsToo, ?_⟩
  have trained : (card.put now .skills other (max 0 (min value 2))).1.skills.getD other 0 =
      max 0 (min value 2) := by
    change (card.skills.insert _ _).getD _ 0 = _
    rw [Std.ExtTreeMap.getD_eq_getD_getElem?, Table.get_insert, if_pos rfl, Option.getD_some]
  rw [worth, worthToo, trained]
  -- Neither the attribute nor the level was written, so both worths have one modifier and one bonus.
  exact movesBy_affine _ card.proficiencyBonus_pos

/-- The bonus of a saving throw moves as its training does. -/
theorem InOrder.saving_movesBy (ordered : card.InOrder) (orderedToo : after.InOrder) (exact : card.TrainingExact)
    (exactToo : after.TrainingExact) (notProp : synonyms.keyOf name ∉ propNames)
    (notSkill : isSkill (synonyms.keyOf name) = false) (names : savingProp? (synonyms.keyOf name) = some prop)
    (there : card.entryOf? name = some old)
    (done : card.putAt now value (.saving (synonyms.keyOf name) prop) = .ok (after, told)) (amount : Int) :
    ∃ new, after.entryOf? name = some new ∧ (MovesBy amount old.value new.value ↔
      MovesBy amount (if card.savingProficiency.contains prop then 1 else 0) (if 0 < value then 1 else 0)) := by
  rw [ordered.entryOf?_saving notProp notSkill names, postfixEntryOf?_saving names] at there
  rw [orderedToo.entryOf?_saving notProp notSkill names, postfixEntryOf?_saving names]
  obtain ⟨score, stands, rfl⟩ := Option.map_eq_some_iff.1 there
  obtain ⟨core, saving, same, trained⟩ := card.setSaving_eq now (synonyms.keyOf name) prop (0 < value)
  cases (Except.ok.inj done ▸ same : after = _)
  refine ⟨_, congrArg (Option.map _) stands, ?_⟩
  have proficient : saving.contains prop = true ↔ 0 < value := by
    rw [Std.ExtTreeSet.contains_iff_mem, trained, if_pos rfl, decide_eq_true_iff]
  change MovesBy amount (card.savingBonus prop score) (DndCard.savingBonus _ prop score) ↔ _
  rw [exact.savingBonus_eq, exactToo.savingBonus_eq]
  dsimp only
  rw [if_congr proficient rfl rfl]
  exact movesBy_affine _ card.proficiencyBonus_pos

/-- No rule leads a key that is written as it is to training. -/
theorem PlaceRule.untrained {part : DndPart} {stored : String} (rule : PlaceRule card key (.part part stored)) :
    isSkill key = false ∧ savingProp? key = none := by
  have props : ∀ name ∈ propNames, isSkill name = false ∧ savingProp? name = none := by decide +kernel
  have basics : ∀ name ∈ basicNames, isSkill name = false ∧ savingProp? name = none := by decide +kernel
  cases rule with
  | prop prop => exact props key prop
  | basic basic => exact basics key basic
  | item item => exact ⟨item.notSkill, item.notSaving⟩

/-- A number that is written as it is is read. -/
theorem InOrder.put_reads (orderedToo : after.InOrder) {part : DndPart} {stored : String}
    (rule : PlaceRule card (synonyms.keyOf name) (.part part stored))
    (done : card.putAt now value (.part part stored) = .ok (after, told)) :
    ∃ new, after.entryOf? name = some new ∧ new.value = value := by
  have same : after = (card.put now part stored value).1 := (congrArg Prod.fst (Except.ok.inj done)).symm
  have kept : (after.part part)[stored]? = some value := by
    rw [same, part_put, if_pos rfl, Table.get_insert, if_pos rfl]
  cases rule with
  | prop prop => exact ⟨_, orderedToo.entryOf?_prop prop kept, rfl⟩
  | basic basic => exact ⟨_, (orderedToo.entryOf?_basic basic).trans (congrArg (Option.map _) kept), rfl⟩
  | item item =>
      have found := Table.lookup?_of_alone kept
        (fun other there => orderedToo.distinct other there _ (Table.mem_of_get kept)) (card.items.keyFor_same _)
      exact ⟨_, entryOf?_item found, rfl⟩

end DndCard

namespace Card

variable {card : Card} {name : String} {old : Entry} {amount : Int}

/-- How an amount that is added to what a name reads can move it the wrong way. A resource that is above its limit
is brought down. The sum of a skill's worth and the amount is written as its training, and that of a saving throw's
bonus and the amount as whether it is proficient. -/
inductive Misleads (name : String) (old amount : Int) : Card → Prop where
  | resource {card : Card} (resource : Resource) (has : card.kind = resource.kind) (named : resource.Named name)
      (adds : 0 ≤ amount) (above : ¬resource.Within card) : Misleads name old amount card
  | skill {card : DndCard} (skill : DndCard.isSkill (DndCard.synonyms.keyOf name) = true)
      (wrong : ¬MovesBy amount (card.skills.getD (DndCard.synonyms.keyOf name) 0) (max 0 (min (old + amount) 2))) :
      Misleads name old amount (.dnd card)
  | saving {card : DndCard} {prop : String}
      (names : DndCard.savingProp? (DndCard.synonyms.keyOf name) = some prop)
      (wrong : ¬MovesBy amount (if card.savingProficiency.contains prop then 1 else 0)
        (if 0 < old + amount then 1 else 0)) : Misleads name old amount (.dnd card)

/-- After the sum was written, the name reads a number that lies on the side to which the amount moves it, unless
the card misleads the sum. -/
def Moves (card : Card) (now : Instant) (name : String) (old amount : Int) : Prop :=
  ∃ after changed new, card.setEntry now name (old + amount) = .ok (after, changed) ∧
    after.entryOf? name = some new ∧ (MovesBy amount old new.value ↔ ¬card.Misleads name old amount)

theorem InOrder.slotsOpen (ordered : card.InOrder) : card.SlotsOpen := by
  intro dnd is level slot kept
  subst is
  rw [DndCard.InOrder.slotless ordered] at kept
  simp at kept

/-- The name of a resource is neither a skill nor a saving throw. -/
theorem misleads_resource {resource : Resource} (has : card.kind = resource.kind) (named : resource.Named name)
    {value : Int} : card.Misleads name value amount ↔ 0 ≤ amount ∧ ¬resource.Within card := by
  constructor
  · intro misleads
    cases misleads with
    | resource other hasToo namedToo adds above =>
        obtain rfl := named.unique namedToo (hasToo.symm.trans has)
        exact ⟨adds, above⟩
    | skill skill wrong =>
        cases resource with
        | dndHitPoints =>
            have plain : DndCard.isSkill DndCard.hitPoints = false := by decide
            rw [show DndCard.synonyms.keyOf name = DndCard.hitPoints from named, plain] at skill
            cases skill
        | cocHitPoints => cases has
        | cocMagicPoints => cases has
    | saving names wrong =>
        cases resource with
        | dndHitPoints =>
            have plain : DndCard.savingProp? DndCard.hitPoints = none := by decide +kernel
            rw [show DndCard.synonyms.keyOf name = DndCard.hitPoints from named, plain] at names
            cases names
        | cocHitPoints => cases has
        | cocMagicPoints => cases has
  · rintro ⟨adds, above⟩
    exact .resource resource has named adds above

theorem Made.moves_resource (made : card.Made) (resource : Resource) (has : card.kind = resource.kind)
    (named : resource.Named name) (there : card.entryOf? name = some old) (now : Instant) (amount : Int) :
    card.Moves now name old.value amount := by
  have ordered := made.inOrder
  obtain ⟨after, changed, written⟩ := write_ok now (.entry name (old.value + amount)) ordered.slotsOpen
  have stored : resource.stored? card = some old.value := by
    rw [← Resource.entryOf?_of_named ordered has named, there]
    rfl
  have kept := Resource.entryOf?_of_named (write_inOrder ordered written) ((write_kind written).trans has) named
  rw [Resource.stored?_of_named has written named, Resource.limit?_of_named has written named] at kept
  obtain ⟨new, reads, value⟩ := Option.map_eq_some_iff.1 kept
  refine ⟨after, changed, new, written, reads, ?_⟩
  rw [value, movesBy_bounded _ (made.resource_nonneg resource stored), misleads_resource has named, not_and, not_not]
  refine imp_congr_right fun _ => ?_
  rw [Resource.Within, stored]
  constructor
  · intro within number limit same limited
    cases same
    exact within limit limited
  · exact fun within most limited => within old.value most rfl limited

theorem moves_coc {card : CocCard} (made : (Card.coc card).Made)
    (notHitPoints : CocCard.synonyms.keyOf name ≠ CocCard.hitPoints)
    (notMagicPoints : CocCard.synonyms.keyOf name ≠ CocCard.magicPoints)
    (there : card.entryOf? name = some old) (now : Instant) (amount : Int) :
    (Card.coc card).Moves now name old.value amount := by
  have ordered : card.InOrder := made.inOrder
  have bounded : card.SanityBounded := made.bounded
  have straight : ¬(Card.coc card).Misleads name old.value amount := by
    rintro (⟨resource, has, named, _, _⟩ | _ | _)
    cases resource with
    | cocHitPoints => exact notHitPoints named
    | cocMagicPoints => exact notMagicPoints named
    | dndHitPoints => cases has
  have reads := (ordered.setEntry_readsBack now name (old.value + amount)).read name (sameUpToAsciiCase_refl _)
  refine ⟨_, _, _, rfl, reads, iff_of_true ?_ straight⟩
  change MovesBy amount old.value (card.admitted _ (old.value + amount))
  -- Sanity and the mythos are never above their limits, so a limit takes away nothing but what was added.
  by_cases sane : CocCard.synonyms.keyOf name = CocCard.sanity
  · have stands : card.basic[CocCard.sanity]? = some old.value := by
      rw [bounded.entryOf? sane] at there
      obtain ⟨value, kept, rfl⟩ := Option.map_eq_some_iff.1 there
      exact kept
    obtain ⟨nonneg, below⟩ := bounded.sanityRange _ stands
    rw [← bounded.maxSanity] at below
    rw [sane]
    change MovesBy amount old.value (CocCard.bounded (some card.maxSanity) _)
    refine (movesBy_bounded _ nonneg).2 fun _ most same => ?_
    cases same
    omega
  by_cases known : CocCard.synonyms.keyOf name = CocCard.mythos
  · have value := ordered.entryOf?_mythos known
    rw [there, Option.map_some, Option.some.injEq] at value
    have range := bounded.mythosRange
    rw [known]
    change MovesBy amount old.value (CocCard.bounded (some 99) _)
    refine (movesBy_bounded _ (by omega)).2 fun _ most same => ?_
    cases same
    omega
  have limitless : CocCard.synonyms.keyOf name ∉ CocCard.limitedNames := by
    simp only [CocCard.limitedNames, List.mem_cons, List.not_mem_nil, or_false, not_or]
    exact ⟨notHitPoints, notMagicPoints, sane, known⟩
  rw [card.admitted_unlimited _ limitless]
  exact movesBy_add amount old.value

/-- A name that is no name of hit points is misled by its training or its saving throw alone. -/
theorem misleads_dnd {card : DndCard} (notHitPoints : DndCard.synonyms.keyOf name ≠ DndCard.hitPoints)
    {value : Int} :
    (Card.dnd card).Misleads name value amount ↔
      (DndCard.isSkill (DndCard.synonyms.keyOf name) = true ∧
        ¬MovesBy amount (card.skills.getD (DndCard.synonyms.keyOf name) 0) (max 0 (min (value + amount) 2))) ∨
      ∃ prop, DndCard.savingProp? (DndCard.synonyms.keyOf name) = some prop ∧
        ¬MovesBy amount (if card.savingProficiency.contains prop then 1 else 0)
          (if 0 < value + amount then 1 else 0) := by
  constructor
  · rintro (⟨resource, has, named, _, _⟩ | ⟨skill, wrong⟩ | ⟨names, wrong⟩)
    · cases resource with
      | dndHitPoints => exact absurd named notHitPoints
      | cocHitPoints => cases has
      | cocMagicPoints => cases has
    · exact .inl ⟨skill, wrong⟩
    · exact .inr ⟨_, names, wrong⟩
  · rintro (⟨skill, wrong⟩ | ⟨prop, names, wrong⟩)
    · exact .skill skill wrong
    · exact .saving names wrong

/-- A name that leads to no training is misled by nothing. -/
theorem straight_of_untrained {card : DndCard} (notHitPoints : DndCard.synonyms.keyOf name ≠ DndCard.hitPoints)
    (notSkill : DndCard.isSkill (DndCard.synonyms.keyOf name) = false)
    (notSaving : DndCard.savingProp? (DndCard.synonyms.keyOf name) = none) {value : Int} :
    ¬(Card.dnd card).Misleads name value amount := by
  rw [misleads_dnd notHitPoints, notSkill, notSaving]
  simp only [Bool.false_eq_true, false_and, reduceCtorEq, exists_false, or_false, not_false_eq_true]

theorem moves_dnd {card : DndCard} (made : (Card.dnd card).Made) (short : card.Short)
    (notHitPoints : DndCard.synonyms.keyOf name ≠ DndCard.hitPoints)
    (there : card.entryOf? name = some old) (now : Instant) (amount : Int) :
    (Card.dnd card).Moves now name old.value amount := by
  have ordered : card.InOrder := made.inOrder
  have held : card.TrainingBounded := made.bounded
  obtain ⟨last, changed, written⟩ := write_ok now (.entry name (old.value + amount)) made.inOrder.slotsOpen
  have madeToo : last.Made := .call made written
  obtain ⟨⟨after, told⟩, done, same⟩ := map_eq_ok.1 written
  cases same
  have orderedToo : after.InOrder := madeToo.inOrder
  have heldToo : after.TrainingBounded := madeToo.bounded
  have ends (new : Entry) (reads : after.entryOf? name = some new)
      (moves : MovesBy amount old.value new.value ↔ ¬(Card.dnd card).Misleads name old.value amount) :
      (Card.dnd card).Moves now name old.value amount :=
    ⟨_, _, new, written, reads, moves⟩
  rw [DndCard.setEntry_eq_putAt] at done
  have rule := ordered.place_rule name
  generalize card.place name = place at rule done
  cases place with
  | part part stored =>
      obtain ⟨notSkill, notSaving⟩ := rule.untrained
      obtain ⟨new, reads, value⟩ := orderedToo.put_reads rule done
      refine ends new reads (iff_of_true ?_ (straight_of_untrained notHitPoints notSkill notSaving))
      rw [value]
      exact movesBy_add amount old.value
  | skill key =>
      cases rule with
      | skill notProp skill =>
          obtain ⟨new, reads, moves⟩ :=
            ordered.skill_movesBy orderedToo held heldToo short notProp skill there done amount
          have notSaving : DndCard.savingProp? (DndCard.synonyms.keyOf name) = none := by
            have facts : ∀ pair ∈ DndCard.skillProps, DndCard.savingProp? pair.1 = none := by decide +kernel
            obtain ⟨pair, listed, same⟩ := List.any_eq_true.1 skill
            exact eq_of_beq same ▸ facts pair listed
          refine ends new reads (moves.trans ?_)
          rw [misleads_dnd notHitPoints, notSaving]
          simp only [skill, true_and, reduceCtorEq, false_and, exists_false, or_false, not_not]
  | saving key prop =>
      cases rule with
      | saving notProp notSkill names =>
          have level := isWord_of_isShort short.level
          have levelToo : isWord (after.basic.getD DndCard.level 1) = true := by
            obtain ⟨core, saving, same, _⟩ := card.setSaving_eq now _ _ (0 < old.value + amount)
            cases (Except.ok.inj done ▸ same : after = _)
            exact level
          obtain ⟨new, reads, moves⟩ := ordered.saving_movesBy orderedToo (held.exact level)
            (heldToo.exact levelToo) notProp notSkill names there done amount
          refine ends new reads (moves.trans ?_)
          rw [misleads_dnd notHitPoints, notSkill, names]
          simp only [Bool.false_eq_true, false_and, false_or, Option.some.injEq, exists_eq_left', not_not]
  | hitPoints =>
      cases rule with
      | hitPoints same => exact absurd same notHitPoints
  | slot key level => cases rule

theorem moves_general {card : GeneralCard} (made : (Card.general card).Made)
    (now : Instant) (amount : Int) : (Card.general card).Moves now name old.value amount := by
  have reads := (GeneralCard.setEntry_readsBack made.inOrder now name (old.value + amount)).read name
    (sameUpToAsciiCase_refl _)
  refine ⟨_, _, _, rfl, reads, iff_of_true (movesBy_add amount old.value) ?_⟩
  rintro (⟨resource, has, _, _, _⟩ | _ | _)
  cases resource <;> cases has

/-- Whatever calls were made on a new card, an amount that is added to what a name reads moves it to the right side,
or else the card misleads the sum. -/
theorem Made.moves (made : card.Made) (short : card.Short) (there : card.entryOf? name = some old)
    (now : Instant) (amount : Int) : card.Moves now name old.value amount := by
  cases card with
  | general card => exact moves_general made now amount
  | coc card =>
      by_cases hitPoints : CocCard.synonyms.keyOf name = CocCard.hitPoints
      · exact made.moves_resource .cocHitPoints rfl hitPoints there now amount
      by_cases magicPoints : CocCard.synonyms.keyOf name = CocCard.magicPoints
      · exact made.moves_resource .cocMagicPoints rfl magicPoints there now amount
      exact moves_coc made hitPoints magicPoints there now amount
  | dnd card =>
      by_cases hitPoints : DndCard.synonyms.keyOf name = DndCard.hitPoints
      · exact made.moves_resource .dndHitPoints rfl hitPoints there now amount
      exact moves_dnd made short hitPoints there now amount

end Card

end Tabletop
