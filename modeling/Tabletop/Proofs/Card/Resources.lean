/-
This file proves when resources stay within their limits.

A resource is bounded whenever it is written. A write of what its limit follows from leaves the resource
as it is, also if it is then above the limit.
-/

import Mathlib.Data.List.Induction
import Tabletop.Proofs.Card.Runs

namespace Tabletop

namespace CocCard

variable {card : CocCard} {now : Instant} {input key name : String} {value : Int}

theorem setEntry_hitPoints (named : synonyms.keyOf input = hitPoints) :
    (card.setEntry now input value).1.basic[hitPoints]? = some (bounded card.maxHitPoints? value) ∧
      (card.setEntry now input value).1.maxHitPoints? = card.maxHitPoints? := by
  have routed : card.setEntry now input value = card.setHitPoints now value := by
    unfold setEntry
    rw [named]
    rfl
  rw [routed]
  exact ⟨(Table.get_insert _ _ _ _).trans (if_pos rfl), rfl⟩

theorem setEntry_magicPoints (named : synonyms.keyOf input = magicPoints) :
    (card.setEntry now input value).1.basic[magicPoints]? =
        some (bounded card.maxMagicPoints? value) ∧
      (card.setEntry now input value).1.maxMagicPoints? = card.maxMagicPoints? := by
  have routed : card.setEntry now input value = card.setMagicPoints now value := by
    unfold setEntry
    rw [named]
    rfl
  rw [routed]
  exact ⟨(Table.get_insert _ _ _ _).trans (if_pos rfl), rfl⟩

/-- Writing a number leaves the resources under other keys as they are, except sanity. -/
theorem EntryRule.basic_other {result : CocCard × Bool} (rule : EntryRule card now value key result)
    (other : key ≠ name) (notSanity : name ≠ CocCard.sanity) :
    result.1.basic[name]? = card.basic[name]? := by
  have put (key : String) (number : Int) (other : key ≠ name) :
      (card.put now .basic key number).1.basic[name]? = card.basic[name]? := by
    change (card.basic.insert key number)[name]? = _
    rw [Table.get_insert, if_neg other]
  cases rule with
  | prop prop => rfl
  | hitPoints => exact put _ _ other
  | magicPoints => exact put _ _ other
  | sanity => exact put _ _ other
  | luck => exact put _ _ other
  | skill notProp notBasic notMythos => rfl
  | mythos =>
      unfold setMythos
      dsimp only
      split
      · split
        · change (card.basic.insert CocCard.sanity _)[name]? = _
          rw [Table.get_insert, if_neg notSanity.symm]
        · rfl
      · rfl

end CocCard

namespace DndCard

variable {card after : DndCard} {now : Instant} {input key name : String} {value : Int}

theorem setEntry_hitPoints {changed : Bool} (named : synonyms.keyOf input = hitPoints)
    (done : card.setEntry now input value = .ok (after, changed)) :
    after.basic[hitPoints]? = some (CocCard.bounded card.basic[maxHitPoints]? value) ∧
      after.basic[maxHitPoints]? = card.basic[maxHitPoints]? := by
  have routed : card.setEntry now input value = .ok (card.setHitPoints now value) := by
    unfold setEntry
    rw [named]
    rfl
  rw [routed] at done
  obtain rfl : (card.setHitPoints now value).1 = after := congrArg Prod.fst (Except.ok.inj done)
  exact ⟨(Table.get_insert _ _ _ _).trans (if_pos rfl),
    (Table.get_insert _ _ _ _).trans (if_neg (by decide))⟩

/-- Writing a number leaves the resources under other keys as they are. -/
theorem EntryRule.basic_other {result : Except Fault (DndCard × Bool)} {changed : Bool}
    (rule : EntryRule card now value key result) (done : result = .ok (after, changed))
    (other : key ≠ name) : after.basic[name]? = card.basic[name]? := by
  have put (number : Int) : (card.basic.insert key number)[name]? = card.basic[name]? := by
    rw [Table.get_insert, if_neg other]
  cases rule with
  | prop prop =>
      cases done
      rfl
  | skill skill =>
      cases done
      rfl
  | hitPoints =>
      cases done
      exact put _
  | basic basic =>
      cases done
      exact put _
  | item notProp notSkill notHitPoints notBasic =>
      cases done
      rfl
  | saving names =>
      unfold setSaving at done
      dsimp only at done
      split at done
      · cases done
        rfl
      · cases done
        rfl
  | slot names kept =>
      unfold setSlot at done
      split at done
      · cases done
      · cases done
        rfl

end DndCard

/-- A number on a card that follows other numbers as its limit. -/
inductive Resource where
  | cocHitPoints
  | cocMagicPoints
  | dndHitPoints
deriving DecidableEq, Repr

namespace Resource

/-- The game system whose cards have the resource. -/
def kind : Resource → CardKind
  | .cocHitPoints => .coc
  | .cocMagicPoints => .coc
  | .dndHitPoints => .dnd

/-- What is stored of a resource. -/
def stored? : Resource → Card → Option Int
  | .cocHitPoints, .coc card => card.basic[CocCard.hitPoints]?
  | .cocMagicPoints, .coc card => card.basic[CocCard.magicPoints]?
  | .dndHitPoints, .dnd card => card.basic[DndCard.hitPoints]?
  | _, _ => none

/-- The limit of a resource as the card works it out, if the numbers that it follows from are stored. -/
def limit? : Resource → Card → Option Int
  | .cocHitPoints, .coc card => card.maxHitPoints?
  | .cocMagicPoints, .coc card => card.maxMagicPoints?
  | .dndHitPoints, .dnd card => card.basic[DndCard.maxHitPoints]?
  | _, _ => none

/-- The text is one of the names of the resource. -/
def Named : Resource → String → Prop
  | .cocHitPoints, input => CocCard.synonyms.keyOf input = CocCard.hitPoints
  | .cocMagicPoints, input => CocCard.synonyms.keyOf input = CocCard.magicPoints
  | .dndHitPoints, input => DndCard.synonyms.keyOf input = DndCard.hitPoints

/-- The call writes the resource itself. -/
def WrittenBy (resource : Resource) (call : CardWrite) : Prop :=
  ∃ input number, call = .entry input number ∧ resource.Named input

/-- What is stored is at most the limit. A negative limit counts as zero. -/
def Within (resource : Resource) (card : Card) : Prop :=
  ∀ value limit, resource.stored? card = some value → resource.limit? card = some limit →
    value ≤ max 0 limit

/-- The limit was neither set nor lowered from one card to another. -/
def LimitKept (resource : Resource) (earlier later : Card) : Prop :=
  ∀ limit, resource.limit? later = some limit →
    ∃ old, resource.limit? earlier = some old ∧ old ≤ limit

variable {resource : Resource} {card after first last : Card} {now : Instant} {call : CardWrite}
  {input : String} {number : Int} {changed : Bool} {calls : List (Instant × CardWrite)}

/-- Writing a resource stores the number, brought within the limit. -/
theorem stored?_of_named (has : card.kind = resource.kind)
    (written : card.write now (.entry input number) = .ok (after, changed))
    (named : resource.Named input) :
    resource.stored? after = some (CocCard.bounded (resource.limit? after) number) := by
  cases Card.write_entry written with
  | general card => cases resource <;> cases has
  | coc card =>
      cases resource with
      | cocHitPoints =>
          obtain ⟨bounded, same⟩ := CocCard.setEntry_hitPoints named
          exact bounded.trans (congrArg (fun limit => some (CocCard.bounded limit number)) same.symm)
      | cocMagicPoints =>
          obtain ⟨bounded, same⟩ := CocCard.setEntry_magicPoints named
          exact bounded.trans (congrArg (fun limit => some (CocCard.bounded limit number)) same.symm)
      | dndHitPoints => cases has
  | dnd done =>
      cases resource with
      | dndHitPoints =>
          obtain ⟨bounded, same⟩ := DndCard.setEntry_hitPoints named done
          exact bounded.trans (congrArg (fun limit => some (CocCard.bounded limit number)) same.symm)
      | cocHitPoints => cases has
      | cocMagicPoints => cases has

/-- A call that does not write a resource leaves it as it is. -/
theorem stored?_of_other (written : card.write now call = .ok (after, changed))
    (other : ¬resource.WrittenBy call) : resource.stored? after = resource.stored? card := by
  by_cases entry : ∃ input value, call = .entry input value
  · obtain ⟨input, value, rfl⟩ := entry
    have unnamed : ¬resource.Named input := fun named => other ⟨input, value, rfl, named⟩
    cases Card.write_entry written with
    | general card => cases resource <;> rfl
    | coc card =>
        have rule := card.setEntry_rule now input value
        cases resource with
        | cocHitPoints => exact rule.basic_other unnamed (by decide)
        | cocMagicPoints => exact rule.basic_other unnamed (by decide)
        | dndHitPoints => rfl
    | @dnd card _ _ done =>
        have rule := card.setEntry_rule now input value
        cases resource with
        | cocHitPoints => rfl
        | cocMagicPoints => rfl
        | dndHitPoints => exact rule.basic_other done unnamed
  · cases Card.write_sameNumbers written fun input value is => entry ⟨input, value, is⟩ with
    | core card core => cases resource <;> cases card <;> rfl
    | marks card core marks => cases resource <;> rfl

theorem stored?_new (resource : Resource) (kind : CardKind) (name : String) (now : Instant) :
    resource.stored? (Card.new kind name now) = none := by
  cases resource <;> cases kind <;> simp [stored?, Card.new, CocCard.new, DndCard.new]

theorem kind_new (kind : CardKind) (name : String) (now : Instant) :
    (Card.new kind name now).kind = kind := by
  cases kind <;> rfl

/-- The last of some calls on a first card that writes a resource writes this number and leaves this
card. -/
def LastWritten (resource : Resource) (first : Card) (calls : List (Instant × CardWrite))
    (number : Int) (written : Card) : Prop :=
  ∃ earlier now input later, calls = earlier ++ (now, .entry input number) :: later ∧
    resource.Named input ∧ (∀ since ∈ later, ¬resource.WrittenBy since.2) ∧
    first.writeEach (earlier ++ [(now, .entry input number)]) = .ok written

/-- A resource is stored exactly if a call writes it, and then as the last one did. The induction adds
a call at the end. -/
theorem stored?_writeEach (has : first.kind = resource.kind) (missing : resource.stored? first = none)
    (done : first.writeEach calls = .ok last) :
    (resource.stored? last = none ∧ ∀ timed ∈ calls, ¬resource.WrittenBy timed.2) ∨
      ∃ number written, resource.LastWritten first calls number written ∧
        resource.stored? last = some (CocCard.bounded (resource.limit? written) number) := by
  induction calls using List.reverseRecOn generalizing last with
  | nil =>
      cases done
      exact .inl ⟨missing, by simp⟩
  | append_singleton calls timed inductionHypothesis =>
      obtain ⟨middle, changed, before, written⟩ := Card.writeEach_append_singleton.1 done
      by_cases own : resource.WrittenBy timed.2
      · obtain ⟨now, call⟩ := timed
        obtain ⟨input, number, rfl, named⟩ := own
        have kind := (Card.writeEach_kind before).trans has
        exact .inr ⟨number, last, ⟨calls, now, input, [], rfl, named, by simp, done⟩,
          stored?_of_named kind written named⟩
      · -- The call is one of those since the last write.
        rw [stored?_of_other written own]
        have still : ∀ since ∈ [timed], ¬resource.WrittenBy since.2 := List.forall_mem_singleton.2 own
        rcases inductionHypothesis before with ⟨absent, unwritten⟩ | ⟨number, kept, lastOne, stored⟩
        · exact .inl ⟨absent, List.forall_mem_append.2 ⟨unwritten, still⟩⟩
        · obtain ⟨earlier, now, input, later, same, named, since, made⟩ := lastOne
          have longer : calls ++ [timed] =
              earlier ++ (now, .entry input number) :: (later ++ [timed]) := by
            rw [same, List.append_assoc, List.cons_append]
          exact .inr ⟨number, kept, ⟨earlier, now, input, later ++ [timed], longer, named,
            List.forall_mem_append.2 ⟨since, still⟩, made⟩, stored⟩

/-- After calls on a new card, a resource is what the last write of it stored: the number, brought
within the limit that held then. So it is within its limit, unless that was set or lowered since. -/
theorem writeEach_within (resource : Resource) (name : String) (created : Instant)
    (calls : List (Instant × CardWrite)) :
    ∃ last, (Card.new resource.kind name created).writeEach calls = .ok last ∧
      ((resource.stored? last = none ∧ ∀ timed ∈ calls, ¬resource.WrittenBy timed.2) ∨
        ∃ number written,
          resource.LastWritten (.new resource.kind name created) calls number written ∧
          resource.stored? last = some (CocCard.bounded (resource.limit? written) number) ∧
          (resource.LimitKept written last → resource.Within last)) := by
  have step (card : Card) (now : Instant) (call : CardWrite) (room : card.SlotsOpen) :
      ∃ after changed, card.write now call = .ok (after, changed) ∧ after.SlotsOpen := by
    obtain ⟨after, changed, written⟩ := Card.write_ok now call room
    exact ⟨after, changed, written, Card.write_slotsOpen room written⟩
  obtain ⟨last, done, -⟩ :=
    Card.writeEach_total step calls (Card.new_slotsOpen resource.kind name created)
  refine ⟨last, done, ?_⟩
  rcases stored?_writeEach (kind_new _ name created) (stored?_new _ _ name created) done with
    absent | ⟨number, written, own, stored⟩
  · exact .inl absent
  · refine .inr ⟨number, written, own, stored, fun kept value limit stands limited => ?_⟩
    obtain ⟨old, was, notLess⟩ := kept limit limited
    have bound := CocCard.bounded_le was number
    rw [stored] at stands
    cases stands
    omega

/-- Hit points stay as they are when the constitution falls, although they are then above their
limit. -/
theorem writeEach_within_lowered :
    ∃ card, (Card.new .coc "Maca" .epoch).writeEach
        [(.epoch, .entry "体质" 100), (.epoch, .entry "体型" 100), (.epoch, .entry "hp" 20),
          (.epoch, .entry "体质" 10)] = .ok card ∧
      cocHitPoints.stored? card = some 20 ∧ cocHitPoints.limit? card = some 11 ∧
      ¬cocHitPoints.Within card := by
  obtain ⟨card, done, numbers⟩ := exists_of_any
    ((Card.new .coc "Maca" .epoch).writeEach
      [(.epoch, .entry "体质" 100), (.epoch, .entry "体型" 100), (.epoch, .entry "hp" 20),
        (.epoch, .entry "体质" 10)])
    (fun card => decide (cocHitPoints.stored? card = some 20 ∧ cocHitPoints.limit? card = some 11))
    (by decide +kernel)
  obtain ⟨stands, limited⟩ := of_decide_eq_true numbers
  refine ⟨card, done, stands, limited, fun within => ?_⟩
  have bound := within 20 11 stands limited
  omega

end Resource

end Tabletop
