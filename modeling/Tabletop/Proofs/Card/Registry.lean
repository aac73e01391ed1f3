/-
This file proves what the registry and the links keep when cards and their holders change.
-/

import Tabletop.Card.Registry

namespace Tabletop

namespace Links

variable {links : Links} {channel user card : String} {link : Link}

theorem mem_give : link ∈ links.give channel user card ↔
    (link ∈ links ∧ ¬(link.channel = channel ∧ (link.user = user ∨ link.card = card))) ∨
      link = ⟨channel, user, card⟩ := by
  simp only [give, List.mem_append, List.mem_filter, List.mem_singleton, Bool.not_eq_true',
    Bool.and_eq_false_imp, Bool.or_eq_false_iff, beq_iff_eq, beq_eq_false_iff_ne, not_and, not_or,
    ne_eq]

theorem mem_take : link ∈ links.take channel user ↔
    link ∈ links ∧ ¬(link.channel = channel ∧ link.user = user) := by
  simp only [take, List.mem_filter, Bool.not_eq_true', Bool.and_eq_false_imp, beq_iff_eq,
    beq_eq_false_iff_ne, not_and, ne_eq]

theorem cardOf?_give : (links.give channel user card).cardOf? channel user = some card := by
  have gone : (links.filter fun link =>
      !(link.channel == channel && (link.user == user || link.card == card))).find?
        (fun link => link.channel == channel && link.user == user) = none := by
    rw [List.find?_eq_none]
    intro link member
    simp only [List.mem_filter] at member
    grind
  rw [cardOf?, give, List.find?_append, gone]
  simp

/-- The first item that satisfies a test stays the first one if it is kept. -/
theorem find?_filter_of_kept {items : List Link} {test keeps : Link → Bool}
    (stays : ∀ item, items.find? test = some item → keeps item = true) :
    (items.filter keeps).find? test = items.find? test := by
  induction items with
  | nil => rfl
  | cons first others inductionHypothesis =>
      by_cases own : test first = true
      · rw [List.filter_cons_of_pos (stays first (List.find?_cons_of_pos own)),
          List.find?_cons_of_pos own, List.find?_cons_of_pos own]
      · rw [List.find?_cons_of_neg own] at stays ⊢
        rw [← inductionHypothesis stays]
        by_cases kept : keeps first = true
        · rw [List.filter_cons_of_pos kept, List.find?_cons_of_neg own]
        · rw [List.filter_cons_of_neg kept]

/-- A user keeps the card if the link to it stays. -/
theorem cardOf?_filter {keeps : Link → Bool} (stays : ∀ link,
    link.channel = channel → link.user = user →
      links.cardOf? channel user = some link.card → keeps link = true) :
    Links.cardOf? (links.filter keeps) channel user = links.cardOf? channel user := by
  rw [cardOf?, cardOf?, find?_filter_of_kept]
  intro link found
  have own := List.find?_some found
  simp only [Bool.and_eq_true, beq_iff_eq] at own
  exact stays link own.1 own.2 (by rw [cardOf?, found, Option.map_some])

/-- Links changed for one user in one channel. Others lose a link at most there, to the card that the
user holds afterwards. -/
structure Relinks (channel user : String) (before after : Links) : Prop where
  gained : ∀ link ∈ after, link ∉ before → link.channel = channel ∧ link.user = user
  lost : ∀ link ∈ before, link ∉ after →
    link.channel = channel ∧ (link.user = user ∨ after.cardOf? channel user = some link.card)
  others : ∀ place holder, after.cardOf? place holder ≠ before.cardOf? place holder →
    place = channel ∧ (holder = user ∨
      ∃ card, before.cardOf? channel holder = some card ∧ after.cardOf? channel user = some card)

theorem Relinks.same (channel user : String) (links : Links) : Relinks channel user links links where
  gained _ member absent := absurd member absent
  lost _ member absent := absurd member absent
  others _ _ other := absurd rfl other

theorem take_relinks (links : Links) (channel user : String) :
    Relinks channel user links (links.take channel user) where
  gained link member absent := absurd (mem_take.1 member).1 absent
  lost link member absent := by
    rw [mem_take] at absent
    have own : link.channel = channel ∧ link.user = user := by grind
    exact ⟨own.1, .inl own.2⟩
  others place holder other := by
    by_cases own : place = channel ∧ holder = user
    · exact ⟨own.1, .inl own.2⟩
    · refine absurd (cardOf?_filter ?_) other
      intro link inPlace ofHolder _
      grind

theorem give_relinks (links : Links) (channel user card : String) :
    Relinks channel user links (links.give channel user card) where
  gained link member absent := by
    rcases mem_give.1 member with kept | rfl
    · exact absurd kept.1 absent
    · exact ⟨rfl, rfl⟩
  lost link member absent := by
    rw [mem_give] at absent
    have taken : link.channel = channel ∧ (link.user = user ∨ link.card = card) := by grind
    refine ⟨taken.1, taken.2.imp_right fun held => ?_⟩
    rw [cardOf?_give, held]
  others place holder other := by
    by_cases own : place = channel ∧ holder = user
    · exact ⟨own.1, .inl own.2⟩
    by_cases taken : place = channel ∧ links.cardOf? channel holder = some card
    · exact ⟨taken.1, .inr ⟨card, taken.2, cardOf?_give⟩⟩
    · -- The new link is not the holder's, and the link to the card that the holder had stays.
      refine absurd ?_ other
      have kept : Links.cardOf? (links.filter fun link =>
          !(link.channel == channel && (link.user == user || link.card == card))) place holder =
            links.cardOf? place holder := by
        apply cardOf?_filter
        intro link inPlace ofHolder held
        grind
      have foreign : [Link.mk channel user card].find?
          (fun link => link.channel == place && link.user == holder) = none := by
        rw [List.find?_eq_none]
        grind
      rw [← kept, cardOf?, cardOf?, give, List.find?_append, foreign, Option.or_none]

end Links

namespace Registry

variable {registry : Registry}

theorem get?_register (card : Card) (name : String) :
    (registry.register card).get? name = if card.name = name then some card else registry.get? name :=
  Table.get_insert registry.cards card.name name card

theorem get?_unregister (name other : String) :
    (registry.unregister name).get? other = if name = other then none else registry.get? other := by
  unfold unregister
  split
  · exact Table.get_erase registry.cards name other
  · next absent =>
    rw [Std.ExtTreeMap.contains_iff_mem] at absent
    split
    · next same =>
      rw [← same]
      exact Std.ExtTreeMap.getElem?_eq_none absent
    · rfl

@[simp] theorem get?_link (channel user : String) (card : Option String) (name : String) :
    (registry.link channel user card).get? name = registry.get? name := by
  cases card <;> rfl

theorem link_relinks (channel user : String) (card : Option String) :
    Links.Relinks channel user registry.links (registry.link channel user card).links := by
  cases card with
  | some card => exact Links.give_relinks _ _ _ _
  | none => exact Links.take_relinks _ _ _

@[simp] theorem get?_withoutChanges (name : String) :
    registry.withoutChanges.get? name = (registry.get? name).map Card.withoutChanges :=
  Std.ExtTreeMap.getElem?_map

theorem contains_iff (name : String) : registry.contains name = true ↔ registry.get? name ≠ none := by
  rw [contains, get?, Std.ExtTreeMap.contains_eq_isSome_getElem?, Option.isSome_iff_ne_none]

/-- A card that keeps its name is put back under it. -/
theorem update_eq_register {name : String} {before after : Card}
    (kept : registry.get? name = some before) (named : after.name = before.name) :
    registry.update name after = registry.register after := by
  rw [update, if_pos (named.trans (registry.named name before kept))]

end Registry

end Tabletop
