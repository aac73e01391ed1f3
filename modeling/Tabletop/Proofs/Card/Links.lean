/-
This file proves that links stay consistent, whatever calls change them.

In each channel a user holds at most one card and a card has at most one holder. So the card of a user
and the holder of a card are inverse lookups, although each goes through the links in its own way.
-/

import Mathlib.Data.List.Pairwise
import Tabletop.Proofs.Card.Registry

namespace Tabletop

/-! Tables from pairs -/

namespace Table

variable {α : Type}

theorem mem_ofPairs {pairs : List (String × α)} {name : String} :
    name ∈ ofPairs pairs ↔ ∃ value, (name, value) ∈ pairs := by
  have onto (pairs : List (String × α)) (table : Table α) :
      name ∈ pairs.foldl (fun table pair => table.insert pair.1 pair.2) table ↔
        name ∈ table ∨ ∃ value, (name, value) ∈ pairs := by
    induction pairs generalizing table with
    | nil => simp
    | cons pair pairs inductionHypothesis =>
        rw [List.foldl_cons, inductionHypothesis, Std.ExtTreeMap.mem_insert,
          Std.LawfulEqCmp.compare_eq_iff_eq]
        grind
  refine (onto pairs ∅).trans ?_
  simp

/-- The names of a table are in their order. -/
theorem keys_sorted (table : Table α) : table.keys.Pairwise (· < ·) := by
  have ordered := Std.ExtTreeMap.ordered_keys (t := table)
  exact ordered.imp compareOfLessAndEq_eq_lt.1

end Table

/-- The first item that satisfies a test is the only one. -/
theorem find?_eq_some_iff_only {α : Type} {items : List α} {test : α → Bool} {item : α}
    (only : ∀ left ∈ items, ∀ right ∈ items, test left = true → test right = true → left = right) :
    items.find? test = some item ↔ item ∈ items ∧ test item = true := by
  constructor
  · intro found
    exact ⟨List.mem_of_find?_eq_some found, List.find?_some found⟩
  · rintro ⟨member, passes⟩
    cases found : items.find? test with
    | none => exact absurd passes (List.find?_eq_none.1 found item member)
    | some first =>
        have same := only first (List.mem_of_find?_eq_some found) item member
          (List.find?_some found) passes
        rw [same]

/-- Two links do not clash: in one channel they have different users and different cards. -/
def Link.Apart (left right : Link) : Prop :=
  left.channel = right.channel → left.user ≠ right.user ∧ left.card ≠ right.card

instance : Std.Symm Link.Apart where
  symm _ _ apart same := (apart same.symm).imp Ne.symm Ne.symm

namespace Links

/-- No two links clash. -/
def Unique (links : Links) : Prop :=
  links.Pairwise Link.Apart

variable {links : Links} {channel user card : String}

/-! Changes -/

theorem Unique.give (unique : links.Unique) (channel user card : String) :
    (links.give channel user card).Unique := by
  refine List.pairwise_append.2 ⟨unique.filter _, List.pairwise_singleton _ _, ?_⟩
  intro left kept right new same
  cases List.mem_singleton.1 new
  have clear := (List.mem_filter.1 kept).2
  simp only [Bool.not_eq_true', Bool.and_eq_false_imp, beq_iff_eq, Bool.or_eq_false_iff,
    beq_eq_false_iff_ne] at clear
  exact clear same

theorem Unique.take (unique : links.Unique) (channel user : String) :
    (links.take channel user).Unique :=
  unique.filter _

theorem Unique.forget (unique : links.Unique) (card : String) : (links.forget card).Unique :=
  unique.filter _

/-! Lookups -/

theorem Unique.oneCard (unique : links.Unique) {left right : Link} (leftIn : left ∈ links)
    (rightIn : right ∈ links) (channel : left.channel = right.channel)
    (user : left.user = right.user) : left = right := by
  by_contra different
  exact (List.Pairwise.forall unique leftIn rightIn different channel).1 user

theorem Unique.oneHolder (unique : links.Unique) {left right : Link} (leftIn : left ∈ links)
    (rightIn : right ∈ links) (channel : left.channel = right.channel)
    (card : left.card = right.card) : left = right := by
  by_contra different
  exact (List.Pairwise.forall unique leftIn rightIn different channel).2 card

theorem Unique.cardOf?_eq_some (unique : links.Unique) :
    links.cardOf? channel user = some card ↔ ⟨channel, user, card⟩ ∈ links := by
  have only : ∀ left ∈ links, ∀ right ∈ links,
      (left.channel == channel && left.user == user) = true →
      (right.channel == channel && right.user == user) = true → left = right := by
    intro left leftIn right rightIn ofLeft ofRight
    simp only [Bool.and_eq_true, beq_iff_eq] at ofLeft ofRight
    exact unique.oneCard leftIn rightIn (ofLeft.1.trans ofRight.1.symm)
      (ofLeft.2.trans ofRight.2.symm)
  rw [cardOf?, Option.map_eq_some_iff]
  simp only [find?_eq_some_iff_only only, Bool.and_eq_true, beq_iff_eq]
  constructor
  · rintro ⟨link, ⟨member, rfl, rfl⟩, rfl⟩
    exact member
  · intro member
    exact ⟨_, ⟨member, rfl, rfl⟩, rfl⟩

theorem mem_holders : (channel, user) ∈ links.holders card ↔ ⟨channel, user, card⟩ ∈ links := by
  rw [holders, List.mem_mergeSort]
  simp only [List.mem_map, List.mem_filter, beq_iff_eq, Prod.mk.injEq]
  constructor
  · rintro ⟨link, ⟨member, rfl⟩, rfl, rfl⟩
    exact member
  · intro member
    exact ⟨_, ⟨member, rfl⟩, rfl, rfl⟩

/-- The order of holders is transitive. -/
theorem order_trans (first middle last : String × String)
    (before : (first.1 < middle.1 || (first.1 == middle.1 && first.2 ≤ middle.2)) = true)
    (after : (middle.1 < last.1 || (middle.1 == last.1 && middle.2 ≤ last.2)) = true) :
    (first.1 < last.1 || (first.1 == last.1 && first.2 ≤ last.2)) = true := by
  simp only [Bool.or_eq_true, decide_eq_true_eq, Bool.and_eq_true, beq_iff_eq] at before after ⊢
  rcases before with earlier | ⟨same, before⟩
  · rcases after with later | ⟨still, _⟩
    · exact .inl (String.lt_trans earlier later)
    · exact .inl (still ▸ earlier)
  · rcases after with later | ⟨still, after⟩
    · exact .inl (same ▸ later)
    · exact .inr ⟨same.trans still, String.le_trans before after⟩

theorem order_total (left right : String × String) :
    ((left.1 < right.1 || (left.1 == right.1 && left.2 ≤ right.2)) ||
      (right.1 < left.1 || (right.1 == left.1 && right.2 ≤ left.2))) = true := by
  simp only [Bool.or_eq_true, decide_eq_true_eq, Bool.and_eq_true, beq_iff_eq]
  by_cases same : left.1 = right.1
  · rcases String.le_total left.2 right.2 with less | less
    · exact .inl (.inr ⟨same, less⟩)
    · exact .inr (.inr ⟨same.symm, less⟩)
  · rcases String.le_total left.1 right.1 with less | less
    · exact .inl (.inl (String.not_le.1 fun back => same (String.le_antisymm less back)))
    · exact .inr (.inl (String.not_le.1 fun back => same (String.le_antisymm back less)))

/-- The holders of a card are sorted by their channels, and no channel is listed twice. -/
theorem Unique.holders_sorted (unique : links.Unique) (card : String) :
    ((links.holders card).map (·.1)).Pairwise (· < ·) := by
  have channels : ((links.holders card).map (·.1)).Nodup := by
    have sorted : (links.holders card).Perm _ := List.mergeSort_perm _ _
    rw [(sorted.map _).nodup_iff, List.map_map]
    -- Links to the same card that do not clash are in different channels.
    refine List.pairwise_map.2 (List.Pairwise.imp_of_mem ?_ (unique.filter _))
    intro left right leftIn rightIn apart same
    have held := (List.mem_filter.1 leftIn).2
    have also := (List.mem_filter.1 rightIn).2
    exact (apart same).2 ((eq_of_beq held).trans (eq_of_beq also).symm)
  have sorted : (links.holders card).Pairwise fun left right =>
      (left.1 < right.1 || (left.1 == right.1 && left.2 ≤ right.2)) = true :=
    List.pairwise_mergeSort order_trans order_total _
  refine List.pairwise_map.2 ((sorted.and (List.pairwise_map.1 channels)).imp ?_)
  rintro left right ⟨ordered, different⟩
  simp only [Bool.or_eq_true, decide_eq_true_eq, Bool.and_eq_true, beq_iff_eq] at ordered
  exact ordered.resolve_right fun same => different same.1

theorem Unique.holder?_eq_some (unique : links.Unique) :
    links.holder? channel card = some user ↔ ⟨channel, user, card⟩ ∈ links := by
  have only : ∀ left ∈ links.holders card, ∀ right ∈ links.holders card,
      (left.1 == channel) = true → (right.1 == channel) = true → left = right := by
    rintro ⟨_, left⟩ leftIn ⟨_, right⟩ rightIn ofLeft ofRight
    cases eq_of_beq ofLeft
    cases eq_of_beq ofRight
    have same := unique.oneHolder (mem_holders.1 leftIn) (mem_holders.1 rightIn) rfl rfl
    exact congrArg (fun link => (link.channel, link.user)) same
  rw [holder?, Option.map_eq_some_iff]
  simp only [find?_eq_some_iff_only only, beq_iff_eq, ← mem_holders]
  constructor
  · rintro ⟨⟨_, _⟩, ⟨member, rfl⟩, rfl⟩
    exact member
  · intro member
    exact ⟨_, ⟨member, rfl⟩, rfl⟩

theorem mem_byCard {entry : String × List (String × String)} :
    entry ∈ links.byCard ↔
      entry.2 = links.holders entry.1 ∧ ∃ link ∈ links, link.card = entry.1 := by
  obtain ⟨card, holders⟩ := entry
  simp only [byCard, List.mem_map, Std.ExtTreeMap.mem_keys, Table.mem_ofPairs, Prod.mk.injEq]
  grind

theorem byCard_sorted (links : Links) : (links.byCard.map (·.1)).Pairwise (· < ·) := by
  have keys : links.byCard.map (·.1) =
      (Table.ofPairs (links.map fun link => (link.card, ()))).keys := by
    simp only [byCard, List.map_map]
    exact List.map_id _
  rw [keys]
  exact Table.keys_sorted _

/-- Nothing in the links clashes, and all ways to read them agree. -/
structure Consistent (links : Links) : Prop where
  oneCard : ∀ left ∈ links, ∀ right ∈ links,
    left.channel = right.channel → left.user = right.user → left = right
  oneHolder : ∀ left ∈ links, ∀ right ∈ links,
    left.channel = right.channel → left.card = right.card → left = right
  cards : ∀ channel user card,
    links.cardOf? channel user = some card ↔ ⟨channel, user, card⟩ ∈ links
  inverse : ∀ channel user card,
    links.holder? channel card = some user ↔ links.cardOf? channel user = some card
  listed : ∀ channel user card,
    (∃ holders, (card, holders) ∈ links.byCard ∧ (channel, user) ∈ holders) ↔
      links.cardOf? channel user = some card
  inhabited : ∀ entry ∈ links.byCard, entry.2 ≠ []
  cardsSorted : (links.byCard.map (·.1)).Pairwise (· < ·)
  holdersSorted : ∀ entry ∈ links.byCard, (entry.2.map (·.1)).Pairwise (· < ·)

theorem Unique.consistent (unique : links.Unique) : links.Consistent where
  oneCard _ leftIn _ rightIn := unique.oneCard leftIn rightIn
  oneHolder _ leftIn _ rightIn := unique.oneHolder leftIn rightIn
  cards _ _ _ := unique.cardOf?_eq_some
  inverse _ _ _ := unique.holder?_eq_some.trans unique.cardOf?_eq_some.symm
  listed channel user card := by
    rw [unique.cardOf?_eq_some, ← mem_holders]
    constructor
    · rintro ⟨holders, member, held⟩
      obtain ⟨same, _⟩ := mem_byCard.1 member
      exact same ▸ held
    · intro held
      exact ⟨_, mem_byCard.2 ⟨rfl, _, mem_holders.1 held, rfl⟩, held⟩
  inhabited entry member := by
    obtain ⟨same, link, linked, held⟩ := mem_byCard.1 member
    have holder : (link.channel, link.user) ∈ links.holders entry.1 := mem_holders.2 (held ▸ linked)
    rw [same]
    exact List.ne_nil_of_mem holder
  cardsSorted := links.byCard_sorted
  holdersSorted entry member := by
    rw [(mem_byCard.1 member).1]
    exact unique.holders_sorted entry.1

/-- No link leads to a card, whichever way the links are read. -/
structure Free (links : Links) (card : String) : Prop where
  held : ∀ channel user, links.cardOf? channel user ≠ some card
  holder : ∀ channel, links.holder? channel card = none
  listed : ∀ entry ∈ links.byCard, entry.1 ≠ card

theorem Unique.forget_free (unique : links.Unique) (card : String) : (links.forget card).Free card := by
  have kept := unique.forget card
  have gone (channel user : String) : ⟨channel, user, card⟩ ∉ links.forget card := by
    intro member
    exact absurd rfl (bne_iff_ne.1 (List.mem_filter.1 member).2)
  constructor
  · intro channel user held
    exact gone channel user (kept.cardOf?_eq_some.1 held)
  · intro channel
    rw [Option.eq_none_iff_forall_ne_some]
    intro user held
    exact gone channel user (kept.holder?_eq_some.1 held)
  · rintro entry member rfl
    obtain ⟨_, link, linked, same⟩ := mem_byCard.1 member
    exact gone link.channel link.user (same ▸ linked)

end Links

/-! Calls -/

/-- A call that changes which cards there are or who holds them. -/
inductive RegistryCall where
  | register (card : Card)
  | unregister (name : String)
  | link (channel user : String) (card : Option String)

namespace Registry

variable {registry : Registry}

def call (registry : Registry) : RegistryCall → Registry
  | .register card => registry.register card
  | .unregister name => registry.unregister name
  | .link channel user card => registry.link channel user card

/-- Dropping a registered card drops all links to it. -/
theorem links_unregister {name : String} (registered : registry.contains name = true) :
    (registry.unregister name).links = registry.links.forget name := by
  rw [unregister]
  exact congrArg links (if_pos registered)

/-- Makes calls one after the other. -/
def callEach (registry : Registry) (calls : List RegistryCall) : Registry :=
  calls.foldl call registry

theorem call_linksUnique (unique : registry.links.Unique) (next : RegistryCall) :
    (registry.call next).links.Unique := by
  cases next with
  | register card => exact unique
  | unregister name =>
      change (registry.unregister name).links.Unique
      unfold unregister
      split
      · exact unique.forget name
      · exact unique
  | link channel user card =>
      cases card with
      | some card => exact unique.give channel user card
      | none => exact unique.take channel user

theorem callEach_linksUnique (unique : registry.links.Unique) (calls : List RegistryCall) :
    (registry.callEach calls).links.Unique := by
  induction calls generalizing registry with
  | nil => exact unique
  | cons next calls inductionHypothesis => exact inductionHypothesis (call_linksUnique unique next)

theorem empty_linksUnique : empty.links.Unique :=
  List.Pairwise.nil

/-- After a link call the user holds the card that was given, or none. -/
theorem cardOf?_link (channel user : String) (card : Option String) :
    (registry.link channel user card).links.cardOf? channel user = card := by
  cases card with
  | some card => exact Links.cardOf?_give
  | none =>
      have gone : List.find? (fun link => link.channel == channel && link.user == user)
          (registry.links.take channel user) = Option.none := by
        rw [List.find?_eq_none]
        intro link member own
        simp only [Bool.and_eq_true, beq_iff_eq] at own
        exact (Links.mem_take.1 member).2 own
      exact congrArg (Option.map Link.card) gone

/-- Whatever calls were made on an empty registry, its links are consistent. A further link call gives
the user the card, and at most the user's other card and the card's other holder lose a link. No link to
a registered card is left once the card is dropped. -/
theorem callEach_linksConsistent (calls : List RegistryCall) :
    (empty.callEach calls).links.Consistent ∧
      (∀ channel user card,
        ((empty.callEach calls).link channel user card).links.cardOf? channel user = card ∧
          Links.Relinks channel user (empty.callEach calls).links
            ((empty.callEach calls).link channel user card).links) ∧
      ∀ name, (empty.callEach calls).contains name = true →
        ((empty.callEach calls).unregister name).links.Free name := by
  have unique := callEach_linksUnique empty_linksUnique calls
  refine ⟨unique.consistent, ?_, fun name registered => ?_⟩
  · intro channel user card
    exact ⟨cardOf?_link channel user card, link_relinks channel user card⟩
  · rw [links_unregister registered]
    exact unique.forget_free name

end Registry

end Tabletop
