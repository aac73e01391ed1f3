/-
This file proves which rolls others may answer: in every channel the ones that were opened last, at most twenty.

A message under which a roll is opened again moves to the end with the new roll and takes no further place, so only a
new message can cost the oldest one its place.
-/

import Tabletop.Opposed
import Tabletop.Proofs.Lists

namespace Tabletop

open Recency

/-- A roll that others may answer from now on, under the message that carries it. -/
structure Opening where
  channel : String
  message : String
  snapshot : Snapshot
deriving DecidableEq

namespace Opening

variable {openings : List Opening} {channel message : String} {snapshot : Snapshot} {opening : Opening}

/-- The messages of a channel under which rolls were opened, each at the place of its last opening. -/
def messagesIn (openings : List Opening) (channel : String) : List String :=
  ((openings.filter (·.channel == channel)).map (·.message)).dedup

/-- The roll was the last one to be opened under the message of the channel. -/
def IsLast (openings : List Opening) (channel message : String) (snapshot : Snapshot) : Prop :=
  ∃ earlier later, openings = earlier ++ ⟨channel, message, snapshot⟩ :: later ∧
    ∀ opening ∈ later, opening.channel = channel → opening.message ≠ message

theorem messagesIn_here (openings : List Opening) (channel message : String) (snapshot : Snapshot) :
    messagesIn (openings ++ [⟨channel, message, snapshot⟩]) channel =
      (messagesIn openings channel).filter (· != message) ++ [message] := by
  have last : [(⟨channel, message, snapshot⟩ : Opening)].filter (·.channel == channel) =
      [⟨channel, message, snapshot⟩] := by simp
  rw [messagesIn, List.filter_append, last, List.map_append, List.map_singleton, dedup_concat, messagesIn]

theorem messagesIn_elsewhere (other : opening.channel ≠ channel) :
    messagesIn (openings ++ [opening]) channel = messagesIn openings channel := by
  have none : [opening].filter (·.channel == channel) = [] := by simpa using other
  rw [messagesIn, List.filter_append, none, List.append_nil, messagesIn]

theorem isLast_concat (openings : List Opening) (channel message : String) (snapshot : Snapshot) :
    IsLast (openings ++ [⟨channel, message, snapshot⟩]) channel message snapshot :=
  ⟨openings, [], rfl, by simp⟩

/-- A roll stays the last one of its message until the next one is opened there. -/
theorem IsLast.append (last : IsLast openings channel message snapshot)
    (apart : opening.channel = channel → opening.message ≠ message) :
    IsLast (openings ++ [opening]) channel message snapshot := by
  obtain ⟨earlier, later, rfl, others⟩ := last
  refine ⟨earlier, later ++ [opening], by rw [List.append_assoc, List.cons_append], fun other member => ?_⟩
  rcases List.mem_append.1 member with old | new
  · exact others other old
  · rw [List.mem_singleton.1 new]
    exact apart

end Opening

namespace OpenRolls

open Opening

variable {openings : List Opening} {entries : List (String × Snapshot)} {rolls : OpenRolls} {channel message : String}
  {snapshot : Snapshot}

/-- The open rolls after some more were opened, one after the other. -/
def insertEach (rolls : OpenRolls) (openings : List Opening) : OpenRolls :=
  openings.foldl (fun rolls opening => rolls.insert opening.channel opening.message opening.snapshot) rolls

theorem insertEach_concat (rolls : OpenRolls) (openings : List Opening) (opening : Opening) :
    rolls.insertEach (openings ++ [opening]) =
      (rolls.insertEach openings).insert opening.channel opening.message opening.snapshot := by
  rw [insertEach, List.foldl_append]
  rfl

theorem list_insert_here (rolls : OpenRolls) (channel message : String) (snapshot : Snapshot) :
    (rolls.insert channel message snapshot).list channel = place (rolls.list channel) message snapshot := by
  rw [insert, list, Std.ExtTreeMap.getD_insert_self]

theorem list_insert_elsewhere {other : String} (apart : other ≠ channel) (message : String) (snapshot : Snapshot) :
    (rolls.insert other message snapshot).list channel = rolls.list channel := by
  rw [insert, list, Std.ExtTreeMap.getD_insert, if_neg (mt Std.LawfulEqCmp.compare_eq_iff_eq.1 apart), list]

/-- The entries are those of the messages under which rolls were opened last, from the oldest to the latest, each with
the roll that was opened last under it. -/
structure HoldsLatest (openings : List Opening) (channel : String) (entries : List (String × Snapshot)) : Prop where
  messages : entries.map (·.1) = (messagesIn openings channel).rtake maxPerChannel
  snapshots : ∀ entry ∈ entries, IsLast openings channel entry.1 entry.2

namespace HoldsLatest

theorem length_eq (latest : HoldsLatest openings channel entries) :
    entries.length = min maxPerChannel (messagesIn openings channel).length := by
  have same := congrArg List.length latest.messages
  rw [List.length_map, List.rtake, List.length_drop] at same
  omega

theorem nodup (latest : HoldsLatest openings channel entries) : (entries.map (·.1)).Nodup := by
  rw [latest.messages]
  exact (List.nodup_dedup _).sublist (List.drop_sublist _ _)

/-- What is placed behind the others costs the oldest of them its place only if there is no room. -/
theorem others (latest : HoldsLatest openings channel entries) (message : String) :
    let others := entries.filter (·.1 != message)
    (if others.length < maxPerChannel then others else others.tail).map (·.1) =
      ((messagesIn openings channel).filter (· != message)).rtake (maxPerChannel - 1) := by
  intro others
  have kept : others.map (·.1) = ((messagesIn openings channel).rtake maxPerChannel).filter (· != message) := by
    rw [← latest.messages, List.filter_map]
    rfl
  have few : others.length ≤ maxPerChannel := by
    refine (List.length_filter_le _ _).trans ?_
    rw [latest.length_eq]
    exact Nat.min_le_left _ _
  have distinct : (messagesIn openings channel).Nodup := List.nodup_dedup _
  rw [← rtake_filter_rtake distinct]
  change _ = (((messagesIn openings channel).rtake maxPerChannel).filter (· != message)).rtake (maxPerChannel - 1)
  rw [← kept]
  split
  · next room =>
    rw [rtake_of_length_le]
    rw [List.length_map]
    exact Nat.le_sub_one_of_lt room
  · next full =>
    have whole : others.length = maxPerChannel := Nat.le_antisymm few (Nat.le_of_not_lt full)
    rw [List.rtake, List.length_map, whole, List.map_tail, ← List.drop_one]
    rfl

/-- A roll that is opened under a message comes last, and its message loses the roll it had. -/
theorem place (latest : HoldsLatest openings channel entries) (message : String) (snapshot : Snapshot) :
    HoldsLatest (openings ++ [⟨channel, message, snapshot⟩]) channel (place entries message snapshot) where
  messages := by
    rw [messagesIn_here, OpenRolls.place, List.map_append, latest.others]
    exact (List.rtake_concat_succ _ _ _).symm
  snapshots entry member := by
    rcases List.mem_append.1 member with old | new
    · have kept : entry ∈ entries.filter (·.1 != message) := by
        split at old
        · exact old
        · exact List.mem_of_mem_tail old
      obtain ⟨there, apart⟩ := List.mem_filter.1 kept
      exact (latest.snapshots entry there).append fun _ same => bne_iff_ne.1 apart same.symm
    · rw [List.mem_singleton.1 new]
      exact isLast_concat openings channel message snapshot

/-- What is opened in other channels leaves the channel's rolls the latest ones. -/
theorem elsewhere (latest : HoldsLatest openings channel entries) {opening : Opening}
    (other : opening.channel ≠ channel) : HoldsLatest (openings ++ [opening]) channel entries where
  messages := by rw [messagesIn_elsewhere other, latest.messages]
  snapshots entry member := (latest.snapshots entry member).append fun same => absurd same other

/-- A message finds exactly the roll that it stands beside. -/
theorem find?_iff (latest : HoldsLatest openings channel (rolls.list channel)) :
    rolls.find? channel message = some snapshot ↔ (message, snapshot) ∈ rolls.list channel := by
  rw [find?, Option.map_eq_some_iff]
  constructor
  · rintro ⟨entry, found, rfl⟩
    have same : entry.1 = message := by simpa using List.find?_some found
    rw [← same]
    exact List.mem_of_find?_eq_some found
  · intro member
    cases found : (rolls.list channel).find? (·.1 == message) with
    | none =>
        have absent := List.find?_eq_none.1 found _ member
        simp at absent
    | some entry =>
        have same : entry.1 = message := by simpa using List.find?_some found
        have equal := List.inj_on_of_nodup_map latest.nodup (List.mem_of_find?_eq_some found) member same
        exact ⟨entry, rfl, congrArg (·.2) equal⟩

end HoldsLatest

/-- Whatever rolls are opened one after the other, every channel holds the latest ones. The induction is on the rolls
that were opened before the last one. -/
theorem insertEach_holdsLatest (openings : List Opening) (channel : String) :
    HoldsLatest openings channel ((insertEach ∅ openings).list channel) := by
  induction openings using List.reverseRecOn with
  | nil => exact ⟨rfl, by simp [insertEach, list]⟩
  | append_singleton openings opening inductionHypothesis =>
      rw [insertEach_concat]
      by_cases here : opening.channel = channel
      · subst here
        rw [list_insert_here]
        exact inductionHypothesis.place opening.message opening.snapshot
      · rw [list_insert_elsewhere here]
        exact inductionHypothesis.elsewhere here

/-- After any rolls were opened, a channel holds exactly those of its last messages, as many as there are and at most
twenty, each with its last roll. A message finds its roll exactly if it is held, and no roll of another channel changes
anything. -/
theorem insertEach_latest (openings : List Opening) (channel : String) :
    let rolls := insertEach ∅ openings
    HoldsLatest openings channel (rolls.list channel) ∧
      (rolls.list channel).length = min maxPerChannel (messagesIn openings channel).length ∧
      (∀ message snapshot,
        rolls.find? channel message = some snapshot ↔ (message, snapshot) ∈ rolls.list channel) ∧
      ∀ other message snapshot, other ≠ channel →
        (rolls.insert other message snapshot).list channel = rolls.list channel := by
  intro rolls
  have latest := insertEach_holdsLatest openings channel
  exact ⟨latest, latest.length_eq, fun _ _ => latest.find?_iff,
    fun other message snapshot apart => list_insert_elsewhere apart message snapshot⟩

end OpenRolls

end Tabletop
