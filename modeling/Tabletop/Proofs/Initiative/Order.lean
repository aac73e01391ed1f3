/-
This file proves what the initiative lists of channels hold, whatever calls were made, and in which order.

A contender is known by its kind and id, but dropped by its name. So who stands on a list is told by the calls behind
the last one that put a contender there, and contenders with equal numbers stand in the order of these last calls.
-/

import Tabletop.Roll.Initiative
import Mathlib.Data.List.Induction

namespace Tabletop

namespace Contender

variable {first middle last left right : Contender} {contenders : List Contender}

theorem precedes_iff : left.precedes right = true ↔
    right.first < left.first ∨ left.first = right.first ∧ right.second ≤ left.second := by
  simp [precedes]

theorem precedes_trans (first middle last : Contender) (before : first.precedes middle = true)
    (after : middle.precedes last = true) : first.precedes last = true := by
  rw [precedes_iff] at before after ⊢
  omega

theorem precedes_total (left right : Contender) : (left.precedes right || right.precedes left) = true := by
  rw [Bool.or_eq_true, precedes_iff, precedes_iff]
  omega

/-- Contenders with equal numbers are those that may stand on either side of each other. -/
theorem ties_iff : (left.precedes right = true ∧ right.precedes left = true) ↔
    left.first = right.first ∧ left.second = right.second := by
  rw [precedes_iff, precedes_iff]
  omega

/-- Sorting leaves contenders with equal numbers among themselves as they were. -/
theorem filter_mergeSort (contender : Contender) (contenders : List Contender) :
    let ties := fun other : Contender => contender.precedes other && other.precedes contender
    (contenders.mergeSort precedes).filter ties = contenders.filter ties := by
  intro ties
  have tied : (contenders.filter ties).Pairwise fun left right => left.precedes right = true := by
    refine List.pairwise_of_forall_mem_list fun left leftIn right rightIn => ?_
    have before := (Bool.and_eq_true_iff.1 (List.mem_filter.1 leftIn).2).2
    have after := (Bool.and_eq_true_iff.1 (List.mem_filter.1 rightIn).2).1
    exact precedes_trans left contender right before after
  have stays := (List.sublist_mergeSort precedes_trans precedes_total tied List.filter_sublist).filter ties
  rw [List.filter_filter] at stays
  have counted := ((List.mergeSort_perm contenders precedes).filter ties).length_eq
  simp only [Bool.and_self] at stays
  exact (stays.eq_of_length counted.symm).symm

/-- What holds of contenders in their order still holds after sorting of those with equal numbers. -/
theorem pairwise_mergeSort {relation : Contender → Contender → Prop} (related : contenders.Pairwise relation) :
    (contenders.mergeSort precedes).Pairwise fun left right =>
      left.precedes right = true ∧ (right.precedes left = true → relation left right) := by
  have sorted := List.pairwise_mergeSort precedes_trans precedes_total contenders
  refine sorted.and (List.pairwise_iff_forall_sublist.2 fun {left right} stand back => ?_)
  have ahead := List.pairwise_iff_forall_sublist.1 sorted stand
  have own : left.precedes left = true := precedes_trans left right left ahead back
  have among := stand.filter fun other => left.precedes other && other.precedes left
  rw [filter_mergeSort left contenders] at among
  simp only [List.filter_cons, List.filter_nil, own, ahead, back, Bool.and_self, if_true] at among
  exact List.pairwise_iff_forall_sublist.1 related (among.trans List.filter_sublist)

end Contender

/-- A call that changes the list of a channel. -/
inductive InitiativeCall where
  | upsert (channel : String) (contender : Contender)
  | remove (channel : String) (names : List String)
  | clear (channel : String)
deriving DecidableEq, Repr

namespace InitiativeCall

def channel : InitiativeCall → String
  | .upsert channel _ => channel
  | .remove channel _ => channel
  | .clear channel => channel

/-- The call takes a contender off the list of a channel: it puts the next one with the same kind and id there, it
names the contender, or it clears the list. -/
def Drops (channel : String) (contender : Contender) : InitiativeCall → Prop
  | .upsert other next => other = channel ∧ next.kind = contender.kind ∧ next.id = contender.id
  | .remove other names => other = channel ∧ contender.name ∈ names
  | .clear other => other = channel

/-- The contender was put on the list of a channel by the call at a place, and no later call took it off. -/
def StandsSince (calls : List InitiativeCall) (channel : String) (contender : Contender) (place : Nat) : Prop :=
  calls[place]? = some (.upsert channel contender) ∧ ∀ call ∈ calls.drop (place + 1), ¬call.Drops channel contender

variable {calls : List InitiativeCall} {call : InitiativeCall} {channel : String} {contender : Contender} {place : Nat}

/-- A call takes contenders off the list of its own channel alone. -/
theorem Drops.channel_eq (drops : call.Drops channel contender) : call.channel = channel := by
  cases call with
  | upsert here next => exact drops.1
  | remove here names => exact drops.1
  | clear here => exact drops

theorem StandsSince.lt_length (stands : StandsSince calls channel contender place) : place < calls.length :=
  (List.getElem?_eq_some_iff.1 stands.1).1

/-- One more call lets a contender stand if it puts it there, or does not drop it. -/
theorem standsSince_concat : StandsSince (calls ++ [call]) channel contender place ↔
    StandsSince calls channel contender place ∧ ¬call.Drops channel contender ∨
      place = calls.length ∧ call = .upsert channel contender := by
  rcases Nat.lt_trichotomy place calls.length with earlier | rfl | beyond
  · have later : (calls ++ [call]).drop (place + 1) = calls.drop (place + 1) ++ [call] :=
      List.drop_append_of_le_length earlier
    rw [StandsSince, StandsSince, List.getElem?_append_left earlier, later, List.forall_mem_append,
      List.forall_mem_singleton, and_assoc, or_iff_left fun last => absurd last.1 (Nat.ne_of_lt earlier)]
  · have behind : (calls ++ [call]).drop (calls.length + 1) = [] := List.drop_eq_nil_of_le (by simp)
    rw [StandsSince, List.getElem?_concat_length, behind, Option.some.injEq]
    constructor
    · exact fun put => .inr ⟨rfl, put.1⟩
    · rintro (⟨stands, _⟩ | ⟨_, put⟩)
      · exact absurd stands.lt_length (Nat.lt_irrefl _)
      · exact ⟨put, by simp⟩
  · have none : (calls ++ [call])[place]? = none := List.getElem?_eq_none (by rw [List.length_append]; exact beyond)
    constructor
    · intro stands
      rw [StandsSince, none] at stands
      cases stands.1
    · rintro (⟨stands, _⟩ | ⟨last, _⟩)
      · exact absurd stands.lt_length (Nat.not_lt.2 (Nat.le_of_lt beyond))
      · exact absurd last (Nat.ne_of_gt beyond)

/-- Who stands on the list after one more call. -/
theorem stands_concat : (∃ place, StandsSince (calls ++ [call]) channel contender place) ↔
    (∃ place, StandsSince calls channel contender place) ∧ ¬call.Drops channel contender ∨
      call = .upsert channel contender := by
  simp only [standsSince_concat, exists_or, exists_and_right, exists_eq, true_and]

/-- The left contender stands in front of the right one: its numbers are higher, or they are equal and it was put on
the list earlier. -/
def Outranks (calls : List InitiativeCall) (channel : String) (left right : Contender) : Prop :=
  right.first < left.first ∨ left.first = right.first ∧
    (right.second < left.second ∨ left.second = right.second ∧
      ∃ earlier later, earlier < later ∧ StandsSince calls channel left earlier ∧
        StandsSince calls channel right later)

end InitiativeCall

namespace Initiative

open InitiativeCall

def call (initiative : Initiative) : InitiativeCall → Initiative
  | .upsert channel contender => initiative.upsert channel contender
  | .remove channel names => (initiative.remove channel names).1
  | .clear channel => initiative.clear channel

/-- The lists after some calls, one after the other. -/
def callEach (initiative : Initiative) (calls : List InitiativeCall) : Initiative :=
  calls.foldl call initiative

theorem callEach_concat (initiative : Initiative) (calls : List InitiativeCall) (call : InitiativeCall) :
    initiative.callEach (calls ++ [call]) = (initiative.callEach calls).call call := by
  rw [callEach, List.foldl_append]
  rfl

/-! What one call does to the lists -/

theorem list_upsert_here (initiative : Initiative) (channel : String) (contender : Contender) :
    (initiative.upsert channel contender).list channel = place (initiative.list channel) contender := by
  rw [upsert, list, Std.ExtTreeMap.getD_insert_self]

theorem list_clear_here (initiative : Initiative) (channel : String) : (initiative.clear channel).list channel = [] := by
  rw [clear, list, Std.ExtTreeMap.getD_erase_self]

/-- Those who are named go, and their number is told. -/
theorem remove_here (initiative : Initiative) (channel : String) (names : List String) :
    (initiative.remove channel names).1.list channel =
        (initiative.list channel).filter (fun contender => !names.contains contender.name) ∧
      ((initiative.remove channel names).1.list channel).length + (initiative.remove channel names).2 =
        (initiative.list channel).length := by
  rw [remove]
  split
  · next none =>
    have empty : initiative.list channel = [] := by
      rw [list, Std.ExtTreeMap.getD_eq_getD_getElem?, none]
      rfl
    rw [empty]
    exact ⟨rfl, rfl⟩
  · next contenders kept =>
    have here : initiative.list channel = contenders := by
      rw [list, Std.ExtTreeMap.getD_eq_getD_getElem?, kept]
      rfl
    dsimp only
    rw [list, Std.ExtTreeMap.getD_insert_self, here]
    exact ⟨rfl, Nat.add_sub_cancel' (List.length_filter_le _ _)⟩

theorem list_call_elsewhere (initiative : Initiative) {call : InitiativeCall} {channel : String}
    (other : call.channel ≠ channel) : (initiative.call call).list channel = initiative.list channel := by
  have apart : ¬compare call.channel channel = .eq := mt Std.LawfulEqCmp.compare_eq_iff_eq.1 other
  cases call with
  | upsert here contender => exact Std.ExtTreeMap.getD_insert.trans (if_neg apart)
  | clear here => exact Std.ExtTreeMap.getD_erase.trans (if_neg apart)
  | remove here names =>
      rw [call, remove]
      split
      · rfl
      · exact Std.ExtTreeMap.getD_insert.trans (if_neg apart)

/-- The list holds exactly those who still stand on it, each kind and id once, in their order. -/
structure Holds (calls : List InitiativeCall) (channel : String) (contenders : List Contender) : Prop where
  members : ∀ contender, contender ∈ contenders ↔ ∃ place, StandsSince calls channel contender place
  single : contenders.Pairwise fun left right => ¬(left.kind = right.kind ∧ left.id = right.id)
  ordered : contenders.Pairwise (Outranks calls channel)

namespace Holds

variable {calls : List InitiativeCall} {call : InitiativeCall} {channel : String} {contenders : List Contender}

/-- Those whom a call does not drop keep their order. -/
theorem ordered_kept (holds : Holds calls channel contenders) {keeps : Contender → Bool}
    (kept : ∀ contender ∈ contenders, keeps contender = true → ¬call.Drops channel contender) :
    (contenders.filter keeps).Pairwise (Outranks (calls ++ [call]) channel) := by
  refine (holds.ordered.filter keeps).imp_of_mem fun {left right} leftIn rightIn outranks => ?_
  have stays {contender : Contender} {place : Nat} (member : contender ∈ contenders.filter keeps)
      (stands : StandsSince calls channel contender place) : StandsSince (calls ++ [call]) channel contender place :=
    standsSince_concat.2 (.inl ⟨stands, kept contender (List.mem_filter.1 member).1 (List.mem_filter.1 member).2⟩)
  refine outranks.imp_right (And.imp_right (Or.imp_right (And.imp_right ?_)))
  rintro ⟨earlier, later, before, leftStands, rightStands⟩
  exact ⟨earlier, later, before, stays leftIn leftStands, stays rightIn rightStands⟩

/-- A call that puts no one on the list leaves those whom it does not drop. -/
theorem drop (holds : Holds calls channel contenders) {keeps : Contender → Bool}
    (kept : ∀ contender ∈ contenders, keeps contender = true ↔ ¬call.Drops channel contender)
    (none : ∀ contender, call ≠ .upsert channel contender) :
    Holds (calls ++ [call]) channel (contenders.filter keeps) where
  members contender := by
    rw [stands_concat, or_iff_left (none contender), List.mem_filter, ← holds.members]
    exact and_congr_right (kept contender)
  single := holds.single.filter keeps
  ordered := holds.ordered_kept fun contender member => (kept contender member).1

/-- A contender that is put on the list stands there in place of the one with its kind and id, behind all others with
its numbers. -/
theorem place (holds : Holds calls channel contenders) (contender : Contender) :
    Holds (calls ++ [.upsert channel contender]) channel (Initiative.place contenders contender) := by
  let keeps (other : Contender) : Bool := !(other.kind == contender.kind && other.id == contender.id)
  have kept (other : Contender) :
      keeps other = true ↔ ¬(InitiativeCall.upsert channel contender).Drops channel other := by
    rw [Bool.not_eq_true', ← Bool.not_eq_true, Bool.and_eq_true, beq_iff_eq, beq_iff_eq]
    exact not_congr ⟨fun same => ⟨rfl, same.1.symm, same.2.symm⟩, fun drops => ⟨drops.2.1.symm, drops.2.2.symm⟩⟩
  have new : StandsSince (calls ++ [.upsert channel contender]) channel contender calls.length :=
    standsSince_concat.2 (.inr ⟨rfl, rfl⟩)
  have older {other : Contender} (member : other ∈ contenders.filter keeps) :
      ∃ place < calls.length, StandsSince (calls ++ [.upsert channel contender]) channel other place := by
    obtain ⟨there, stays⟩ := List.mem_filter.1 member
    obtain ⟨place, stands⟩ := (holds.members other).1 there
    exact ⟨place, stands.lt_length, standsSince_concat.2 (.inl ⟨stands, (kept other).1 stays⟩)⟩
  -- Among those with equal numbers the new one comes last, and the others are in turn already.
  have inTurn : (contenders.filter keeps ++ [contender]).Pairwise fun left right =>
      left.first = right.first ∧ left.second = right.second →
        Outranks (calls ++ [.upsert channel contender]) channel left right := by
    refine List.pairwise_append.2 ⟨?_, List.pairwise_singleton _ _, fun other member last here => ?_⟩
    · refine List.Pairwise.imp ?_ (holds.ordered_kept fun other _ => (kept other).1)
      exact fun outranks _ => outranks
    · rw [List.mem_singleton.1 here]
      intro ties
      obtain ⟨place, earlier, stands⟩ := older member
      exact .inr ⟨ties.1, .inr ⟨ties.2, place, calls.length, earlier, stands, new⟩⟩
  constructor
  · intro other
    rw [Initiative.place, List.mem_mergeSort, List.mem_append, List.mem_filter, List.mem_singleton, holds.members,
      kept, stands_concat, InitiativeCall.upsert.injEq, eq_comm (a := contender)]
    simp only [true_and]
  · refine (List.Perm.pairwise_iff (fun apart same => apart ⟨same.1.symm, same.2.symm⟩)
      (List.mergeSort_perm _ _)).2 (List.pairwise_append.2 ⟨holds.single.filter keeps, List.pairwise_singleton _ _, ?_⟩)
    intro other member last here same
    rw [List.mem_singleton.1 here] at same
    exact (kept other).1 (List.mem_filter.1 member).2 ⟨rfl, same.1.symm, same.2.symm⟩
  · refine (Contender.pairwise_mergeSort inTurn).imp fun {left right} sorted => ?_
    by_cases back : right.precedes left = true
    · exact sorted.2 back (Contender.ties_iff.1 ⟨sorted.1, back⟩)
    · have ahead := Contender.precedes_iff.1 sorted.1
      have notBack := mt Contender.precedes_iff.2 back
      unfold Outranks
      omega

end Holds

/-- Whatever calls are made one after the other, every channel's list holds those who stand on it. The induction is on
the calls before the last one. -/
theorem callEach_list (calls : List InitiativeCall) (channel : String) :
    Holds calls channel ((callEach ∅ calls).list channel) := by
  induction calls using List.reverseRecOn with
  | nil => exact ⟨fun contender => by simp [callEach, list, StandsSince], .nil, .nil⟩
  | append_singleton calls call inductionHypothesis =>
      rw [callEach_concat]
      by_cases here : call.channel = channel
      · cases call with
        | upsert other contender =>
            obtain rfl : other = channel := here
            rw [Initiative.call, list_upsert_here]
            exact inductionHypothesis.place contender
        | remove other names =>
            obtain rfl : other = channel := here
            rw [Initiative.call, (remove_here _ _ _).1]
            exact inductionHypothesis.drop (fun contender _ => by simp [Drops]) nofun
        | clear other =>
            obtain rfl : other = channel := here
            have none : ((callEach ∅ calls).list other).filter (fun _ => false) = [] :=
              List.filter_eq_nil_iff.2 fun _ _ => Bool.false_ne_true
            rw [Initiative.call, list_clear_here, ← none]
            exact inductionHypothesis.drop (fun contender _ => by simp [Drops]) nofun
      · have all : ((callEach ∅ calls).list channel).filter (fun _ => true) = (callEach ∅ calls).list channel :=
          List.filter_eq_self.2 fun _ _ => rfl
        rw [list_call_elsewhere _ here, ← all]
        have stays (contender : Contender) : ¬call.Drops channel contender := mt Drops.channel_eq here
        exact inductionHypothesis.drop (fun contender _ => by simp [stays])
          fun contender same => here (congrArg InitiativeCall.channel same)

/-- After any calls a channel's list holds exactly those who were put there and not taken off since, the latest one of
each kind and id, sorted by their numbers, with equal ones in the order of their last calls. Removing drops those with
the names and tells how many these are, and no call changes the list of another channel. -/
theorem callEach_sorted (calls : List InitiativeCall) (channel : String) :
    let initiative := callEach ∅ calls
    Holds calls channel (initiative.list channel) ∧
      (∀ names, (initiative.remove channel names).1.list channel =
          (initiative.list channel).filter (fun contender => !names.contains contender.name) ∧
        ((initiative.remove channel names).1.list channel).length + (initiative.remove channel names).2 =
          (initiative.list channel).length) ∧
      ∀ call : InitiativeCall, call.channel ≠ channel →
        (initiative.call call).list channel = initiative.list channel := by
  intro initiative
  exact ⟨callEach_list calls channel, initiative.remove_here channel, fun call => initiative.list_call_elsewhere⟩

end Initiative

/-! Rolls that change a list -/

/-- A roll for initiative puts its contenders on the channel's list in their order. -/
theorem InitiativeRoll.apply_calls (roll : InitiativeRoll) (context : Context) (board : Board) :
    (roll.apply context board).initiative =
      board.initiative.callEach (roll.contenders.map (.upsert context.channel)) := by
  rw [Initiative.callEach, List.foldl_map]
  rfl

/-- A command for an initiative list makes at most one call, in the sender's channel. -/
theorem InitiativeListRoll.apply_calls (roll : InitiativeListRoll) (context : Context) (board : Board) :
    ∃ calls : List InitiativeCall, (∀ call ∈ calls, call.channel = context.channel) ∧
      (roll.apply context board).initiative = board.initiative.callEach calls := by
  unfold apply
  cases roll.action with
  | view => exact ⟨[], by simp, rfl⟩
  | clear => exact ⟨[.clear context.channel], by simp [InitiativeCall.channel], rfl⟩
  | delete names => exact ⟨[.remove context.channel names], by simp [InitiativeCall.channel], rfl⟩

end Tabletop
