/-
This file proves what the checks of a growth command make of the numbers on a card.

All checks are made on the numbers that stood on the card before the command. Each sum of such a number and
its gain is written as a whole, so of several gains of one skill the last one decides.
-/

import Mathlib.Algebra.BigOperators.Group.List.Basic
import Mathlib.Algebra.Ring.Int.Defs
import Tabletop.Proofs.Card.ReadBack
import Tabletop.Proofs.Roll.Target

namespace Tabletop

open Number Step Text

namespace CocCard

variable {card after : CocCard} {now : Instant} {key input name : String} {value : Int} {entry : Entry}

/-! The numbers that checks are made on -/

/-- Where an entry takes its base value from: what is kept under its key, or else what follows from the other
numbers. -/
inductive Source (card : CocCard) (key : String) (value : Int) : Prop where
  | kept (part : CocPart) (stands : (card.part part)[key]? = some value)
  | computed (follows : card.computed? key = some value)
      (absent : ∀ part, ∀ other ∈ card.part part, sameUpToAsciiCase other key = false)

theorem stored?_eq_some {part : CocPart} (read : card.stored? input name part = some entry) :
    (card.part part)[entry.key]? = some entry.baseValue := by
  obtain ⟨⟨key, value⟩, found, rfl⟩ := Option.map_eq_some_iff.1 read
  exact (Table.lookup?_eq_some found).1

theorem stored?_eq_none {part : CocPart} (read : card.stored? input name part = none) :
    ∀ other ∈ card.part part, sameUpToAsciiCase other name = false :=
  Table.lookup?_eq_none.1 (Option.map_eq_none_iff.1 read)

theorem plainEntryOf?_source (read : card.plainEntryOf? input name = some entry) :
    card.Source entry.key entry.baseValue := by
  unfold plainEntryOf? at read
  dsimp only at read
  cases props : card.stored? input (synonyms.keyOf name) .props with
  | some found =>
      rw [props] at read
      cases read
      exact .kept .props (stored?_eq_some props)
  | none =>
      cases skills : card.stored? input (synonyms.keyOf name) .skills with
      | some found =>
          rw [props, skills] at read
          cases read
          exact .kept .skills (stored?_eq_some skills)
      | none =>
          cases basic : card.stored? input (synonyms.keyOf name) .basic with
          | some found =>
              rw [props, skills, basic] at read
              cases read
              exact .kept .basic (stored?_eq_some basic)
          | none =>
              rw [props, skills, basic] at read
              obtain ⟨value, follows, rfl⟩ := Option.map_eq_some_iff.1 read
              refine .computed follows fun part => ?_
              cases part with
              | props => exact stored?_eq_none props
              | basic => exact stored?_eq_none basic
              | skills => exact stored?_eq_none skills

theorem entryOf?_source (read : card.entryOf? input = some entry) :
    card.Source entry.key entry.baseValue := by
  unfold CocCard.entryOf? at read
  split at read
  · next plain =>
    cases read
    have source := plainEntryOf?_source plain
    exact source
  · split at read
    · cases read
    · obtain ⟨plain, found, rfl⟩ := Option.map_eq_some_iff.1 read
      have source := plainEntryOf?_source found
      exact source

/-- Numbers follow from others only under keys that have no letters and are no synonyms. -/
theorem computed?_plain (follows : card.computed? key = some value) :
    isCaseless key = true ∧ synonyms.keyOf key = key := by
  unfold computed? at follows
  split at follows
  iterate 6 decide +kernel
  · obtain ⟨pair, found, _⟩ := Option.map_eq_some_iff.1 follows
    have plain : ∀ pair ∈ skillBases, isCaseless pair.1 = true ∧ synonyms.keyOf pair.1 = pair.1 := by
      decide +kernel
    have named := List.find?_some found
    rw [← eq_of_beq named]
    exact plain pair (List.mem_of_find?_eq_some found)

/-- The number that a key stands for. -/
def base? (card : CocCard) (key : String) : Option Int :=
  (card.part (home key))[key]?.or (card.computed? key)

/-- A settled key stands for one number alone. -/
theorem Source.base? (source : card.Source key value) (settled : card.Settled key) :
    card.base? key = some value := by
  unfold CocCard.base?
  cases source with
  | kept part stands =>
      have here := (settled.alone part key (Table.mem_of_get stands) (sameUpToAsciiCase_refl key)).1
      rw [← here, stands, Option.some_or]
  | computed follows absent =>
      have missing : key ∉ card.part (home key) := by
        intro there
        have differs := absent _ key there
        rw [sameUpToAsciiCase_refl] at differs
        cases differs
      rw [Std.ExtTreeMap.getElem?_eq_none missing, Option.none_or, follows]

/-- No other key that entries stand under differs from a settled one in case alone. -/
theorem Settled.apart {other : String} (settled : card.Settled key) (source : card.Source other value)
    (same : sameUpToAsciiCase other key = true) : other = key := by
  cases source with
  | kept part stands => exact (settled.alone part other (Table.mem_of_get stands) same).2
  | computed follows _ => exact sameUpToAsciiCase_caseless (computed?_plain follows).1 same

/-- On an ordered card all keys that entries stand under are settled. -/
theorem Source.settled (source : card.Source key value) (ordered : card.InOrder) : card.Settled key := by
  cases source with
  | kept part stands => exact ordered.settled (Table.mem_of_get stands)
  | computed follows absent =>
      refine ⟨(computed?_plain follows).2, fun part other there same => ?_⟩
      rw [absent part other there] at same
      cases same

/-! Gains that are written one after the other -/

/-- The card after the gains of some checks were written. -/
def grow (card : CocCard) (now : Instant) (checks : List GrowthCheck) : CocCard :=
  checks.foldl (fun card check =>
    if check.gain.isSome then (card.setEntry now check.key check.new).1 else card) card

theorem grow_append (card : CocCard) (now : Instant) (first last : List GrowthCheck) :
    card.grow now (first ++ last) = (card.grow now first).grow now last :=
  List.foldl_append

/-- Growth never fails. -/
theorem writeGains_grow (card : CocCard) (now : Instant) (checks : List GrowthCheck) :
    ∃ changed, GrowthRoll.writeGains now checks (.coc card) = .ok (.coc (card.grow now checks), changed) := by
  have run (card : CocCard) (changed : Bool) : ∃ told, checks.foldlM (fun (result : Card × Bool) check => do
      if check.gain.isSome then
        let written ← result.1.setEntry now check.key check.new
        return (written.1, result.2 || written.2)
      else return result) (.coc card, changed) =
        (.ok (.coc (card.grow now checks), told) : Except Fault (Card × Bool)) := by
    induction checks generalizing card changed with
    | nil => exact ⟨changed, rfl⟩
    | cons check checks inductionHypothesis =>
        rw [List.foldlM_cons, grow, List.foldl_cons]
        split
        · exact inductionHypothesis _ _
        · exact inductionHypothesis card changed
  exact run card false

/-- The card after some checks were settled: their gains are written and the marks under their keys are gone. -/
def settle (card : CocCard) (now : Instant) (checks : List GrowthCheck) : CocCard :=
  if checks = [] then card else ((card.grow now checks).clearGrowth now (checks.map (·.key))).1

/-- The keys are settled, and no two of them differ in case alone. -/
structure AllSettled (card : CocCard) (keys : List String) : Prop where
  settled : ∀ key ∈ keys, card.Settled key
  apart : ∀ key ∈ keys, ∀ other ∈ keys, sameUpToAsciiCase other key = true → other = key

theorem Stores.allSettled {keys : List String} (stores : Stores card after key value)
    (all : card.AllSettled keys) (listed : key ∈ keys) : after.AllSettled keys where
  settled name member := by
    refine ⟨(all.settled name member).named, fun part other there same => ?_⟩
    rcases stores.mem there with old | ⟨here, new⟩
    · exact (all.settled name member).alone part other old same
    · rw [(all.settled key listed).keyIn] at new
      subst new
      obtain rfl := all.apart name member other listed same
      exact ⟨here, rfl⟩
  apart := all.apart

theorem AllSettled.setEntry {keys : List String} (all : card.AllSettled keys) (listed : key ∈ keys)
    (now : Instant) (value : Int) : Stores card (card.setEntry now key value).1 key value ∧
      (card.setEntry now key value).1.AllSettled keys := by
  have stores := card.setEntry_stores now key value
  rw [(all.settled key listed).named] at stores
  exact ⟨stores, stores.allSettled all listed⟩

theorem AllSettled.grow {keys : List String} (all : card.AllSettled keys) (now : Instant)
    {checks : List GrowthCheck} (listed : ∀ check ∈ checks, check.key ∈ keys) :
    (card.grow now checks).AllSettled keys := by
  induction checks generalizing card with
  | nil => exact all
  | cons check checks inductionHypothesis =>
      rw [CocCard.grow, List.foldl_cons]
      refine inductionHypothesis ?_ fun other member => listed other (List.mem_cons_of_mem _ member)
      split
      · exact (all.setEntry (listed check List.mem_cons_self) now _).2
      · exact all

/-- What a gain of another skill leaves of the number under a key: the mythos lowers sanity. -/
def leftBy (key : String) (number : Int) (check : GrowthCheck) : Int :=
  if check.gain.isSome ∧ check.key = mythos ∧ key = sanity then
    min number (99 - bounded (some 99) check.new)
  else number

theorem Stores.leaves {other : String} (stores : Stores card after other value)
    (settled : card.Settled other) (different : key ≠ other) :
    (after.part (home key))[key]? = (card.part (home key))[key]?.map fun number =>
      if other = mythos ∧ key = sanity then min number (99 - bounded (some 99) value) else number := by
  by_cases lowers : other = mythos ∧ key = sanity
  · obtain ⟨rfl, rfl⟩ := lowers
    have belongs : home sanity = .basic := by decide +kernel
    rw [belongs]
    refine (stores.lowered rfl).trans (congrArg (Option.map · _) ?_)
    funext number
    rw [if_pos ⟨rfl, rfl⟩]
    rfl
  · have untouched := stores.others (home key) key
      (fun here => different (here.2.trans settled.keyIn)) (fun sane => lowers ⟨sane.1, sane.2.2⟩)
    rw [untouched]
    simp only [if_neg lowers, Option.map_id']

/-- Gains of other skills leave a number alone, except that the mythos lowers sanity. -/
theorem AllSettled.grow_other {keys : List String} (all : card.AllSettled keys) (now : Instant)
    {checks : List GrowthCheck} (listed : ∀ check ∈ checks, check.key ∈ keys)
    (others : ∀ check ∈ checks, check.key = key → check.gain = none) :
    ((card.grow now checks).part (home key))[key]? =
      (card.part (home key))[key]?.map fun number => checks.foldl (leftBy key) number := by
  induction checks generalizing card with
  | nil => exact Option.map_id'.symm
  | cons check checks inductionHypothesis =>
      have later := fun other member => listed other (List.mem_cons_of_mem check member)
      have laterOthers := fun other member => others other (List.mem_cons_of_mem check member)
      rw [CocCard.grow, List.foldl_cons]
      split
      · next grew =>
        obtain ⟨stores, kept⟩ := all.setEntry (listed check List.mem_cons_self) now check.new
        have different : key ≠ check.key := by
          rintro rfl
          rw [others check List.mem_cons_self rfl] at grew
          cases grew
        have step := stores.leaves (all.settled _ (listed check List.mem_cons_self)) different
        refine (inductionHypothesis kept later laterOthers).trans ?_
        rw [step, Option.map_map]
        congr 1
        funext number
        simp only [Function.comp_apply, List.foldl_cons, leftBy, grew, true_and]
      · next still =>
        refine (inductionHypothesis all later laterOthers).trans ?_
        congr 1
        funext number
        rw [List.foldl_cons, leftBy, if_neg fun grew => still grew.1]

/-- The last gain of a key decides what is kept under it. -/
theorem AllSettled.grow_last {keys : List String} (all : card.AllSettled keys) (now : Instant)
    {earlier later : List GrowthCheck} {last : GrowthCheck}
    (listed : ∀ check ∈ earlier ++ last :: later, check.key ∈ keys) (grew : last.gain.isSome)
    (others : ∀ check ∈ later, check.key = last.key → check.gain = none) :
    ((card.grow now (earlier ++ last :: later)).part (home last.key))[last.key]? =
      some (later.foldl (leftBy last.key) ((card.grow now earlier).admitted last.key last.new)) := by
  have before := all.grow now fun check member => listed check (List.mem_append_left _ member)
  have here := listed last (List.mem_append_right _ List.mem_cons_self)
  obtain ⟨stores, between⟩ := before.setEntry here now last.new
  have after := between.grow_other now
    (fun check member => listed check (List.mem_append_right _ (List.mem_cons_of_mem _ member))) others
  have kept := stores.kept
  rw [(before.settled _ here).keyIn] at kept
  rw [kept] at after
  rw [grow_append, CocCard.grow, List.foldl_cons, if_pos grew]
  exact after

/-! What a command makes of a card -/

/-- What the checks of a key let it gain together. -/
def gained (checks : List GrowthCheck) (key : String) : Int :=
  ((checks.filter (·.key == key)).map (·.gain.getD 0)).sum

theorem gained_append (first last : List GrowthCheck) (key : String) :
    gained (first ++ last) key = gained first key + gained last key := by
  rw [gained, List.filter_append, List.map_append, List.sum_append]
  rfl

theorem gained_of_none {checks : List GrowthCheck}
    (none : ∀ check ∈ checks, check.key = key → check.gain = none) : gained checks key = 0 := by
  apply List.sum_eq_zero
  intro gain member
  obtain ⟨check, kept, rfl⟩ := List.mem_map.1 member
  obtain ⟨there, named⟩ := List.mem_filter.1 kept
  rw [none check there (eq_of_beq named), Option.getD_none]

/-- If one check alone lets a key grow, then its gain is all that the key gains. -/
theorem gained_of_only {earlier later : List GrowthCheck} {only : GrowthCheck}
    (others : ∀ check ∈ earlier ++ later, check.key = only.key → check.gain = none) :
    gained (earlier ++ only :: later) only.key = only.gain.getD 0 := by
  have before := gained_of_none fun check member => others check (List.mem_append_left later member)
  have after := gained_of_none fun check member => others check (List.mem_append_right earlier member)
  have own : gained [only] only.key = only.gain.getD 0 := by simp [gained]
  rw [← List.singleton_append, gained_append, gained_append, before, own, after]
  omega

/-- Every name of a key reads a number that is kept under it. -/
def Reads (card : CocCard) (key : String) (number : Int) : Prop :=
  ∀ name, sameUpToAsciiCase (synonyms.keyOf name) key = true → card.entryOf? name = some
    { Entry.stored name key number (home key).kind with modifier := .difficulty .normal }

/-- What checks that were made on a card make of the number under a key, which was `old`. The last gain decides:
the sum of the old number and this gain is written to the card as it was left by the earlier gains. So all gains
count if there is only one and the sum has its bits. Without a gain the number stays if it was kept on the card.
Only gains of the mythos can still lower sanity. -/
structure Grows (now : Instant) (before after : CocCard) (checks : List GrowthCheck) (key : String)
    (old : Int) : Prop where
  last : ∀ earlier last later, checks = earlier ++ last :: later → last.key = key → last.gain.isSome →
    (∀ check ∈ later, check.key = key → check.gain = none) →
    after.Reads key (later.foldl (leftBy key)
      ((before.grow now earlier).admitted key (wrap (old + last.gain.getD 0))))
  only : ∀ earlier only later, checks = earlier ++ only :: later → only.key = key → only.gain.isSome →
    (∀ check ∈ earlier ++ later, check.key = key → check.gain = none) → isWord (old + gained checks key) →
    after.Reads key (later.foldl (leftBy key)
      ((before.grow now earlier).admitted key (old + gained checks key)))
  still : (∀ check ∈ checks, check.key = key → check.gain = none) → gained checks key = 0 ∧
    (key ∈ before.part (home key) → after.Reads key (checks.foldl (leftBy key) old))

theorem AllSettled.grows {keys : List String} (all : card.AllSettled keys) {checks : List GrowthCheck}
    (listed : ∀ check ∈ checks, check.key ∈ keys)
    (olds : ∀ check ∈ checks, card.base? check.key = some check.old)
    (parts : ∀ part, after.part part = (card.grow now checks).part part) {check : GrowthCheck}
    (member : check ∈ checks) : Grows now card after checks check.key check.old := by
  have grown := all.grow now listed
  have settled : after.Settled check.key := by
    have before := grown.settled _ (listed check member)
    exact ⟨before.named, fun part other there => before.alone part other (parts part ▸ there)⟩
  have same {other : GrowthCheck} (there : other ∈ checks) (named : other.key = check.key) :
      other.old = check.old := by
    have first := olds other there
    rw [named, olds check member] at first
    exact (Option.some.inj first).symm
  have reads {number : Int}
      (kept : ((card.grow now checks).part (home check.key))[check.key]? = some number) :
      after.Reads check.key number := fun name close => settled.entryOf? (parts _ ▸ kept) close
  have last (earlier : List GrowthCheck) (last : GrowthCheck) (later : List GrowthCheck)
      (split : checks = earlier ++ last :: later) (named : last.key = check.key) (grew : last.gain.isSome)
      (others : ∀ other ∈ later, other.key = check.key → other.gain = none) :
      after.Reads check.key (later.foldl (leftBy check.key)
        ((card.grow now earlier).admitted check.key (wrap (check.old + last.gain.getD 0)))) := by
    have old := same (split ▸ List.mem_append_right _ List.mem_cons_self) named
    rw [← named] at others
    have kept := all.grow_last now (split ▸ listed) grew others
    rw [← split, named] at kept
    rw [← old]
    exact reads kept
  refine ⟨last, ?_, ?_⟩
  · intro earlier only later split named grew others word
    have sum : gained checks check.key = only.gain.getD 0 := by
      rw [← named] at others
      rw [split, ← named]
      exact gained_of_only others
    have read := last earlier only later split named grew fun other there =>
      others other (List.mem_append_right _ there)
    rw [← sum, wrap_of_fits (isWord_iff.1 word).1 (isWord_iff.1 word).2] at read
    exact read
  · intro none
    refine ⟨gained_of_none none, fun there => reads ?_⟩
    obtain ⟨value, kept⟩ := Option.isSome_iff_exists.1 (Std.ExtTreeMap.isSome_getElem?_iff_mem.2 there)
    have old := olds check member
    rw [base?, kept, Option.some_or] at old
    rw [all.grow_other now listed none, kept, Option.map_some, Option.some.inj old]

end CocCard

namespace GrowthRoll

/-- The checks that were made on the card's own numbers. -/
def ownChecks (checks : List GrowthCheck) : List GrowthCheck :=
  checks.filter (!·.isInline)

theorem mem_ownChecks {checks : List GrowthCheck} {check : GrowthCheck} :
    check ∈ ownChecks checks ↔ check ∈ checks ∧ check.isInline = false := by
  rw [ownChecks, List.mem_filter, Bool.not_eq_true']

/-- Settling checks never fails. -/
theorem settleChecks_ok (card : CocCard) (now : Instant) (checks : List GrowthCheck) :
    ∃ changed, settleChecks now checks (.coc card) = .ok (.coc (card.settle now (ownChecks checks)), changed) := by
  unfold settleChecks ownChecks
  generalize checks.filter (!·.isInline) = own
  obtain ⟨changed, written⟩ := card.writeGains_grow now own
  by_cases none : own = []
  · refine ⟨changed, bind_eq_ok.2 ⟨_, written, ?_⟩⟩
    dsimp only
    rw [if_pos (List.isEmpty_iff.2 none), CocCard.settle, if_pos none, none]
    rfl
  · refine ⟨changed || ((card.grow now own).clearGrowth now (own.map (·.key))).2, bind_eq_ok.2 ⟨_, written, ?_⟩⟩
    dsimp only
    rw [if_neg (mt List.isEmpty_iff.1 none), CocCard.settle, if_neg none]
    rfl

/-- Settling checks writes the gains of those that were made on the card's own numbers. -/
theorem settleChecks_grow (card : CocCard) (now : Instant) (checks : List GrowthCheck) :
    ∃ after changed, settleChecks now checks (.coc card) = .ok (.coc after, changed) ∧
      ∀ part, after.part part = (card.grow now (checks.filter (!·.isInline))).part part := by
  obtain ⟨changed, settled⟩ := settleChecks_ok card now checks
  refine ⟨_, changed, settled, fun part => ?_⟩
  rw [CocCard.settle]
  split
  · next none => rw [← ownChecks, none, CocCard.grow, List.foldl_nil]
  · exact CocCard.part_of_sameNumbers (Card.clearGrowth_sameNumbers _ now _) part

/-! The numbers that a command checks -/

/-- Each check of a skill was made on what its name stands for on the card. -/
def ReadsCard (roll : GrowthRoll) (card : Option Card) : Prop :=
  ∀ check ∈ roll.checks, check.isInline = false →
    (card.bind (·.entryOf? check.skill)).map (fun entry => (entry.key, entry.baseValue)) =
      some (check.key, check.old)

theorem ReadsCard.source {card : CocCard} {roll : GrowthRoll} {check : GrowthCheck}
    (reads : roll.ReadsCard (some (.coc card))) (member : check ∈ roll.checks)
    (own : check.isInline = false) : card.Source check.key check.old := by
  obtain ⟨entry, read, same⟩ := Option.map_eq_some_iff.1 (reads check member own)
  obtain ⟨key, old⟩ := Prod.mk.inj same
  rw [← key, ← old]
  exact CocCard.entryOf?_source read

theorem reply_reads (card : Option Card) (text : StateM Faces String) :
    Keeps (ReadsCard · card) (reply text) :=
  (keeps_draw _).bind fun _ => keeps_modify fun _ held => held

theorem rollCheck_reads (card : Option Card) (name : String) (value : Option Int) :
    Keeps (ReadsCard · card) (rollCheck card name value) := by
  unfold rollCheck
  split
  · exact keeps_pure _
  next key old named =>
  have added (rolled : Int) (gain : Option Int) (roll : GrowthRoll) (held : roll.ReadsCard card) :
      ReadsCard { roll with checks := roll.checks ++ [⟨name, key, value.isSome, rolled, old, gain⟩] } card := by
    intro check member own
    rcases List.mem_append.1 member with earlier | new
    · exact held check earlier own
    · obtain rfl := List.mem_singleton.1 new
      rw [Option.isSome_eq_false_iff.1 own |> Option.isNone_iff_eq_none.1] at named
      exact named
  refine (keeps_dice _ _).bind fun result => ?_
  dsimp only
  split
  · exact ((keeps_dice _ _).map _).bind fun _ => keeps_modify (added _ _)
  · exact (keeps_pure _).bind fun _ => keeps_modify (added _ _)

theorem rollChecks_reads (scene : Scene) (skills : List (String × Option Int)) :
    Keeps (ReadsCard · (card? scene)) (rollChecks scene skills) := by
  unfold rollChecks
  refine (keeps_forM fun skill => rollCheck_reads _ _ _).bind fun _ => ?_
  exact keeps_get fun _ _ => reply_reads _ _

theorem chooseMarks_reads (card : Option Card) (scene : Scene) (held : Card) (key : String)
    (names : List String) : Keeps (ReadsCard · card) (chooseMarks scene held key names) :=
  Keeps.bind (keeps_modify fun _ reads => reads) fun _ => reply_reads card _

theorem roll_reads (scene : Scene) : Keeps (ReadsCard · (card? scene)) (roll scene) := by
  unfold roll
  dsimp only
  refine Keeps.bind (keeps_modify fun _ reads => reads) fun _ => ?_
  apply keeps_get
  intro record held
  split
  · exact rollChecks_reads scene _
  · exact reply_reads _ _
  · exact rollChecks_reads scene _
  · split
    · exact reply_reads _ _
    · exact reply_reads _ _
  · exact reply_reads _ _
  · exact chooseMarks_reads _ _ _ _ _
  · exact chooseMarks_reads _ _ _ _ _

end GrowthRoll

end Tabletop
