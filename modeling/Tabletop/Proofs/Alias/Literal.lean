/-
This file proves what stands in place of literals with slots.

A slot has the number that its digits denote, or its standard number where it has no digits. The pattern lets digits of
all scripts into a slot, and those that are not ASCII digits are read as zero.
-/

import Tabletop.Proofs.Alias.Anchoring
import Tabletop.Proofs.Alias.Fits
import Tabletop.Proofs.Card.Names
import Tabletop.Proofs.Json.Decode
import Tabletop.Proofs.Result
import Tabletop.Proofs.Roll.Numbers
import Tabletop.Proofs.Rule.Parsing
import Tabletop.Proofs.Text.Cut

namespace Tabletop

open Text

/-! Numerals -/

namespace Text

/-- No digit of any script is a letter of ASCII. -/
theorem isAlpha_of_isDecimal {char : Char} (decimal : isDecimal char = true) : char.isAlpha = false := by
  obtain ⟨range, member, within⟩ := List.any_eq_true.1 decimal
  rw [Bool.and_eq_true, decide_eq_true_eq, decide_eq_true_eq] at within
  have apart : ∀ range ∈ decimalRanges, range.2 < 65 ∨ 122 < range.1 := by decide
  have between := apart range member
  refine Bool.eq_false_iff.2 fun letter => ?_
  have letters := toNat_of_isAlpha letter
  omega

end Text

namespace Number

variable {digits : List Char}

/-- Digits that are not all ASCII ones cannot be read as a float. -/
theorem readFloat?_decimal (some : digits ≠ []) (decimal : ∀ char ∈ digits, isDecimal char = true) :
    readFloat? digits = if IsPlain digits then Option.some (floatOfDecimal (natOfDigits digits) 0) else none := by
  obtain ⟨first, others, rfl⟩ := List.exists_cons_of_ne_nil some
  have leads := decimal first List.mem_cons_self
  have unnamed {letter : Char} {name : List Char} (alpha : letter.isAlpha = true) :
      (first :: others).map Char.toLower ≠ letter :: name := by
    intro same
    have lower := (List.cons.inj same).1
    rw [← lower, isAlpha_toLower, isAlpha_of_isDecimal leads] at alpha
    cases alpha
  have size : readFloat? (first :: others) = readSize? (first :: others) := by
    unfold readFloat?
    split
    · next same =>
      cases same
      exact absurd leads (by decide)
    · next same =>
      cases same
      exact absurd leads (by decide)
    · rfl
  rw [size]
  unfold readSize?
  dsimp only
  have notInf : (first :: others).map Char.toLower ≠ "inf".toList := unnamed (by decide : 'i'.isAlpha = true)
  have notInfinity : (first :: others).map Char.toLower ≠ "infinity".toList :=
    unnamed (by decide : 'i'.isAlpha = true)
  have notNan : (first :: others).map Char.toLower ≠ "nan".toList := unnamed (by decide : 'n'.isAlpha = true)
  rw [if_neg (not_or.2 ⟨notInf, notInfinity⟩), if_neg notNan]
  by_cases plain : IsPlain (first :: others)
  · have run : IsRun Char.isDigit (first :: others) (first :: others) [] := ⟨(List.append_nil _).symm, plain, nofun⟩
    rw [if_pos plain, run.takeWhile_eq, run.dropWhile_eq]
    dsimp only
    rw [List.append_nil]
    rfl
  · rw [if_neg plain]
    have run := isRun_takeWhile Char.isDigit (first :: others)
    -- The run of ASCII digits ends at a digit of another script, which continues no numeral.
    cases behind : (first :: others).dropWhile Char.isDigit with
    | nil =>
      rw [behind] at run
      exact absurd (fun char member => run.all char (by rwa [run.spelled, List.append_nil] at member)) plain
    | cons char rest =>
      rw [behind] at run
      have other : char.isDigit = false := run.stops char rfl
      have stops : isDecimal char = true := decimal char (run.spelled ▸ List.mem_append_right _ List.mem_cons_self)
      have point : char ≠ '.' := fun same => absurd stops (by rw [same]; decide)
      have small : char ≠ 'e' := fun same => absurd stops (by rw [same]; decide)
      have big : char ≠ 'E' := fun same => absurd stops (by rw [same]; decide)
      simp only [List.cons.injEq, point, small, big, false_and, IsEmpty.forall_iff, implies_true]
      split <;> rfl

end Number

namespace Alias

open Pattern

variable {α : Type} {text taken rest : List Char} {digits : List (List Char)} {parts fillers : List Part}
  {rule : Alias} {source replacement : String}

/-! How literals are written -/

/-- The text of a part. -/
def Part.spelling : Part → List Char
  | .run text => text
  | .slot inside => ['\x7b', '\x7b'] ++ (inside ++ ['\x7d', '\x7d'])

/-- A part that ends where its text ends. -/
def Part.IsPlain : Part → Prop
  | .run text => text ≠ [] ∧ '\x7b' ∉ text
  | .slot inside => '\x7d' ∉ inside ∧ trim inside = inside

/-- One of the parts is a slot. -/
def Part.IsApart : Part → Part → Prop
  | .run _, .run _ => False
  | _, _ => True

theorem cutAtSlot?_slot {before inside : List Char} (plain : '\x7b' ∉ before) (ends : '\x7d' ∉ inside)
    (behind : List Char) :
    cutAtSlot? (before ++ ((Part.slot inside).spelling ++ behind)) = some (before, inside, behind) := by
  have opened (rest : List Char) : cutAt? ['\x7b', '\x7b'] (before ++ (['\x7b', '\x7b'] ++ rest)) =
      some (before, rest) := cutAt?_append plain rest
  have closed : cutAt? ['\x7d', '\x7d'] (inside ++ (['\x7d', '\x7d'] ++ behind)) = some (inside, behind) :=
    cutAt?_append ends behind
  unfold cutAtSlot? Part.spelling
  rw [List.append_assoc, List.append_assoc, opened, Option.bind_eq_bind, Option.bind_some]
  dsimp only
  rw [closed]
  rfl

theorem parts_cut {before inside behind : List Char} (cut : cutAtSlot? text = some (before, inside, behind)) :
    Alias.parts text = runs before ++ .slot (trim inside) :: Alias.parts behind := by
  rw [Alias.parts]
  split
  · next same =>
    cases cut.symm.trans same
    rfl
  · next none => cases cut.symm.trans none

theorem parts_uncut (none : cutAtSlot? text = none) : Alias.parts text = runs text := by
  rw [Alias.parts]
  split
  · next same => cases none.symm.trans same
  · rfl

/-- A text that is written as runs and slots by turns is read as these. -/
theorem parts_written (plain : ∀ part ∈ parts, part.IsPlain) (apart : parts.IsChain Part.IsApart) :
    Alias.parts (parts.flatMap Part.spelling) = parts := by
  induction parts with
  | nil => exact parts_uncut rfl
  | cons part parts inductionHypothesis =>
    obtain ⟨here, others⟩ := List.forall_mem_cons.1 plain
    have later := inductionHypothesis others (List.IsChain.of_cons apart)
    rw [List.flatMap_cons]
    cases part with
    | slot inside =>
      have cut := cutAtSlot?_slot (List.not_mem_nil (a := '\x7b')) here.1 (parts.flatMap Part.spelling)
      rw [List.nil_append] at cut
      rw [parts_cut cut, later, here.2]
      rfl
    | run text =>
      have some : runs text = [.run text] := if_neg fun nothing => here.1 (List.isEmpty_iff.1 nothing)
      cases parts with
      | nil =>
        have none : cutAtSlot? text = none := by
          have cut : cutAt? ['\x7b', '\x7b'] (text ++ []) = none := cutAt?_front here.2 []
          rw [List.append_nil] at cut
          unfold cutAtSlot?
          rw [cut]
          rfl
        rw [List.flatMap_nil, List.append_nil, Part.spelling, parts_uncut none, some]
      | cons next parts =>
        cases next with
        | run other => exact (List.isChain_cons_cons.1 apart).1.elim
        | slot inside =>
          obtain ⟨⟨ends, trimmed⟩, -⟩ := List.forall_mem_cons.1 others
          have first := cutAtSlot?_slot (List.not_mem_nil (a := '\x7b')) ends (parts.flatMap Part.spelling)
          rw [List.nil_append] at first
          rw [List.flatMap_cons, parts_cut first] at later
          rw [List.flatMap_cons, Part.spelling, parts_cut (cutAtSlot?_slot here.2 ends _), some]
          exact congrArg (.run text :: ·) later

/-! The numbers in the slots -/

theorem le_of_mem_groups {index : Nat} {entry : Nat × List Char} (member : entry ∈ groups index digits) :
    index ≤ entry.1 := by
  induction digits generalizing index with
  | nil => cases member
  | cons first digits inductionHypothesis =>
    rcases List.mem_append.1 member with later | here
    · exact Nat.le_of_succ_le (inductionHypothesis later)
    · cases List.mem_singleton.1 here
      exact Nat.le_refl _

/-- The groups hold the digits of the slots in their order. -/
theorem find?_groups (index place : Nat) (digits : List (List Char)) :
    ((groups index digits).find? (·.1 == index + place)).map (·.2) = digits[place]? := by
  induction digits generalizing index place with
  | nil => rfl
  | cons first digits inductionHypothesis =>
    rw [groups, List.find?_append]
    cases place with
    | zero =>
      have nowhere : (groups (index + 1) digits).find? (·.1 == index + 0) = none := by
        refine List.find?_eq_none.2 fun entry member same => ?_
        have later := le_of_mem_groups member
        have here := beq_iff_eq.1 same
        omega
      have here : [(index, first)].find? (·.1 == index + 0) = some (index, first) :=
        List.find?_cons_of_pos (beq_self_eq_true index)
      rw [nowhere, Option.none_or, here]
      rfl
    | succ place =>
      have later := inductionHypothesis (index + 1) place
      have nowhere : [(index, first)].find? (·.1 == index + (place + 1)) = none :=
        List.find?_singleton.trans (if_neg fun same => by have := beq_iff_eq.1 same; omega)
      rw [nowhere, Option.or_none, List.getElem?_cons_succ, ← later, Nat.add_right_comm, Nat.add_assoc]

theorem Takes.length_eq (takes : Takes parts taken digits) : digits.length = (slots parts).length := by
  induction takes with
  | nil => rfl
  | run _ _ inductionHypothesis => exact inductionHypothesis
  | slot _ _ _ inductionHypothesis => exact congrArg Nat.succ inductionHypothesis

/-- The numbers of slots by their names, for the digits in the slots. -/
def bindings (slots : List Slot) (digits : List (List Char)) : Rule.Variables Float :=
  .ofList ((slots.zip digits).map fun (slot, first) => (String.ofList slot.name, slot.number (some first)))

theorem groupNamed?_slot (named : Named parts) {found : PatternMatch} (root : Node) {index : Nat}
    (inside : index < (slots parts).length) (held : found.groups = groups 1 digits) :
    found.groupNamed? ⟨root, ((slots parts).map Slot.name).map fun name => some (String.ofList name)⟩
      (String.ofList (slots parts)[index].name) = digits[index]? := by
  have place : Pattern.groupNamed? ⟨root, ((slots parts).map Slot.name).map fun name => some (String.ofList name)⟩
      (String.ofList (slots parts)[index].name) = some (index + 1) := by
    refine Option.map_eq_some_iff.2 ⟨index, List.findIdx?_eq_some_iff_getElem.2 ?_, rfl⟩
    simp only [List.length_map, List.getElem_map, beq_iff_eq, Option.some.injEq]
    refine ⟨inside, trivial, fun other before same => ?_⟩
    have apart := List.pairwise_iff_getElem.1 named.distinct other index
      (by rw [List.length_map]; omega) (by rw [List.length_map]; omega) before
    rw [List.getElem_map, List.getElem_map] at apart
    exact apart (String.ofList_injective same)
  rw [PatternMatch.groupNamed?, place, Option.bind_some, PatternMatch.group?, if_neg (Nat.succ_ne_zero index), held,
    Nat.add_comm, find?_groups]

theorem numbers_eq (named : Named parts) (takes : Takes parts taken digits) {found : PatternMatch} {root : Node}
    (held : found.groups = groups 1 digits) :
    numbers parts (found.groupNamed? ⟨root, ((slots parts).map Slot.name).map fun name => some (String.ofList name)⟩) =
      bindings (slots parts) digits := by
  refine congrArg Rule.Variables.ofList (List.ext_getElem ?_ ?_)
  · rw [List.length_map, List.length_map, List.length_zip, takes.length_eq, Nat.min_self]
  · intro index inside zipped
    rw [List.length_map] at inside
    have same := groupNamed?_slot named root inside held
    rw [List.getElem_map, List.getElem_map, List.getElem_zip, same,
      List.getElem?_eq_getElem (takes.length_eq ▸ inside)]

/-- What a well-named literal finds in a text comes from the first fit. -/
theorem match?_literal (literal : rule.rule.trigger = .literal source replacement)
    (written : Alias.parts source.toList = parts) (named : Named parts) (context : Context) (text : List Char) :
    rule.match? context text = (fits parts text).head?.map fun fit =>
      ⟨rule.id, [], fit.taken, fit.rest, (fill (bindings (slots parts) fit.digits) replacement.toList).toOption⟩ := by
  have ran : (Node.anchor .textStart).run (fun next => (Node.sequences (nodes 1 parts)).run some next) ⟨[], text, []⟩ =
      (fits parts text).head?.map fun fit => fit.place 1 ⟨[], text, []⟩ := by
    refine (if_pos rfl).trans ((run_nodes ..).trans ?_)
    cases fits parts text <;> rfl
  unfold match?
  rw [literal]
  dsimp only
  rw [written, pattern?_named named, Option.bind_eq_bind, Option.bind_some, matchWith?,
    find?_startsText (startsText_literal _), matchAt?, Node.run_sequences_cons, ran]
  cases first : fits parts text with
  | nil => rfl
  | cons fit others =>
    obtain ⟨takes, split⟩ := mem_fits.1 (first ▸ List.mem_cons_self : fit ∈ fits parts text)
    have reaches : Cursor.Reaches ⟨[], text, []⟩ (fit.place 1 ⟨[], text, []⟩) fit.taken := ⟨split, rfl⟩
    simp only [List.head?_cons, Option.map_some, reaches.textSince_eq]
    rw [numbers_eq named takes (List.append_nil _)]
    rfl

/-! What stands in place of a literal -/

/-- A number that a slot stands for. Digits of other scripts than ASCII are lost on it. -/
inductive Slot.Stands (slot : Slot) : List Char → Float → Prop
  | standard {numeral : List Char} {value : Float} (given : slot.standard = some numeral)
      (read : Number.readFloat? numeral = some value) : slot.Stands [] value
  | plain {first : List Char} (some : first ≠ []) (plain : Number.IsPlain first) :
      slot.Stands first (Number.floatOfDecimal (Number.natOfDigits first) 0)
  | foreign {first : List Char} (foreign : ¬Number.IsPlain first) : slot.Stands first 0.0

/-- The standard number of a slot, if there is one, is a number. -/
def Slot.IsNumeric (slot : Slot) : Prop :=
  ∀ numeral, slot.standard = some numeral → (Number.readFloat? numeral).isSome

/-- The name of a slot has a value that the slot stands for. -/
def Slot.Binds (values : Rule.Variables Float) (slot : Slot) (first : List Char) : Prop :=
  ∃ value, slot.Stands first value ∧ values (String.ofList slot.name) = some value

/-- A part of a replacement stands for a text. -/
inductive Part.Fills (bindings : Rule.Variables Float) : Part → List Char → Prop
  | run (text : List Char) : Fills bindings (.run text) text
  | slot {inside : List Char} {expr : Rule.Expr} {value : Rule.Value Float} (read : Rule.parse inside = .ok expr)
      (evaluated : expr.eval Rule.floating bindings = .ok value) : Fills bindings (.slot inside) value.text

theorem Slot.stands_number {slot : Slot} {first : List Char} (decimal : ∀ char ∈ first, isDecimal char = true)
    (missing : first = [] → slot.standard.isSome) (numeric : slot.IsNumeric) :
    slot.Stands first (slot.number (some first)) := by
  unfold Slot.number Slot.numeral
  cases first with
  | nil =>
    obtain ⟨numeral, given⟩ := Option.isSome_iff_exists.1 (missing rfl)
    obtain ⟨value, read⟩ := Option.isSome_iff_exists.1 (numeric numeral given)
    have stands := Stands.standard given read
    have nothing : (some ([] : List Char)).filter (fun digits => !digits.isEmpty) = none := rfl
    rw [nothing]
    simpa [given, read] using stands
  | cons char others =>
    have nonempty : char :: others ≠ [] := List.cons_ne_nil _ _
    simp only [Option.filter, List.isEmpty_cons, Bool.not_false, if_true, Number.readFloat?_decimal nonempty decimal]
    split
    · next plain => exact .plain nonempty plain
    · next foreign => exact .foreign foreign

/-- Of names that are all different each has the value that stands beside it. -/
theorem ofList_of_mem {pairs : List (String × α)} {name : String} {value : α} (distinct : (pairs.map Prod.fst).Nodup)
    (member : (name, value) ∈ pairs) : Rule.Variables.ofList pairs name = some value := by
  induction pairs with
  | nil => cases member
  | cons pair pairs inductionHypothesis =>
    obtain ⟨absent, distinct⟩ := List.nodup_cons.1 distinct
    unfold Rule.Variables.ofList
    rcases List.mem_cons.1 member with rfl | later
    · simp only [List.find?_cons, beq_self_eq_true, Option.map_some]
    · have other : (pair.1 == name) = false :=
        beq_eq_false_iff_ne.2 fun same => absent (List.mem_map.2 ⟨_, later, same.symm⟩)
      simp only [List.find?_cons, other]
      exact inductionHypothesis distinct later

theorem Takes.slots (takes : Takes parts taken digits) :
    List.Forall₂ (fun slot first => (∀ char ∈ first, isDecimal char = true) ∧ (first = [] → slot.standard.isSome))
      (slots parts) digits := by
  induction takes with
  | nil => exact .nil
  | run _ _ inductionHypothesis => exact inductionHypothesis
  | slot decimal missing _ inductionHypothesis => exact .cons ⟨decimal, missing⟩ inductionHypothesis

theorem bindings_stand (named : Named parts) (takes : Takes parts taken digits)
    (numeric : ∀ slot ∈ slots parts, slot.IsNumeric) :
    List.Forall₂ (Slot.Binds (bindings (slots parts) digits)) (slots parts) digits := by
  refine List.forall₂_iff_zip.2 ⟨takes.slots.length_eq, fun {slot first} member => ?_⟩
  obtain ⟨decimal, missing⟩ := (List.forall₂_iff_zip.1 takes.slots).2 member
  refine ⟨_, Slot.stands_number decimal missing (numeric slot (List.of_mem_zip member).1), ofList_of_mem ?_ ?_⟩
  · have names : ((slots parts).zip digits).map (fun pair => String.ofList pair.1.name) =
        ((slots parts).map Slot.name).map String.ofList := by
      conv_rhs => rw [← List.map_fst_zip takes.slots.length_eq.le]
      rw [List.map_map, List.map_map]
      rfl
    rw [List.map_map]
    exact names ▸ named.distinct.map fun _ _ => String.ofList_injective
  · exact List.mem_map.2 ⟨(slot, first), member, rfl⟩

theorem mapM_fill {values : Rule.Variables Float}
    (each : ∀ part ∈ parts, ∃ text, part.fill values = .ok text ∧ part.Fills values text) :
    ∃ texts, List.Forall₂ (Part.Fills values) parts texts ∧ parts.mapM (·.fill values) = .ok texts := by
  induction parts with
  | nil => exact ⟨[], .nil, rfl⟩
  | cons part parts inductionHypothesis =>
    obtain ⟨text, filled, fills⟩ := each part List.mem_cons_self
    obtain ⟨texts, others, mapped⟩ := inductionHypothesis fun part member => each part (List.mem_cons_of_mem _ member)
    refine ⟨text :: texts, .cons fills others, ?_⟩
    rw [List.mapM_cons, filled, mapped]
    rfl

/-- A replacement whose slots hold expressions over known names is filled. -/
theorem fill_fills {values : Rule.Variables Float} {names : List String}
    (filled : Alias.parts replacement.toList = fillers) (bound : ∀ name ∈ names, (values name).isSome)
    (compiles : ∀ inside, .slot inside ∈ fillers → ∃ expr, Rule.compileWith names inside = .ok expr) :
    ∃ texts, List.Forall₂ (Part.Fills values) fillers texts ∧ fill values replacement.toList = .ok texts.flatten := by
  have each (part : Part) (member : part ∈ fillers) : ∃ text, part.fill values = .ok text ∧ part.Fills values text := by
    cases part with
    | run text => exact ⟨text, rfl, .run text⟩
    | slot inside =>
      obtain ⟨expr, compiled⟩ := compiles inside member
      obtain ⟨read, _⟩ := Rule.compileWith_ok compiled
      obtain ⟨value, evaluated⟩ : ∃ value, expr.eval Rule.floating values = .ok value :=
        Rule.eval_of_compileWith compiled bound
      exact ⟨value.text, bind_eq_ok.2 ⟨expr, read, bind_eq_ok.2 ⟨value, evaluated, rfl⟩⟩, .slot read evaluated⟩
  obtain ⟨texts, fills, mapped⟩ := mapM_fill each
  exact ⟨texts, fills, bind_eq_ok.2 ⟨texts, filled ▸ mapped, rfl⟩⟩

/-- Parts take the start of a text, each slot in its turn with as many digits as it can have. -/
structure Reads (parts : List Part) (text taken rest : List Char) (digits : List (List Char)) : Prop where
  split : taken ++ rest = text
  takes : Takes parts taken digits
  longest : ∀ other all, Takes parts other all → other <+: text →
    all = digits ∨ all.map List.length < digits.map List.length

theorem reads_head {fit : Fit} (first : (fits parts text).head? = some fit) :
    Reads parts text fit.taken fit.rest fit.digits := by
  obtain ⟨others, same⟩ := List.head?_eq_some_iff.1 first
  obtain ⟨takes, split⟩ := mem_fits.1 (List.mem_of_mem_head? first)
  refine ⟨split.symm, takes, fun taken digits otherTakes ⟨rest, whole⟩ => ?_⟩
  have member : ⟨taken, digits, rest⟩ ∈ fits parts text := mem_fits.2 ⟨otherTakes, whole.symm⟩
  have sorted := fits_sorted parts text
  rw [same] at member sorted
  rcases List.mem_cons.1 member with here | later
  · exact .inl (congrArg Fit.digits here)
  · exact .inr (List.rel_of_pairwise_cons sorted later)

/-- The alias for bonus dice. -/
def bonusDice : Alias :=
  ⟨.embedded "rb", .bonusDice, none⟩

end Alias

end Tabletop
