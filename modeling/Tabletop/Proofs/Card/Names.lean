/-
This file proves what names stand for. Names without ASCII letters stand for exactly themselves.
-/

import Tabletop.Card.Entry
import Tabletop.Card.Names

namespace Tabletop

namespace Text

/-- The text has no ASCII letters, so no other text differs from it in case alone. -/
def isCaseless (text : String) : Bool :=
  text.toList.all fun char => !char.isAlpha

theorem isCaseless_iff {text : String} : isCaseless text = true ↔ ∀ char ∈ text.toList, char.isAlpha = false := by
  simp only [isCaseless, List.all_eq_true, Bool.not_eq_true']

theorem isAlpha_of_upper {char : Char} (upper : char.val ≥ 'A'.val ∧ char.val ≤ 'Z'.val) :
    char.isAlpha = true := by
  change (decide (char.val ≥ 'A'.val ∧ char.val ≤ 'Z'.val) || char.isLower) = true
  rw [decide_eq_true upper, Bool.true_or]

/-- A letter lies in one of two ranges. -/
theorem toNat_of_isAlpha {char : Char} (letter : char.isAlpha = true) :
    65 ≤ char.toNat ∧ char.toNat ≤ 90 ∨ 97 ≤ char.toNat ∧ char.toNat ≤ 122 := by
  change (decide (char.val ≥ 'A'.val ∧ char.val ≤ 'Z'.val) ||
    decide (char.val ≥ 'a'.val) && decide (char.val ≤ 'z'.val)) = true at letter
  rw [Bool.or_eq_true, Bool.and_eq_true, decide_eq_true_iff, decide_eq_true_iff, decide_eq_true_iff] at letter
  exact letter

theorem toLower_of_caseless {char : Char} (caseless : char.isAlpha = false) :
    char.toLower = char := by
  have notUpper : ¬(char.val ≥ 'A'.val ∧ char.val ≤ 'Z'.val) := by
    intro upper
    rw [isAlpha_of_upper upper] at caseless
    cases caseless
  exact dif_neg notUpper

theorem isAlpha_toLower (char : Char) : char.toLower.isAlpha = char.isAlpha := by
  unfold Char.toLower
  split
  · next upper =>
    rw [isAlpha_of_upper upper]
    refine Bool.or_eq_true_iff.2 (.inr ?_)
    have lower : char.val + ('a'.val - 'A'.val) ≥ 'a'.val ∧
        char.val + ('a'.val - 'A'.val) ≤ 'z'.val := by
      simp only [ge_iff_le, Char.reduceVal, UInt32.le_iff_toNat_le, UInt32.reduceToNat,
        UInt32.reduceSub, UInt32.toNat_add] at upper ⊢
      omega
    exact Bool.and_eq_true_iff.2 ⟨decide_eq_true lower.1, decide_eq_true lower.2⟩
  · rfl

theorem toLower_inj_of_caseless {char other : Char} (caseless : char.isAlpha = false)
    (same : char.toLower = other.toLower) : char = other := by
  have otherCaseless : other.isAlpha = false := by
    rw [← isAlpha_toLower, ← same, isAlpha_toLower, caseless]
  rwa [toLower_of_caseless caseless, toLower_of_caseless otherCaseless] at same

theorem asciiLower_inj_of_caseless {text other : List Char}
    (caseless : ∀ char ∈ text, char.isAlpha = false) (same : asciiLower text = asciiLower other) :
    text = other := by
  induction text generalizing other with
  | nil => exact (List.map_eq_nil_iff.1 same.symm).symm
  | cons char text inductionHypothesis =>
      cases other with
      | nil => cases same
      | cons otherChar other =>
          obtain ⟨first, others⟩ := List.cons.inj same
          rw [toLower_inj_of_caseless (caseless char List.mem_cons_self) first,
            inductionHypothesis (fun char member => caseless char (List.mem_cons_of_mem _ member))
              others]

theorem sameUpToAsciiCase_refl (text : String) : sameUpToAsciiCase text text = true :=
  BEq.refl _

theorem sameUpToAsciiCase_comm (left right : String) :
    sameUpToAsciiCase left right = sameUpToAsciiCase right left :=
  BEq.comm

/-- Without letters, texts that are the same up to case are the same. -/
theorem sameUpToAsciiCase_caseless {text other : String} (caseless : isCaseless text = true)
    (same : sameUpToAsciiCase text other = true) : text = other := by
  apply String.toList_injective
  exact asciiLower_inj_of_caseless (isCaseless_iff.1 caseless) (eq_of_beq same)

/-- Whether a list of names without letters has a name does not depend on its case. -/
theorem contains_congr {names : List String} (caseless : ∀ name ∈ names, isCaseless name = true)
    {left right : String} (same : sameUpToAsciiCase left right = true) :
    names.contains left = names.contains right ∧ (left ∈ names → left = right) := by
  have back := (sameUpToAsciiCase_comm right left).trans same
  have forth (member : left ∈ names) : left = right := sameUpToAsciiCase_caseless (caseless left member) same
  refine ⟨?_, forth⟩
  rw [Bool.eq_iff_iff, List.contains_iff_mem, List.contains_iff_mem]
  exact ⟨fun member => forth member ▸ member,
    fun member => sameUpToAsciiCase_caseless (caseless right member) back ▸ member⟩

end Text

open Text

/-- A name that starts with no word for a difficulty is not split. -/
theorem Difficulty.split_of_plain {text : List Char}
    (plain : ∀ word ∈ words, afterWord? word.1.toList text = none) : split text = (.normal, text) := by
  unfold split
  dsimp only
  rw [List.findSome?_eq_none_iff.2]
  · rfl
  · rintro ⟨word, difficulty⟩ listed
    dsimp only
    rw [plain (word, difficulty) listed]

namespace Synonyms

/-- A name is the key that it stands for or one of the key's synonyms, up to ASCII case. -/
theorem keyOf_cases (synonyms : Synonyms) (name : String) :
    ∃ synonym ∈ synonyms.keyOf name :: synonyms.namesOf (synonyms.keyOf name),
      sameUpToAsciiCase synonym name = true := by
  unfold keyOf
  cases found : synonyms.find? fun pair => sameUpToAsciiCase pair.1 name with
  | none => exact ⟨name, List.mem_cons_self, sameUpToAsciiCase_refl name⟩
  | some pair =>
      have same := List.find?_some found
      refine ⟨pair.1, List.mem_cons_of_mem _ ?_, same⟩
      exact List.mem_map.2
        ⟨pair, List.mem_filter.2 ⟨List.mem_of_find?_eq_some found, beq_self_eq_true _⟩, rfl⟩

end Synonyms

namespace Table

variable {α : Type} (table : Table α) {key name : String}

/-- Only an entry under exactly this name is found. -/
theorem lookup?_caseless (caseless : isCaseless name = true) :
    table.lookup? name = table[name]?.map fun value => (name, value) := by
  unfold lookup?
  cases kept : table[name]? with
  | some value => rfl
  | none =>
      rw [Option.map_none, List.find?_eq_none]
      rintro ⟨other, value⟩ member same
      have equal : name = other :=
        sameUpToAsciiCase_caseless caseless ((sameUpToAsciiCase_comm name other).trans same)
      rw [Std.ExtTreeMap.mem_toList_iff_getElem?_eq_some, ← equal, kept] at member
      cases member

/-- The key under which a name is kept is the name up to ASCII case. -/
theorem keyFor_same (name : String) : sameUpToAsciiCase (table.keyFor name) name = true := by
  unfold keyFor lookup?
  split
  · exact sameUpToAsciiCase_refl name
  · cases found : table.toList.find? fun entry => sameUpToAsciiCase entry.1 name with
    | none => exact sameUpToAsciiCase_refl name
    | some entry =>
        have same := List.find?_some found
        exact same

/-- No other name is kept under a key without letters. -/
theorem keyFor_ne (caseless : isCaseless key = true) (other : name ≠ key) :
    table.keyFor name ≠ key := by
  intro same
  have close := table.keyFor_same name
  rw [same] at close
  exact other (sameUpToAsciiCase_caseless caseless close).symm

end Table

end Tabletop
