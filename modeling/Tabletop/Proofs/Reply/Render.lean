/-
This file proves that reply templates mean what they say.

A template is a tree of literal text, variables and sections. Rendering its printed form gives what the tree says:
the text as it is, the values of the variables as they are, and the bodies of the sections that are shown.
-/

import Tabletop.Proofs.Text.Cut
import Tabletop.Reply.Text

namespace Tabletop

namespace Reply

open Text

/-- A template as a tree. Each of its pieces comes with what stands behind it. -/
inductive Template where
  | done
  | literal (text : List Char) (rest : Template)
  | value (name : List Char) (rest : Template)
  | block (name : List Char) (inverted : Bool) (body rest : Template)

/-- A name that can stand in a tag. -/
structure IsName (name : List Char) : Prop where
  some : name ≠ []
  trimmed : trim name = name
  noOpening : '\x7b' ∉ name
  noClosing : '\x7d' ∉ name
  noSign : ∀ char ∈ name.head?, char ≠ '#' ∧ char ≠ '^' ∧ char ≠ '/'

def tagText (inside : List Char) : List Char :=
  opening ++ (inside ++ closing)

/-- The sign at the start of a section. -/
def blockSign (inverted : Bool) : Char :=
  if inverted then '^' else '#'

namespace Template

/-- Literal text has no opening brace, and all names can stand in tags. -/
def Legal : Template → Prop
  | .done => True
  | .literal text rest => '\x7b' ∉ text ∧ rest.Legal
  | .value name rest => IsName name ∧ rest.Legal
  | .block name _ body rest => IsName name ∧ body.Legal ∧ rest.Legal

def print : Template → List Char
  | .done => []
  | .literal text rest => text ++ rest.print
  | .value name rest => tagText name ++ rest.print
  | .block name inverted body rest =>
    tagText (blockSign inverted :: name) ++ (body.print ++ (tagText ('/' :: name) ++ rest.print))

/-- A variable is set if it has a value that is neither empty nor the word false. -/
def isSet (bindings : Variables) (name : List Char) : Bool :=
  match bindings[String.ofList name]? with
  | some text => text != "" && text != "false"
  | none => false

/-- What a template says: its text, the values of its variables and the bodies of the sections that are shown. -/
def meaning (bindings : Variables) : Template → List Char
  | .done => []
  | .literal text rest => text ++ rest.meaning bindings
  | .value name rest =>
    (match bindings[String.ofList name]? with
      | some text => text.toList
      | none => []) ++ rest.meaning bindings
  | .block name inverted body rest =>
    (if isSet bindings name = !inverted then body.meaning bindings else []) ++ rest.meaning bindings

end Template

variable {bindings : Variables} {text inside behind name : List Char}

/-! Tags -/

theorem cutAtTag?_cons {char : Char} (other : char ≠ '\x7b') (text : List Char) :
    cutAtTag? (char :: text) =
      (cutAtTag? text).map fun cut => { cut with before := char :: cut.before } := by
  unfold cutAtTag? opening
  rw [cutAt?_cons other]
  cases cutAt? ['\x7b', '\x7b'] text with
  | none => rfl
  | some parts => cases found : cutAt? closing parts.2 <;> simp [found]

theorem cutAtTag?_tagText (closed : '\x7d' ∉ inside) (behind : List Char) :
    cutAtTag? (tagText inside ++ behind) = some ⟨[], inside, behind⟩ := by
  have opened : cutAt? opening (tagText inside ++ behind) = some ([], inside ++ (closing ++ behind)) := by
    rw [tagText, List.append_assoc, List.append_assoc]
    exact cutAt?_mark _
  unfold cutAtTag?
  rw [opened]
  dsimp only
  rw [closing, cutAt?_append closed]
  rfl

theorem ofInside_name (isName : IsName name) : Tag.ofInside name = .name name := by
  unfold Tag.ofInside
  rw [isName.trimmed]
  split
  · next found => exact absurd rfl (isName.noSign '#' rfl).1
  · next found => exact absurd rfl (isName.noSign '^' rfl).2.1
  · next found => exact absurd rfl (isName.noSign '/' rfl).2.2
  · rfl

theorem ofInside_start (isName : IsName name) (inverted : Bool) :
    Tag.ofInside (blockSign inverted :: name) = .start name inverted := by
  unfold Tag.ofInside
  cases inverted with
  | false =>
      rw [trim_cons (by decide) isName.some isName.trimmed]
      change Tag.start (trim name) false = _
      rw [isName.trimmed]
  | true =>
      rw [trim_cons (by decide) isName.some isName.trimmed]
      change Tag.start (trim name) true = _
      rw [isName.trimmed]

theorem ofInside_finish (isName : IsName name) : Tag.ofInside ('/' :: name) = .finish name := by
  unfold Tag.ofInside
  rw [trim_cons (by decide) isName.some isName.trimmed]
  change Tag.finish (trim name) = _
  rw [isName.trimmed]

theorem IsName.closed (isName : IsName name) {sign : Char} (notClosing : sign ≠ '\x7d') :
    '\x7d' ∉ sign :: name := by
  rw [List.mem_cons, not_or]
  exact ⟨Ne.symm notClosing, isName.noClosing⟩

theorem blockSign_ne (inverted : Bool) : blockSign inverted ≠ '\x7d' := by
  cases inverted <;> decide

/-! Ends of sections -/

/-- A text in front of what the search for the end of a section finds. -/
def prepend (before : List Char) (found : Option (List Char × List Char)) : Option (List Char × List Char) :=
  found.map fun (body, rest) => (before ++ body, rest)

theorem prepend_prepend (first second : List Char) (found : Option (List Char × List Char)) :
    prepend first (prepend second found) = prepend (first ++ second) found := by
  cases found <;> simp [prepend]

/-- The depth behind a tag inside a section. The tag that ends the section has none. -/
def Tag.depthBehind? (name : List Char) (depth : Nat) : Tag → Option Nat
  | .start other _ => some (if other = name then depth + 1 else depth)
  | .finish other => if other = name then if depth = 0 then none else some (depth - 1) else some depth
  | .name _ => some depth

theorem sectionEnd?_of_none (missing : cutAtTag? text = none) (name : List Char) (depth : Nat) :
    sectionEnd? name depth text = none := by
  rw [sectionEnd?]
  split
  · rfl
  · next cut found =>
    rw [missing] at found
    cases found

/-- The search goes on behind a tag unless it is the end. -/
theorem sectionEnd?_of_cut {cut : TagCut} (found : cutAtTag? text = some cut) (name : List Char) (depth : Nat) :
    sectionEnd? name depth text =
      match (Tag.ofInside cut.inside).depthBehind? name depth with
      | none => some (cut.before, cut.behind)
      | some next => prepend (cut.before ++ tagText cut.inside) (sectionEnd? name next cut.behind) := by
  have skips (next : Nat) :
      ((sectionEnd? name next cut.behind).map fun (body, rest) =>
        (cut.before ++ opening ++ cut.inside ++ closing ++ body, rest)) =
      prepend (cut.before ++ tagText cut.inside) (sectionEnd? name next cut.behind) := by
    simp only [prepend, tagText, List.append_assoc]
  rw [sectionEnd?]
  split
  · next missing =>
    rw [missing] at found
    cases found
  · next other here =>
    obtain rfl : other = cut := Option.some.inj (here.symm.trans found)
    dsimp only
    simp only [skips]
    cases Tag.ofInside other.inside with
    | name word => rfl
    | start word inverted => rfl
    | finish word =>
        simp only [Tag.depthBehind?]
        split
        · split <;> rfl
        · rfl

theorem sectionEnd?_cons {char : Char} (other : char ≠ '\x7b') (name : List Char) (depth : Nat)
    (text : List Char) :
    sectionEnd? name depth (char :: text) = prepend [char] (sectionEnd? name depth text) := by
  have cutBehind := cutAtTag?_cons other text
  cases found : cutAtTag? text with
  | none =>
      rw [found] at cutBehind
      rw [sectionEnd?_of_none found, sectionEnd?_of_none cutBehind]
      rfl
  | some cut =>
      rw [found] at cutBehind
      rw [sectionEnd?_of_cut found, sectionEnd?_of_cut cutBehind]
      dsimp only
      cases (Tag.ofInside cut.inside).depthBehind? name depth with
      | none => rfl
      | some next =>
          rw [prepend_prepend]
          rfl

theorem sectionEnd?_literal (plain : '\x7b' ∉ text) (name : List Char) (depth : Nat) (behind : List Char) :
    sectionEnd? name depth (text ++ behind) = prepend text (sectionEnd? name depth behind) := by
  induction text with
  | nil => cases found : sectionEnd? name depth behind <;> simp [prepend, found]
  | cons char text inductionHypothesis =>
      have other : char ≠ '\x7b' := fun same => plain (same ▸ List.mem_cons_self)
      rw [List.cons_append, sectionEnd?_cons other,
        inductionHypothesis fun member => plain (List.mem_cons_of_mem _ member), prepend_prepend]
      rfl

theorem sectionEnd?_tagText (closed : '\x7d' ∉ inside) (name : List Char) (depth : Nat) (behind : List Char) :
    sectionEnd? name depth (tagText inside ++ behind) =
      match (Tag.ofInside inside).depthBehind? name depth with
      | none => some ([], behind)
      | some next => prepend (tagText inside) (sectionEnd? name next behind) :=
  sectionEnd?_of_cut (cutAtTag?_tagText closed behind) name depth

/-- No template closes a section that begins in front of it. The induction is on the template: behind each section
inside it the depth is the same as in front. -/
theorem sectionEnd?_print (template : Template) (legal : template.Legal) (name : List Char) (depth : Nat)
    (behind : List Char) :
    sectionEnd? name depth (template.print ++ behind) =
      prepend template.print (sectionEnd? name depth behind) := by
  induction template generalizing depth behind with
  | done => cases found : sectionEnd? name depth behind <;> simp [prepend, found, Template.print]
  | literal text rest inductionHypothesis =>
      rw [Template.print, List.append_assoc, sectionEnd?_literal legal.1, inductionHypothesis legal.2,
        prepend_prepend]
  | value word rest inductionHypothesis =>
      rw [Template.print, List.append_assoc, sectionEnd?_tagText legal.1.noClosing, ofInside_name legal.1]
      dsimp only [Tag.depthBehind?]
      rw [inductionHypothesis legal.2, prepend_prepend]
  | block word inverted body rest bodyHypothesis restHypothesis =>
      obtain ⟨isName, bodyLegal, restLegal⟩ := legal
      -- The depth inside the section, from which its end leads back.
      let inside := if word = name then depth + 1 else depth
      have back : (Tag.finish word).depthBehind? name inside = some depth := by
        by_cases same : word = name
        · simp [Tag.depthBehind?, inside, same]
        · simp [Tag.depthBehind?, inside, same]
      rw [Template.print, List.append_assoc, List.append_assoc, List.append_assoc,
        sectionEnd?_tagText (isName.closed (blockSign_ne inverted)), ofInside_start isName]
      change prepend _ (sectionEnd? name inside _) = _
      rw [bodyHypothesis bodyLegal, sectionEnd?_tagText (isName.closed (by decide)), ofInside_finish isName, back]
      dsimp only
      rw [restHypothesis restLegal, prepend_prepend, prepend_prepend, prepend_prepend]
      simp only [List.append_assoc]

/-- A printed section is cut at its own end. -/
theorem cutSection_print (body : Template) (legal : body.Legal) (isName : IsName name) (behind : List Char) :
    cutSection name (body.print ++ (tagText ('/' :: name) ++ behind)) = (body.print, behind) := by
  have ending : sectionEnd? name 0 (tagText ('/' :: name) ++ behind) = some ([], behind) := by
    rw [sectionEnd?_tagText (isName.closed (by decide)), ofInside_finish isName, Tag.depthBehind?, if_pos rfl,
      if_pos rfl]
  rw [cutSection, sectionEnd?_print body legal, ending]
  change (body.print ++ [], behind) = _
  rw [List.append_nil]

/-! Rendering -/

theorem render_of_none (bindings : Variables) (missing : cutAtTag? text = none) : render bindings text = text := by
  rw [render]
  split
  · rfl
  · next cut found =>
    rw [missing] at found
    cases found

theorem render_of_cut (bindings : Variables) {cut : TagCut} (found : cutAtTag? text = some cut) :
    render bindings text = cut.before ++
      match Tag.ofInside cut.inside with
      | .name name => bindings.textOf name ++ render bindings cut.behind
      | .finish _ => render bindings cut.behind
      | .start name inverted =>
        (if bindings.isSet name != inverted then render bindings (cutSection name cut.behind).1 else []) ++
          render bindings (cutSection name cut.behind).2 := by
  rw [render]
  split
  · next missing =>
    rw [missing] at found
    cases found
  · next other here =>
    obtain rfl : other = cut := Option.some.inj (here.symm.trans found)
    rfl

theorem render_literal (bindings : Variables) (plain : '\x7b' ∉ text) (behind : List Char) :
    render bindings (text ++ behind) = text ++ render bindings behind := by
  induction text with
  | nil => rfl
  | cons char text inductionHypothesis =>
      have other : char ≠ '\x7b' := fun same => plain (same ▸ List.mem_cons_self)
      rw [List.cons_append, List.cons_append,
        ← inductionHypothesis fun member => plain (List.mem_cons_of_mem _ member)]
      have cutBehind := cutAtTag?_cons other (text ++ behind)
      cases found : cutAtTag? (text ++ behind) with
      | none =>
          rw [found] at cutBehind
          rw [render_of_none bindings found, render_of_none bindings cutBehind]
      | some cut =>
          rw [found] at cutBehind
          rw [render_of_cut bindings found, render_of_cut bindings cutBehind]
          rfl

theorem textOf_eq (bindings : Variables) (name : List Char) : bindings.textOf name =
    match bindings[String.ofList name]? with
    | some text => text.toList
    | none => [] := by
  unfold Variables.textOf
  rw [Std.ExtTreeMap.getD_eq_getD_getElem?]
  cases bindings[String.ofList name]? <;> rfl

theorem isSet_eq (bindings : Variables) (name : List Char) :
    bindings.isSet name = Template.isSet bindings name := by
  unfold Variables.isSet Template.isSet
  rw [textOf_eq]
  cases bindings[String.ofList name]? with
  | none => rfl
  | some text =>
      have empty : text.toList.isEmpty = (text == "") := by
        rw [Bool.eq_iff_iff, List.isEmpty_iff, beq_iff_eq, String.toList_eq_nil_iff]
      have word : (text.toList == "false".toList) = (text == "false") := by
        rw [Bool.eq_iff_iff, beq_iff_eq, beq_iff_eq, String.toList_inj]
      dsimp only
      rw [empty, bne, word]
      rfl

/-- Rendering a printed template gives what the template says. -/
theorem render_print (bindings : Variables) (template : Template) (legal : template.Legal) :
    render bindings template.print = template.meaning bindings := by
  induction template with
  | done => exact render_of_none bindings rfl
  | literal text rest inductionHypothesis =>
      rw [Template.print, render_literal bindings legal.1, inductionHypothesis legal.2, Template.meaning]
  | value name rest inductionHypothesis =>
      rw [Template.print, render_of_cut bindings (cutAtTag?_tagText legal.1.noClosing _)]
      dsimp only
      rw [ofInside_name legal.1, List.nil_append]
      dsimp only
      rw [textOf_eq, inductionHypothesis legal.2]
      rfl
  | block name inverted body rest bodyHypothesis restHypothesis =>
      obtain ⟨isName, bodyLegal, restLegal⟩ := legal
      have closed := isName.closed (blockSign_ne inverted)
      rw [Template.print, render_of_cut bindings (cutAtTag?_tagText closed _)]
      dsimp only
      rw [ofInside_start isName, List.nil_append]
      dsimp only
      rw [cutSection_print body bodyLegal isName, bodyHypothesis bodyLegal, restHypothesis restLegal, isSet_eq,
        Template.meaning]
      cases Template.isSet bindings name <;> cases inverted <;> rfl

/-- A section with its own variable and with sections of its own name. -/
def nested : Template :=
  .block ['a'] false
    (.literal ['['] (.value ['a'] (.block ['a'] false (.literal ['x'] .done)
      (.block ['a'] true (.literal ['y'] .done) (.literal [']'] .done)))))
    (.block ['b'] true (.literal ['z'] .done) .done)

theorem nested_legal : nested.Legal := by
  have first : IsName ['a'] := ⟨by decide, by decide, by decide, by decide, by simp⟩
  have second : IsName ['b'] := ⟨by decide, by decide, by decide, by decide, by simp⟩
  simp [nested, Template.Legal, first, second]

/-- The value of the variable looks like a tag and is kept as it is. -/
theorem render_print_nested :
    nested.Legal ∧
      render ((∅ : Variables).insert "a" "\x7b\x7bb\x7d\x7d") nested.print =
        "[\x7b\x7bb\x7d\x7dx]z".toList := by
  refine ⟨nested_legal, ?_⟩
  rw [render_print _ nested nested_legal]
  decide +kernel

end Reply

end Tabletop
