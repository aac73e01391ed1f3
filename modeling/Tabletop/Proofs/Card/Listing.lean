/-
This file proves for which cards the rows of the summary are the entries and abilities that it lists.

The rows are cut out of the text of the summary. So a colon in a key, a blank in a key or an expression, a line feed in
the name of the card and the line for death saving throws make other rows.
-/

import Tabletop.Card
import Tabletop.Proofs.Instant.Text
import Tabletop.Proofs.Text.Cut

namespace Tabletop

open Text Number

/-! Numbers -/

namespace Number

/-- Numbers have digits and perhaps a sign. -/
theorem mem_intText {number : Int} {char : Char} (member : char ∈ (intText number).toList) :
    char.isDigit = true ∨ char = '-' := by
  rw [intText, String.toList_ofList, writeInt] at member
  split at member
  · rcases List.mem_cons.1 member with rfl | digit
    · exact .inr rfl
    · exact .inl (isDigit_of_mem_writeNat digit)
  · exact .inl (isDigit_of_mem_writeNat member)

theorem intText_solid (number : Int) : Solid (intText number).toList := by
  intro char member
  rcases mem_intText member with digit | rfl
  · exact Instant.isBlank_of_isDigit digit
  · decide

theorem intText_ne_nil (number : Int) : (intText number).toList ≠ [] := by
  rw [intText, String.toList_ofList, writeInt]
  split
  · exact List.cons_ne_nil _ _
  · exact Nat.toDigits_ne_nil

theorem colon_not_mem_intText (number : Int) : ':' ∉ (intText number).toList := by
  intro member
  rcases mem_intText member with digit | same
  · cases digit
  · cases same

theorem natText_solid (number : Nat) : Solid (natText number).toList := by
  intro char member
  rw [natText, String.toList_ofList] at member
  exact Instant.isBlank_of_isDigit (isDigit_of_mem_writeNat member)

theorem natText_ne_nil (number : Nat) : (natText number).toList ≠ [] := by
  rw [natText, String.toList_ofList]
  exact Nat.toDigits_ne_nil

end Number

/-! Rows of words and lines -/

namespace CardRow

variable {group : String} {entries : List (String × String)} {row : CardRow} {word line : List Char}

/-- The key has no blanks and no colons, and the value has no blanks. -/
structure Plain (row : CardRow) : Prop where
  key : Solid row.key.toList
  colon : ':' ∉ row.key.toList
  value : Solid row.value.toList

theorem ofWord_plain (solid : Solid word) (group : List Char) : (ofWord group word).Plain := by
  unfold ofWord
  rcases cutAt?_single ':' word with ⟨absent, cut⟩ | ⟨before, behind, absent, rfl, cut⟩
  · rw [cut]
    exact ⟨by rwa [String.toList_ofList], by rwa [String.toList_ofList], by simp [Solid]⟩
  · rw [cut]
    have parts := solid.of_append
    exact ⟨by rw [String.toList_ofList]; exact parts.1, by rwa [String.toList_ofList],
      by rw [String.toList_ofList]; exact parts.2.of_cons⟩

/-- Whatever a line is, its rows have no blanks, and no colons in their keys. -/
theorem ofLine_plain (member : row ∈ ofLine line) : row.Plain := by
  unfold ofLine at member
  split at member
  · obtain ⟨word, there, rfl⟩ := List.mem_map.1 member
    exact ofWord_plain (mem_words there) _
  · obtain ⟨word, there, rfl⟩ := List.mem_map.1 member
    exact ofWord_plain (mem_words there) _

/-- A line that does not end with a blank has a row. -/
theorem ofLine_ne_nil (ends : EndsVisibly line) : ofLine line ≠ [] := by
  unfold ofLine
  split
  · next group values cut =>
    have text := cutAt?_eq_some cut
    obtain ⟨front, char, rfl, visible⟩ := ends
    have behind : EndsVisibly values := by
      have lasts := congrArg List.getLast? text
      rcases List.eq_nil_or_concat values with rfl | ⟨start, last, rfl⟩
      · rw [List.getLast?_concat, List.append_nil, List.getLast?_append] at lasts
        cases lasts
        cases visible
      · rw [List.getLast?_concat, List.concat_eq_append, ← List.append_assoc, List.getLast?_concat] at lasts
        cases lasts
        exact ⟨start, char, List.concat_eq_append .., visible⟩
    rw [ne_eq, List.map_eq_nil_iff]
    exact behind.words_ne_nil
  · rw [ne_eq, List.map_eq_nil_iff]
    exact ends.words_ne_nil

/-- The text of an entry in a summary. -/
def entryText (entry : String × String) : List Char :=
  entry.1.toList ++ ':' :: entry.2.toList

theorem ofWord_entryText {entry : String × String} (absent : ':' ∉ entry.1.toList) (group : String) :
    ofWord group.toList (entryText entry) = ⟨group, entry.1, entry.2⟩ := by
  rw [ofWord, entryText, show ':' :: entry.2.toList = [':'] ++ entry.2.toList from rfl, cutAt?_append absent]
  simp only [String.ofList_toList]

theorem entriesText_toList (entries : List (String × String)) :
    (entriesText entries).toList = [' '].intercalate (entries.map entryText) := by
  rw [entriesText, String.toList_intercalate, List.map_map]
  congr 1
  apply List.map_congr_left
  intro entry _
  simp [entryText]

theorem entryText_ne_nil (entry : String × String) : entryText entry ≠ [] :=
  List.append_ne_nil_of_right_ne_nil _ (List.cons_ne_nil _ _)

theorem Plain.entryText {entry : String × String} (plain : (CardRow.mk group entry.1 entry.2).Plain) :
    Solid (entryText entry) :=
  plain.key.append (plain.value.cons (by decide))

/-- The rows of a group of entries. -/
def listed (group : String) (entries : List (String × String)) : List CardRow :=
  entries.map fun entry => ⟨group, entry.1, entry.2⟩

theorem words_entriesText (plain : ∀ row ∈ listed group entries, row.Plain) :
    words (entriesText entries).toList = entries.map entryText := by
  rw [entriesText_toList]
  apply words_intercalate
  · intro word member
    obtain ⟨entry, there, rfl⟩ := List.mem_map.1 member
    exact entryText_ne_nil entry
  · intro word member
    obtain ⟨entry, there, rfl⟩ := List.mem_map.1 member
    exact (plain _ (List.mem_map_of_mem there)).entryText

theorem map_ofWord_entries (plain : ∀ row ∈ listed group entries, row.Plain) :
    (entries.map entryText).map (ofWord group.toList) = listed group entries := by
  rw [List.map_map]
  apply List.map_congr_left
  intro entry there
  exact ofWord_entryText (plain _ (List.mem_map_of_mem there)).colon group

/-- The line of a named group has a row for each entry. -/
theorem ofLine_labelled (absent : ':' ∉ group.toList) (plain : ∀ row ∈ listed group entries, row.Plain) :
    ofLine (group ++ ": " ++ entriesText entries).toList = listed group entries := by
  have cut : cutAt? [':', ' '] (group ++ ": " ++ entriesText entries).toList =
      some (group.toList, (entriesText entries).toList) := by
    rw [String.toList_append, String.toList_append, List.append_assoc]
    exact cutAt?_append absent _
  rw [ofLine, cut]
  dsimp only
  rw [words_entriesText plain, map_ofWord_entries plain]

/-- The colon of a number is no mark of a group: a digit or a sign stands behind it. -/
theorem cutAt?_number {key : String} (absent : ':' ∉ key.toList) (number : Int) (rest : List Char)
    (nothing : cutAt? [':', ' '] rest = none) :
    cutAt? [':', ' '] (entryText (key, intText number) ++ rest) = none := by
  obtain ⟨first, others, digits⟩ := List.exists_cons_of_ne_nil (intText_ne_nil number)
  have visible : first ≠ ' ' := by
    rintro rfl
    exact absurd (intText_solid number ' ' (digits ▸ List.mem_cons_self)) (by decide)
  have behind : cutAt? [':', ' '] ((intText number).toList ++ rest) = none := by
    rw [cutAt?_front (colon_not_mem_intText number), nothing]
    rfl
  have text : entryText (key, intText number) ++ rest = key.toList ++ (':' :: ((intText number).toList ++ rest)) :=
    List.append_assoc _ _ _
  rw [text, cutAt?_front absent]
  rw [digits, List.cons_append] at behind ⊢
  rw [cutAt?_cons_cons visible, behind]
  rfl

theorem cutAt?_numbers {values : List (String × Int)} (absent : ∀ entry ∈ values, ':' ∉ entry.1.toList) :
    cutAt? [':', ' ']
      ([' '].intercalate (values.map fun entry => entryText (entry.1, intText entry.2))) = none := by
  induction values with
  | nil => rfl
  | cons entry values inductionHypothesis =>
      have here := absent entry List.mem_cons_self
      have rest := inductionHypothesis fun other member => absent other (List.mem_cons_of_mem _ member)
      rw [List.map_cons]
      cases values with
      | nil =>
          have alone := cutAt?_number here entry.2 [] rfl
          rw [List.append_nil] at alone
          rwa [List.map_nil, List.intercalate_singleton]
      | cons next values =>
          rw [List.map_cons, List.intercalate_cons_cons, List.append_assoc]
          refine cutAt?_number here entry.2 _ ?_
          rw [List.singleton_append, cutAt?_cons (by decide)]
          rw [List.map_cons] at rest
          rw [rest]
          rfl

/-- The line of numbers without a group has a row for each of them. -/
theorem ofLine_values {values : Values} (plain : ∀ row ∈ listed "" (valueEntries values), row.Plain) :
    ofLine (entriesText (valueEntries values)).toList = listed "" (valueEntries values) := by
  have absent : ∀ entry ∈ values.toList, ':' ∉ entry.1.toList := fun entry member =>
    (plain _ (List.mem_map_of_mem (List.mem_map_of_mem member))).colon
  have cut : cutAt? [':', ' '] (entriesText (valueEntries values)).toList = none := by
    have none := cutAt?_numbers absent
    rwa [entriesText_toList, valueEntries, List.map_map]
  rw [ofLine, cut]
  dsimp only
  rw [words_entriesText plain]
  exact map_ofWord_entries plain

end CardRow

/-! Cards -/

namespace Card

open CardRow

/-- The groups of entries and abilities in the summary of a card. Numbers of cards without a game system have no
group. -/
def groups : Card → List (String × List (String × String))
  | .general card => [("", valueEntries card.skills)]
  | .coc card =>
    [("属性", valueEntries card.props), ("状态", valueEntries card.basic), ("技能", valueEntries card.skills),
      ("能力", card.core.abilities.toList)]
  | .dnd card =>
    [("属性", valueEntries card.props), ("状态", valueEntries card.basic), ("熟练技能", card.trainedSkills),
      ("其他", valueEntries card.items)]

/-- The rows for all entries and abilities that the summary of a card lists. -/
def listed (card : Card) : List CardRow :=
  card.groups.flatMap fun group => CardRow.listed group.1 group.2

/-- Death saving throws were made that count. -/
def HasSaves : Card → Prop
  | .dnd card => card.deathSaving ≠ ⟨0, 0⟩
  | _ => False

instance (card : Card) : Decidable card.HasSaves :=
  match card with
  | .dnd card => inferInstanceAs (Decidable (card.deathSaving ≠ ⟨0, 0⟩))
  | .general _ => inferInstanceAs (Decidable False)
  | .coc _ => inferInstanceAs (Decidable False)

/-- The kind of a card behind its name. -/
def kindText : Card → String
  | .general _ => " (general)"
  | .coc _ => " (coc)"
  | .dnd _ => " (dnd)"

/-- The line of a group of entries, if there are any. -/
def groupLine (group : String) (entries : List (String × String)) : List String :=
  if entries.isEmpty then []
  else if group = "" then [entriesText entries] else [group ++ ": " ++ entriesText entries]

/-- The line for death saving throws. -/
def saveLine : Card → List String
  | .dnd card =>
    if card.deathSaving.success = 0 ∧ card.deathSaving.failure = 0 then []
    else
      ["死亡豁免: 成功 " ++ natText card.deathSaving.success ++ " 失败 " ++ natText card.deathSaving.failure]
  | _ => []

variable {card : Card}

theorem labelledLine_eq {label : String} (named : label ≠ "") (entries : List (String × String)) :
    labelledLine label entries = groupLine label entries := by
  rw [labelledLine, groupLine, if_neg named]

/-- The lines behind the name of a card. -/
def contents (card : Card) : List String :=
  (card.groups.flatMap fun group => groupLine group.1 group.2) ++ card.saveLine

theorem summary_eq (card : Card) :
    card.summary = "\n".intercalate ((card.name ++ card.kindText) :: card.contents) := by
  cases card with
  | general card =>
      have empty : (valueEntries card.skills).isEmpty = card.skills.isEmpty := by
        rw [valueEntries, List.isEmpty_map, Std.ExtTreeMap.isEmpty_toList]
      simp only [summary, GeneralCard.summary, contents, groups, groupLine, saveLine, List.flatMap_cons,
        List.flatMap_nil, empty]
      cases card.skills.isEmpty with
      | true => rfl
      | false => rfl
  | coc card =>
      rw [summary, CocCard.summary, labelledLine_eq (by decide), labelledLine_eq (by decide),
        labelledLine_eq (by decide), labelledLine_eq (by decide)]
      simp only [contents, groups, saveLine, List.flatMap_cons, List.flatMap_nil, List.append_nil, List.append_assoc]
      rfl
  | dnd card =>
      rw [summary, DndCard.summary, labelledLine_eq (by decide), labelledLine_eq (by decide),
        labelledLine_eq (by decide), labelledLine_eq (by decide)]
      simp only [contents, groups, saveLine, List.flatMap_cons, List.flatMap_nil, List.append_nil, List.append_assoc]
      rfl

/-- The text of the first line. -/
def titleText (card : Card) : List Char :=
  card.name.toList ++ card.kindText.toList

theorem summary_toList (card : Card) :
    card.summary.toList = ['\n'].intercalate (card.titleText :: card.contents.map String.toList) := by
  rw [summary_eq, String.toList_intercalate, List.map_cons, String.toList_append]
  rfl

theorem kindText_eq (card : Card) : ∃ front, card.kindText.toList = front ++ [')'] := by
  cases card with
  | general card => exact ⟨" (general".toList, (by decide : " (general)".toList = _)⟩
  | coc card => exact ⟨" (coc".toList, (by decide : " (coc)".toList = _)⟩
  | dnd card => exact ⟨" (dnd".toList, (by decide : " (dnd)".toList = _)⟩

theorem lineFeed_not_mem_kindText (card : Card) : '\n' ∉ card.kindText.toList := by
  cases card with
  | general card => exact (by decide : '\n' ∉ " (general)".toList)
  | coc card => exact (by decide : '\n' ∉ " (coc)".toList)
  | dnd card => exact (by decide : '\n' ∉ " (dnd)".toList)

/-- What stands behind a line feed in the first line ends with the kind of the card. -/
theorem getLast?_kindText (card : Card) (front : List Char) :
    ∃ last, (splitBy (· == '\n') (front ++ card.kindText.toList)).getLast? = some last ∧ EndsVisibly last := by
  obtain ⟨kind, same⟩ := card.kindText_eq
  rw [same, ← List.append_assoc]
  have goes : (')' == '\n') = false := by decide
  obtain ⟨piece, last⟩ := getLast?_splitBy (· == '\n') goes (front ++ kind)
  exact ⟨_, last, piece, ')', rfl, by decide⟩

/-- The text is a line of its own. -/
structure IsLine (text : String) : Prop where
  whole : '\n' ∉ text.toList
  ends : EndsVisibly text.toList

/-- The rows that come from line feeds in the first line. -/
def strayRows (card : Card) : List CardRow :=
  ((splitBy (· == '\n') card.titleText).tail.map dropReturn).flatMap ofLine

theorem rows_eq (single : ∀ line ∈ card.contents, IsLine line) :
    card.rows = card.strayRows ++ card.contents.flatMap fun line => ofLine line.toList := by
  have whole : ∀ line ∈ card.contents.map String.toList, '\n' ∉ line := by
    intro line member
    obtain ⟨text, there, rfl⟩ := List.mem_map.1 member
    exact (single text there).whole
  have pieces : splitBy (· == '\n') card.summary.toList =
      splitBy (· == '\n') card.titleText ++ card.contents.map String.toList := by
    rw [summary_toList]
    exact splitBy_intercalate whole _
  obtain ⟨last, isLast, ends⟩ : ∃ last,
      (splitBy (· == '\n') card.summary.toList).getLast? = some last ∧ EndsVisibly last := by
    rw [pieces, List.getLast?_append, List.getLast?_map]
    cases behind : card.contents.getLast? with
    | none => exact card.getLast?_kindText card.name.toList
    | some line => exact ⟨_, rfl, (single line (List.mem_of_getLast? behind)).ends⟩
  have kept : card.contents.map (dropReturn ∘ String.toList) = card.contents.map String.toList :=
    List.map_congr_left fun line there => (single line there).ends.dropReturn
  rw [rows, summaryLines, lines_eq ends isLast, pieces, strayRows]
  cases first : splitBy (· == '\n') card.titleText with
  | nil => exact absurd first (splitBy_ne_nil _ _)
  | cons title others =>
      rw [List.cons_append, List.map_cons, List.tail_cons, List.tail_cons, List.map_append, List.flatMap_append,
        List.map_map, kept, List.flatMap_map (f := String.toList)]

/-- There are stray rows exactly if there is a line feed in the name of the card. -/
theorem strayRows_eq_nil : card.strayRows = [] ↔ '\n' ∉ card.name.toList := by
  constructor
  · rintro none member
    obtain ⟨front, behind, same⟩ := List.append_of_mem member
    obtain ⟨last, isLast, ends⟩ := card.getLast?_kindText behind
    have pieces : splitBy (· == '\n') card.titleText =
        splitBy (· == '\n') front ++ splitBy (· == '\n') (behind ++ card.kindText.toList) := by
      rw [titleText, same, List.append_assoc, List.cons_append, splitBy_append (by rfl)]
    have there : last ∈ (splitBy (· == '\n') card.titleText).tail := by
      rw [pieces]
      cases first : splitBy (· == '\n') front with
      | nil => exact absurd first (splitBy_ne_nil _ _)
      | cons piece others => exact List.mem_append_right _ (List.mem_of_getLast? isLast)
    have row := List.flatMap_eq_nil_iff.1 none _ (List.mem_map_of_mem there)
    rw [ends.dropReturn] at row
    exact ofLine_ne_nil ends row
  · intro absent
    have whole : ∀ char ∈ card.titleText, (char == '\n') = false := by
      intro char member
      rw [beq_eq_false_iff_ne]
      rintro rfl
      rcases List.mem_append.1 member with name | kind
      · exact absent name
      · exact card.lineFeed_not_mem_kindText kind
    rw [strayRows, splitBy_of_absent whole]
    rfl

/-! Lines of groups -/

theorem isLine_entriesText {group : String} {entries : List (String × String)} (some : entries ≠ [])
    (plain : ∀ row ∈ CardRow.listed group entries, row.Plain) : IsLine (entriesText entries) := by
  have words : ∀ word ∈ entries.map entryText, Solid word ∧ word ≠ [] := by
    intro word member
    obtain ⟨entry, there, rfl⟩ := List.mem_map.1 member
    have row := plain _ (List.mem_map_of_mem there)
    exact ⟨row.entryText, entryText_ne_nil entry⟩
  constructor
  · rw [entriesText_toList]
    intro member
    rcases mem_intercalate member with blank | ⟨word, there, inside⟩
    · exact absurd blank (by decide)
    · exact absurd ((words word there).1 _ inside) (by decide)
  · rw [entriesText_toList]
    refine endsVisibly_intercalate _ (mt List.map_eq_nil_iff.1 some) fun word member => ?_
    exact (words word member).1.endsVisibly (words word member).2

/-- A group has no name and holds numbers, or its name is a plain text. -/
theorem groups_named {group : String} {entries : List (String × String)} (listed : (group, entries) ∈ card.groups) :
    (group = "" ∧ ∃ values, entries = valueEntries values) ∨
      group ≠ "" ∧ ':' ∉ group.toList ∧ '\n' ∉ group.toList := by
  cases card with
  | general card =>
      cases List.mem_singleton.1 listed
      exact .inl ⟨rfl, _, rfl⟩
  | coc card =>
      have name : group ∈ (Card.coc card).groups.map Prod.fst := List.mem_map_of_mem listed
      exact .inr ((by decide : ∀ name ∈ ["属性", "状态", "技能", "能力"],
        name ≠ "" ∧ ':' ∉ name.toList ∧ '\n' ∉ name.toList) group name)
  | dnd card =>
      have name : group ∈ (Card.dnd card).groups.map Prod.fst := List.mem_map_of_mem listed
      exact .inr ((by decide : ∀ name ∈ ["属性", "状态", "熟练技能", "其他"],
        name ≠ "" ∧ ':' ∉ name.toList ∧ '\n' ∉ name.toList) group name)

/-- The line of a group stands alone and has a row for each entry. -/
theorem groupLine_rows {group : String} {entries : List (String × String)} (there : (group, entries) ∈ card.groups)
    (plain : ∀ row ∈ CardRow.listed group entries, row.Plain) :
    (∀ line ∈ groupLine group entries, IsLine line) ∧
      (groupLine group entries).flatMap (fun line => ofLine line.toList) = CardRow.listed group entries := by
  unfold groupLine
  split
  · next none =>
    rw [List.isEmpty_iff.1 none]
    exact ⟨fun line member => absurd member List.not_mem_nil, rfl⟩
  · next some =>
    have single := isLine_entriesText (mt List.isEmpty_iff.2 some) plain
    rcases groups_named there with ⟨rfl, values, rfl⟩ | ⟨named, colon, lineFeed⟩
    · rw [if_pos rfl, List.flatMap_singleton]
      exact ⟨fun line member => List.mem_singleton.1 member ▸ single, ofLine_values plain⟩
    · rw [if_neg named, List.flatMap_singleton]
      refine ⟨fun line member => ?_, ofLine_labelled colon plain⟩
      rw [List.mem_singleton.1 member]
      constructor
      · rw [String.toList_append, String.toList_append]
        simp only [List.mem_append, not_or]
        exact ⟨⟨lineFeed, by decide⟩, single.whole⟩
      · rw [String.toList_append]
        exact single.ends.append _

/-- The line for death saving throws stands alone, and it has rows. -/
theorem isLine_saves (saving : DeathSaving) :
    IsLine ("死亡豁免: 成功 " ++ natText saving.success ++ " 失败 " ++ natText saving.failure) := by
  have absent (number : Nat) : '\n' ∉ (natText number).toList := fun member =>
    absurd (natText_solid number _ member) (by decide)
  constructor
  · simp only [String.toList_append, List.mem_append, not_or]
    exact ⟨⟨⟨by decide, absent _⟩, by decide⟩, absent _⟩
  · rw [String.toList_append]
    exact ((natText_solid saving.failure).endsVisibly (natText_ne_nil saving.failure)).append _

theorem saveLine_cases (card : Card) : card.saveLine = [] ∧ ¬card.HasSaves ∨
    ∃ line, card.saveLine = [line] ∧ IsLine line ∧ card.HasSaves := by
  cases card with
  | general card => exact .inl ⟨rfl, id⟩
  | coc card => exact .inl ⟨rfl, id⟩
  | dnd card =>
      have zero : card.deathSaving.success = 0 ∧ card.deathSaving.failure = 0 ↔ card.deathSaving = ⟨0, 0⟩ := by
        rw [DeathSaving.mk.injEq]
      rw [saveLine, HasSaves]
      split
      · next none => exact .inl ⟨rfl, not_not.2 (zero.1 none)⟩
      · next some => exact .inr ⟨_, rfl, isLine_saves card.deathSaving, mt zero.2 some⟩

/-- The rows are those for the entries and abilities of the card, and those that come from the name of the card and from
death saving throws. -/
theorem rows_of_plain (plain : ∀ row ∈ card.listed, row.Plain) :
    card.rows = card.strayRows ++ (card.listed ++ card.saveLine.flatMap fun line => ofLine line.toList) := by
  have lines : ∀ group ∈ card.groups, (∀ line ∈ groupLine group.1 group.2, IsLine line) ∧
      (groupLine group.1 group.2).flatMap (fun line => ofLine line.toList) = CardRow.listed group.1 group.2 :=
    fun group there => groupLine_rows there fun row member => plain row (List.mem_flatMap.2 ⟨group, there, member⟩)
  have single : ∀ line ∈ card.contents, IsLine line := by
    intro line member
    rcases List.mem_append.1 member with entry | saves
    · obtain ⟨group, there, inside⟩ := List.mem_flatMap.1 entry
      exact (lines group there).1 line inside
    · rcases card.saveLine_cases with ⟨none, _⟩ | ⟨text, some, single, _⟩
      · rw [none] at saves
        cases saves
      · rw [some] at saves
        exact List.mem_singleton.1 saves ▸ single
  rw [rows_eq single, contents, List.flatMap_append, List.flatMap_assoc, listed,
    List.flatMap_congr fun group there => (lines group there).2]

/-- Whatever a card holds, its rows have no blanks, and no colons in their keys. -/
theorem rows_plain (card : Card) {row : CardRow} (member : row ∈ card.rows) : row.Plain := by
  obtain ⟨line, _, there⟩ := List.mem_flatMap.1 member
  exact ofLine_plain there

/-- The rows of a card are those for its entries and abilities exactly if its name has one line, no death saving throws
count, and keys and values are plain. -/
theorem rows_eq_listed_iff (card : Card) : card.rows = card.listed ↔
    '\n' ∉ card.name.toList ∧ ¬card.HasSaves ∧ ∀ row ∈ card.listed, row.Plain := by
  constructor
  · intro same
    have plain : ∀ row ∈ card.listed, row.Plain := fun row member => card.rows_plain (same ▸ member)
    have sizes := congrArg List.length (same.symm.trans (rows_of_plain plain))
    simp only [List.length_append] at sizes
    refine ⟨strayRows_eq_nil.1 (List.eq_nil_of_length_eq_zero (by omega)), ?_, plain⟩
    rcases card.saveLine_cases with ⟨_, none⟩ | ⟨text, some, single, _⟩
    · exact none
    · have positive := List.length_pos_iff.2 (ofLine_ne_nil single.ends)
      rw [some, List.flatMap_singleton] at sizes
      omega
  · rintro ⟨name, saves, plain⟩
    rw [rows_of_plain plain, strayRows_eq_nil.2 name]
    rcases card.saveLine_cases with ⟨none, _⟩ | ⟨_, _, _, some⟩
    · rw [none, List.flatMap_nil, List.append_nil, List.nil_append]
    · exact absurd some saves

end Card

end Tabletop
