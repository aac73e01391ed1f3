/-
This file proves that a pattern can be read between parentheses.

What reads a part of a pattern never looks at what stands behind the part, a closing parenthesis least of all. So a
text that is a pattern of its own is the same pattern with a parenthesis behind it, whatever was opened in front. Only a
comment takes everything up to the end of its line, the parenthesis included.
-/

import Tabletop.Pattern.Parser
import Tabletop.Proofs.Text.Cut

namespace Tabletop.Pattern

open Text

variable {α β : Type} {flags : Flags}

/-! Parts that end by themselves -/

/-- A closing parenthesis behind the text ends what is read. -/
def Stops (read : List Char → Option (α × List Char)) : Prop :=
  ∀ text value rest, read text = some (value, rest) → read (text ++ [')']) = some (value, rest ++ [')'])

theorem stops_some (value : α) : Stops fun text => some (value, text) := by
  intro text value rest found
  cases found
  rfl

theorem Stops.map {first : List Char → Option (α × List Char)} (stops : Stops first) (change : α → β) :
    Stops fun text => (first text).map fun read => (change read.1, read.2) := by
  intro text value rest found
  obtain ⟨⟨middle, behind⟩, read, same⟩ := Option.map_eq_some_iff.1 found
  cases same
  dsimp only
  rw [stops _ _ _ read]
  rfl

theorem after?_paren {lead : List Char} (absent : ')' ∉ lead) (text : List Char) :
    after? lead (text ++ [')']) = (after? lead text).map (· ++ [')']) := by
  induction lead generalizing text with
  | nil => rfl
  | cons expected lead inductionHypothesis =>
      cases text with
      | nil => exact if_neg fun same : expected = ')' => absent (same ▸ List.mem_cons_self)
      | cons char text =>
          rw [List.cons_append, after?, after?, inductionHypothesis (List.not_mem_of_not_mem_cons absent)]
          split <;> rfl

/-- A mark without a parenthesis is found where it was. -/
theorem cutAt?_paren {mark text : List Char} (nonempty : mark ≠ []) (absent : ')' ∉ mark) :
    cutAt? mark (text ++ [')']) = (cutAt? mark text).map fun (before, behind) => (before, behind ++ [')']) := by
  obtain ⟨first, others, rfl⟩ := List.exists_cons_of_ne_nil nonempty
  induction text with
  | nil =>
      have nowhere : after? (first :: others) [')'] = none := after?_paren absent []
      simp only [List.nil_append, cutAt?, nowhere]
      rfl
  | cons char text inductionHypothesis =>
      have here := after?_paren absent (char :: text)
      rw [List.cons_append] at here ⊢
      rw [cutAt?, cutAt?, here, inductionHypothesis]
      cases after? (first :: others) (char :: text) with
      | none =>
          cases cutAt? (first :: others) text <;> rfl
      | some behind => rfl

/-- A text up to a mark may be looked up. -/
theorem stops_cut (mark : Char) (find? : List Char → Option α) (change : α → β) : Stops fun text => do
    let (name, behind) ← cutAt? [mark] text
    return (change (← find? name), behind) := by
  intro text value rest found
  obtain ⟨⟨name, behind⟩, cut, further⟩ := Option.bind_eq_some_iff.1 found
  obtain ⟨item, known, same⟩ := Option.bind_eq_some_iff.1 further
  cases same
  refine Option.bind_eq_some_iff.2 ⟨_, cutAt?_behind cut _, ?_⟩
  exact Option.bind_eq_some_iff.2 ⟨item, known, rfl⟩

/-- It suffices to look at the texts behind each first character. -/
theorem stops_of_cons {read : List Char → Option (α × List Char)} (nothing : read [] = none)
    (each : ∀ char, Stops fun rest => read (char :: rest)) : Stops read := by
  intro text value rest found
  cases text with
  | nil =>
    rw [nothing] at found
    cases found
  | cons char text => exact each char _ _ _ found

theorem stops_readProperty? (negated : Bool) : Stops (readProperty? negated) := by
  have upTo (sign : CharSet → CharSet) := stops_cut '\x7d' propertySet? sign
  refine stops_of_cons rfl fun letter => ?_
  by_cases brace : letter = '\x7b'
  · subst brace
    refine stops_of_cons rfl fun next => ?_
    by_cases caret : next = '^'
    · subst caret
      exact upTo _
    · intro text value rest found
      simp only [readProperty?, List.cons.injEq, caret, false_and, imp_false, not_false_eq_true, implies_true]
        at found ⊢
      exact upTo _ (next :: text) _ _ found
  · intro text value rest found
    simp only [readProperty?, brace, IsEmpty.forall_iff, implies_true] at found ⊢
    obtain ⟨set, known, same⟩ := Option.bind_eq_some_iff.1 found
    cases same
    exact Option.bind_eq_some_iff.2 ⟨set, known, rfl⟩

theorem readWordEdge_paren (text : List Char) :
    readWordEdge (text ++ [')']) = ((readWordEdge text).1, (readWordEdge text).2 ++ [')']) := by
  unfold readWordEdge
  simp only [List.findSome?_cons, List.findSome?_nil]
  rw [after?_paren (by decide), after?_paren (by decide)]
  cases after? "\x7bstart\x7d".toList text with
  | some rest => rfl
  | none => cases after? "\x7bend\x7d".toList text <;> rfl

theorem stops_readHex? (width : Nat) : Stops (readHex? width) := by
  intro text value rest found
  unfold readHex? at found
  split at found
  · exact stops_cut '\x7d' hexChar? id _ _ _ found
  · next notBrace =>
    split at found
    · cases found
    · next long =>
      obtain ⟨char, known, same⟩ := Option.map_eq_some_iff.1 found
      cases same
      have enough : width ≤ text.length := by
        rw [List.length_take] at long
        omega
      unfold readHex?
      split
      · next rest same =>
        cases text with
        | nil => cases same
        | cons char text =>
          cases same
          exact absurd rfl (notBrace _)
      · rw [List.take_append_of_le_length enough, List.drop_append_of_le_length enough, if_neg long, known]
        rfl

theorem stops_readEscape? : Stops (readEscape? flags) := by
  intro text value left found
  unfold readEscape? at found
  split at found
  case h_1 => cases found
  case h_2 => exact (stops_readProperty? _).map _ _ _ _ found
  case h_3 => exact (stops_readProperty? _).map _ _ _ _ found
  case h_4 => exact (stops_readHex? _).map _ _ _ _ found
  case h_5 => exact (stops_readHex? _).map _ _ _ _ found
  case h_6 => exact (stops_readHex? _).map _ _ _ _ found
  case h_15 rest =>
    cases found
    exact congrArg (fun read => some (Escape.place read.1, read.2)) (readWordEdge_paren rest)
  case h_19 =>
    split at found
    · simp only [readEscape?, List.cons_append, *]
      exact stops_some _ _ _ _ found
    · split at found
      · simp only [readEscape?, List.cons_append, *]
        exact stops_some _ _ _ _ found
      · cases found
  all_goals exact stops_some _ _ _ _ found

theorem readNamedSet?_paren (text : List Char) :
    readNamedSet? (text ++ [')']) = (readNamedSet? text).map fun (set, rest) => (set, rest ++ [')']) := by
  cases text with
  | nil => rfl
  | cons char text =>
    by_cases colon : char = ':'
    · subst colon
      have cut : cutAt? [':', ']'] (text ++ [')']) = _ := cutAt?_paren (by decide) (by decide)
      simp only [List.cons_append, readNamedSet?, cut]
      cases cutAt? [':', ']'] text with
      | none => rfl
      | some parts =>
        simp only [Option.map_some, Option.bind_eq_bind, Option.bind_some, Option.map_bind]
        rfl
    · simp only [List.cons_append, readNamedSet?, List.cons.injEq, colon, false_and, IsEmpty.forall_iff, implies_true,
        Option.map_none]

theorem stops_readMember? : Stops (readMember? flags) := by
  intro text value left found
  unfold readMember? at found
  split at found
  · next rest =>
    split at found
    · cases found
    · next notPlace =>
      have read := stops_readEscape? _ _ _ found
      simp only [List.cons_append, readMember?, read]
      split
      · next same =>
        cases same
        exact (notPlace _ _ found).elim
      · rfl
  · next char rest notSlash =>
    simp only [List.cons_append, readMember?]
    exact stops_some _ _ _ _ found
  · cases found

theorem stops_readMembers? : Stops (readMembers? flags) := by
  intro text value left found
  obtain ⟨⟨first, rest⟩, read, further⟩ := Option.bind_eq_some_iff.1 found
  refine Option.bind_eq_some_iff.2 ⟨_, stops_readMember? _ _ _ read, ?_⟩
  clear found read
  dsimp only at further ⊢
  split at further
  · cases further
    rfl
  · cases further
    rfl
  · next behind notClosed notMinus =>
    obtain ⟨⟨second, last⟩, read, ranged⟩ := Option.bind_eq_some_iff.1 further
    cases behind with
    | nil => cases read
    | cons char behind =>
        have bracket : char ≠ ']' := fun same => notClosed behind (same ▸ rfl)
        have minus : char ≠ '-' := fun same => notMinus behind (same ▸ rfl)
        have again := stops_readMember? _ _ _ read
        simp only [List.cons_append, List.cons.injEq, bracket, minus, false_and, IsEmpty.forall_iff, implies_true]
          at again ⊢
        refine Option.bind_eq_some_iff.2 ⟨_, again, ?_⟩
        split at ranged
        · next low high behind same =>
          cases same
          dsimp only at ranged ⊢
          split at ranged
          · next ordered =>
            cases ranged
            exact if_pos ordered
          · cases ranged
        · cases ranged
  · cases further
  · next notClosed notMinus notRange nonempty =>
    cases further
    obtain ⟨char, rest, rfl⟩ := List.exists_cons_of_ne_nil nonempty
    have minus : char ≠ '-' := fun same => notRange rest (same ▸ rfl)
    simp only [List.cons_append, List.cons.injEq, minus, false_and, IsEmpty.forall_iff, implies_true]
    rfl

/-- Another character in front of the parenthesis stood there before. -/
theorem paren_cons {text rest : List Char} {char : Char} (same : text ++ [')'] = char :: rest) (other : char ≠ ')') :
    ∃ behind, text = char :: behind ∧ behind ++ [')'] = rest := by
  cases text with
  | nil => exact absurd (List.cons.inj same).1.symm other
  | cons first text =>
      obtain ⟨rfl, behind⟩ := List.cons.inj same
      exact ⟨text, rfl, behind⟩

/-- A run of characters that a parenthesis is not among ends where it did. -/
theorem takeWhile_paren {among : Char → Bool} (apart : among ')' = false) (text : List Char) :
    (text ++ [')']).takeWhile among = text.takeWhile among :=
  ((isRun_takeWhile among text).append apart []).takeWhile_eq

theorem dropWhile_paren {among : Char → Bool} (apart : among ')' = false) (text : List Char) :
    (text ++ [')']).dropWhile among = text.dropWhile among ++ [')'] :=
  ((isRun_takeWhile among text).append apart []).dropWhile_eq

theorem readFirst_paren (text : List Char) :
    readFirst (text ++ [')']) = ((readFirst text).1, (readFirst text).2 ++ [')']) := by
  unfold readFirst
  rw [takeWhile_paren (by decide), dropWhile_paren (by decide)]
  cases text.takeWhile (· == '-') with
  | cons => rfl
  | nil =>
    cases text.dropWhile (· == '-') with
    | nil => rfl
    | cons char rest =>
      by_cases bracket : char = ']'
      · subst bracket
        rfl
      · simp only [List.cons_append, List.cons.injEq, bracket, false_and, IsEmpty.forall_iff, implies_true]

/-- A set without a caret in front is read as it stands. -/
theorem readOpened_members {char : Char} (plain : char ≠ '^') (fuel : Nat) (text : List Char) :
    readSet.readOpened flags (fuel + 1) (char :: text) =
      readSet flags fuel (readFirst (char :: text)).1 (readFirst (char :: text)).2 := by
  unfold readSet.readOpened
  split
  · next same => cases same
  · next same =>
    cases same
    exact absurd rfl plain
  · next same _ =>
    cases same
    rfl

/-- The members of a set that are read with some fuel are read with more, and with a parenthesis behind the set. -/
def SetsReadOn (flags : Flags) (fuel : Nat) : Prop :=
  ∀ more, fuel ≤ more → ∀ pending text set rest, readSet flags fuel pending text = some (set, rest) →
    readSet flags more pending (text ++ [')']) = some (set, rest ++ [')'])

/-- So is a whole set. -/
def OpenedReadsOn (flags : Flags) (fuel : Nat) : Prop :=
  ∀ more, fuel ≤ more → ∀ text set rest, readSet.readOpened flags fuel text = some (set, rest) →
    readSet.readOpened flags more (text ++ [')']) = some (set, rest ++ [')'])

theorem setsReadOn_succ {fuel : Nat} (setsReadOn : SetsReadOn flags fuel) (openedReadsOn : OpenedReadsOn flags fuel) :
    SetsReadOn flags (fuel + 1) := by
  intro more enough pending text set rest found
  obtain ⟨more, rfl⟩ := Nat.exists_eq_add_of_le' (Nat.le_trans (Nat.le_add_left 1 fuel) enough)
  have goesOn := setsReadOn more (Nat.le_of_succ_le_succ enough)
  unfold readSet at found
  split at found
  case h_1 => cases found
  case h_2 =>
    cases found
    rfl
  case h_3 behind =>
    have further := goesOn _ _ _ _ found
    exact further
  case h_4 behind =>
    have further := goesOn _ _ _ _ found
    exact further
  case h_5 behind =>
    have further := goesOn _ _ _ _ found
    exact further
  case h_6 behind =>
    simp only [List.cons_append, readSet, readNamedSet?_paren]
    split at found
    · next known =>
      rw [known]
      exact goesOn _ _ _ _ found
    · next unknown =>
      obtain ⟨⟨inner, after⟩, read, further⟩ := Option.bind_eq_some_iff.1 found
      rw [unknown]
      refine Option.bind_eq_some_iff.2 ⟨_, openedReadsOn more (Nat.le_of_succ_le_succ enough) _ _ _ read, ?_⟩
      exact goesOn _ _ _ _ further
  case h_7 nonempty notClosed notBoth notMinus notEither notOpened =>
    obtain ⟨char, text, rfl⟩ := List.exists_cons_of_ne_nil nonempty
    -- No two signs in a row and no bracket stand at the start with the parenthesis either.
    have still {sign : Char} (other : sign ≠ ')') (notTwice : ∀ last, char :: text = sign :: sign :: last → False)
        (last : List Char) : char :: (text ++ [')']) = sign :: sign :: last → False := by
      intro same
      obtain ⟨rfl, same⟩ := List.cons.inj same
      obtain ⟨_, rfl, _⟩ := paren_cons same other
      exact notTwice _ rfl
    have stillNotBoth := still (by decide) notBoth
    have stillNotMinus := still (by decide) notMinus
    have stillNotEither := still (by decide) notEither
    have stillNotClosed (last : List Char) : char :: (text ++ [')']) = ']' :: last → False :=
      fun same => notClosed text ((List.cons.inj same).1 ▸ rfl)
    have stillNotOpened (last : List Char) : char :: (text ++ [')']) = '[' :: last → False :=
      fun same => notOpened text ((List.cons.inj same).1 ▸ rfl)
    have stillNonempty : char :: (text ++ [')']) = [] → False := nofun
    simp only [List.cons_append, readSet]
    split at found
    · next blank =>
      refine (if_pos blank).trans ?_
      exact goesOn _ _ _ _ found
    · next visible =>
      refine (if_neg visible).trans ?_
      obtain ⟨⟨inner, behind⟩, read, further⟩ := Option.bind_eq_some_iff.1 found
      exact Option.bind_eq_some_iff.2 ⟨_, stops_readMembers? _ _ _ read, goesOn _ _ _ _ further⟩

theorem openedReadsOn_succ {fuel : Nat} (setsReadOn : SetsReadOn flags fuel) : OpenedReadsOn flags (fuel + 1) := by
  intro more enough text set rest found
  obtain ⟨more, rfl⟩ := Nat.exists_eq_add_of_le' (Nat.le_trans (Nat.le_add_left 1 fuel) enough)
  have goesOn := setsReadOn more (Nat.le_of_succ_le_succ enough)
  cases text with
  | nil => exact goesOn _ [] _ _ found
  | cons char text =>
    by_cases caret : char = '^'
    · subst caret
      obtain ⟨⟨inner, behind⟩, read, same⟩ := Option.map_eq_some_iff.1 found
      cases same
      have further := goesOn _ _ _ _ read
      have same := readFirst_paren text
      refine Option.map_eq_some_iff.2 ⟨(inner, rest ++ [')']), ?_, rfl⟩
      rw [List.append_eq, same]
      exact further
    · rw [readOpened_members caret] at found
      rw [List.cons_append, readOpened_members caret, ← List.cons_append, readFirst_paren]
      exact goesOn _ _ _ _ found

theorem setsReadOn (fuel : Nat) : SetsReadOn flags fuel ∧ OpenedReadsOn flags fuel := by
  induction fuel with
  | zero =>
    constructor
    · intro more enough pending text set rest found
      cases found
    · intro more enough text set rest found
      cases found
  | succ fuel inductionHypothesis =>
    exact ⟨setsReadOn_succ inductionHypothesis.1 inductionHypothesis.2, openedReadsOn_succ inductionHypothesis.1⟩

theorem stops_readBracket? : Stops (readBracket? flags) := by
  intro text value rest found
  refine (setsReadOn _).2 _ ?_ _ _ _ found
  rw [List.length_append]
  omega

theorem stops_readPart? : Stops (readPart? flags) := by
  intro text node rest found
  unfold readPart? at found
  split at found
  case h_1 => cases found
  case h_5 => exact stops_readBracket?.map _ _ _ _ found
  case h_6 => exact stops_readEscape?.map _ _ _ _ found
  case h_7 =>
    simp only [readPart?, List.cons_append, *]
    exact stops_some _ _ _ _ found
  all_goals exact stops_some _ _ _ _ found

theorem stops_readGroupName? (names : List (Option String)) : Stops (readGroupName? names) := by
  intro text name rest found
  obtain ⟨⟨letters, behind⟩, cut, further⟩ := Option.bind_eq_some_iff.1 found
  refine Option.bind_eq_some_iff.2 ⟨_, cutAt?_behind cut _, ?_⟩
  dsimp only at further ⊢
  split at further
  · next fits =>
    cases further
    exact if_pos fits
  · cases further

theorem readFlags?_paren {text rest : List Char} {negated dangling opens : Bool} {used : List Char} {set : Flags}
    (found : readFlags? flags negated dangling used text = some (set, opens, rest)) :
    readFlags? flags negated dangling used (text ++ [')']) = some (set, opens, rest ++ [')']) := by
  induction text generalizing flags negated dangling used with
  | nil => cases found
  | cons char text inductionHypothesis =>
    unfold readFlags? at found
    split at found
    · next same =>
      cases same
      split at found
      · cases found
      · next fits =>
        cases found
        exact if_neg fits
    · next same =>
      cases same
      split at found
      · cases found
      · next fits =>
        cases found
        exact if_neg fits
    · next same =>
      cases same
      split at found
      · cases found
      · next fits => exact (if_neg fits).trans (inductionHypothesis found)
    · next letter others notColon notClosed notMinus same =>
      cases same
      split at found
      · cases found
      · next fresh =>
        split at found
        · next known =>
          simp only [List.cons_append, readFlags?, fresh, known]
          exact inductionHypothesis found
        · cases found
    · next same => cases same

theorem stops_readCount? : Stops readCount? := by
  intro text value rest found
  unfold readCount? trimStart at found ⊢
  dsimp only at found ⊢
  rw [dropWhile_paren (by decide), takeWhile_paren (by decide), dropWhile_paren (by decide)]
  split at found
  · cases found
  · next fits =>
    cases found
    rw [if_neg fits, dropWhile_paren (by decide)]

theorem stops_readRounds? : Stops readRounds? := by
  intro text rounds rest found
  obtain ⟨⟨least, behind⟩, read, further⟩ := Option.bind_eq_some_iff.1 found
  refine Option.bind_eq_some_iff.2 ⟨_, stops_readCount? _ _ _ read, ?_⟩
  dsimp only at further ⊢
  split at further
  · cases further
    rfl
  · cases further
    rfl
  · next behind notBrace =>
    obtain ⟨⟨most, last⟩, read, ended⟩ := Option.bind_eq_some_iff.1 further
    have again := stops_readCount? _ _ _ read
    cases behind with
    | nil => cases read
    | cons char behind =>
      have brace : char ≠ '\x7d' := fun same => notBrace behind (same ▸ rfl)
      simp only [List.cons_append, List.cons.injEq, brace, false_and, IsEmpty.forall_iff, implies_true] at again ⊢
      refine Option.bind_eq_some_iff.2 ⟨_, again, ?_⟩
      dsimp only at ended ⊢
      split at ended
      · split at ended
        · cases ended
        · next ordered =>
          cases ended
          exact if_neg ordered
      · cases ended
  · cases further

theorem stops_repeatLatest? (flags : Flags) (rounds : Rounds) (parts : Parts) :
    Stops (repeatLatest? flags rounds parts) := by
  intro text value rest found
  unfold repeatLatest? at found ⊢
  split at found
  · next inner others =>
    cases found
    cases text with
    | nil => rfl
    | cons char text =>
      by_cases mark : char = '?'
      · subst mark
        rfl
      · simp only [List.cons_append, List.cons.injEq, mark, false_and, IsEmpty.forall_iff, implies_true]
  · cases found

/-! Alternatives and groups -/

/-- The second reader reads what the first one reads, with a parenthesis behind the text. It ends in front of that
parenthesis, unless a comment at the end of the text takes it. -/
def Ends (read again : List Char → Option (Node × Reading × List Char)) : Prop :=
  ∀ text node inside rest, read text = some (node, inside, rest) → ∃ left,
    again (text ++ [')']) = some (node, inside, left) ∧ (left = rest ++ [')'] ∨ rest = [] ∧ left = [])

theorem Stops.ends {first : List Char → Option (α × List Char)}
    {next again : α → List Char → Option (Node × Reading × List Char)} (stops : Stops first)
    (ends : ∀ value, Ends (next value) (again value)) :
    Ends (fun text => (first text).bind fun read => next read.1 read.2)
      (fun text => (first text).bind fun read => again read.1 read.2) := by
  intro text node inside rest found
  obtain ⟨⟨value, behind⟩, read, further⟩ := Option.bind_eq_some_iff.1 found
  obtain ⟨left, same, ended⟩ := ends _ _ _ _ _ further
  exact ⟨left, Option.bind_eq_some_iff.2 ⟨_, stops _ _ _ read, same⟩, ended⟩

/-- Alternatives that are read with some fuel are read with more. -/
def ReadsOn (fuel : Nat) : Prop :=
  ∀ more, fuel ≤ more → ∀ reading done parts,
    Ends (readAlternatives fuel reading done parts) (readAlternatives more reading done parts)

/-- So are groups, which end in front of the parenthesis in any case. -/
def GroupsReadOn (fuel : Nat) : Prop :=
  ∀ more, fuel ≤ more → ∀ reading name text node inside rest,
    readAlternatives.readGroup fuel reading name text = some (node, inside, rest) →
      readAlternatives.readGroup more reading name (text ++ [')']) = some (node, inside, rest ++ [')'])

theorem groupsReadOn_succ {fuel : Nat} (readsOn : ReadsOn fuel) : GroupsReadOn (fuel + 1) := by
  intro more enough reading name text node inside rest found
  obtain ⟨more, rfl⟩ := Nat.exists_eq_add_of_le' (Nat.le_trans (Nat.le_add_left 1 fuel) enough)
  obtain ⟨⟨inner, behind, last⟩, read, closed⟩ := Option.bind_eq_some_iff.1 found
  obtain ⟨left, again, ended⟩ := readsOn more (Nat.le_of_succ_le_succ enough) _ _ _ _ _ _ _ read
  refine Option.bind_eq_some_iff.2 ⟨_, again, ?_⟩
  dsimp only at closed ⊢
  split at closed
  · cases closed
    obtain rfl := ended.resolve_right fun nothing => List.cons_ne_nil _ _ nothing.1
    rfl
  · cases closed

/-- At the end of the text nothing is left, however much fuel there is. -/
theorem readAlternatives_nil {fuel more : Nat} {reading inside : Reading} {done : List Node} {parts : Parts}
    {node : Node} {rest : List Char} (found : readAlternatives fuel reading done parts [] = some (node, inside, rest))
    (enough : fuel ≤ more) :
    rest = [] ∧ readAlternatives more reading done parts [] = some (node, inside, []) := by
  cases fuel with
  | zero => cases found
  | succ fuel =>
    obtain ⟨more, rfl⟩ := Nat.exists_eq_add_of_le' (Nat.le_trans (Nat.le_add_left 1 fuel) enough)
    cases found
    exact ⟨rfl, rfl⟩

theorem readsOn_succ {fuel : Nat} (readsOn : ReadsOn fuel) (groupsReadOn : GroupsReadOn fuel) : ReadsOn (fuel + 1) := by
  intro more enough reading done parts text node inside rest found
  obtain ⟨more, rfl⟩ := Nat.exists_eq_add_of_le' (Nat.le_trans (Nat.le_add_left 1 fuel) enough)
  replace enough := Nat.le_of_succ_le_succ enough
  have goesOn (reading : Reading) (done : List Node) (parts : Parts) := readsOn more enough reading done parts
  have grouped (name : Option String) :
      Ends (fun text => (readAlternatives.readGroup fuel reading name text).bind fun read =>
          readAlternatives fuel read.2.1 done (some read.1 :: parts) read.2.2)
        (fun text => (readAlternatives.readGroup more reading name text).bind fun read =>
          readAlternatives more read.2.1 done (some read.1 :: parts) read.2.2) := by
    intro text node inside rest found
    obtain ⟨⟨inner, after, behind⟩, read, further⟩ := Option.bind_eq_some_iff.1 found
    obtain ⟨left, same, ended⟩ := goesOn _ _ _ _ _ _ _ further
    exact ⟨left, Option.bind_eq_some_iff.2 ⟨_, groupsReadOn more enough _ _ _ _ _ _ read, same⟩, ended⟩
  have repeated (rounds : Rounds) := (stops_repeatLatest? reading.flags rounds parts).ends
    fun parts => goesOn reading done parts
  unfold readAlternatives at found
  dsimp only at found
  split at found
  case h_1 =>
    cases found
    exact ⟨[')'], rfl, .inl rfl⟩
  case h_2 =>
    cases found
    exact ⟨_, rfl, .inl rfl⟩
  case h_3 => exact goesOn _ _ _ _ _ _ _ found
  case h_4 => exact repeated _ _ _ _ _ found
  case h_5 => exact repeated _ _ _ _ _ found
  case h_6 => exact repeated _ _ _ _ _ found
  case h_7 => exact stops_readRounds?.ends repeated _ _ _ _ found
  case h_8 => exact (stops_readGroupName? _).ends (fun name => grouped (some name)) _ _ _ _ found
  case h_9 => exact (stops_readGroupName? _).ends (fun name => grouped (some name)) _ _ _ _ found
  case h_10 behind notNamed notShort =>
    obtain ⟨⟨flags, opens, after⟩, read, further⟩ := Option.bind_eq_some_iff.1 found
    have stillNotNamed : ∀ last, behind ++ [')'] = 'P' :: '<' :: last → False := by
      intro last same
      obtain ⟨_, rfl, behind⟩ := paren_cons same (by decide)
      obtain ⟨_, rfl, _⟩ := paren_cons behind (by decide)
      exact notNamed _ rfl
    have stillNotShort : ∀ last, behind ++ [')'] = '<' :: last → False := by
      intro last same
      obtain ⟨_, rfl, _⟩ := paren_cons same (by decide)
      exact notShort _ rfl
    simp only [List.cons_append, readAlternatives, readFlags?_paren read]
    dsimp only at further
    cases opens with
    | false => exact goesOn _ _ _ _ _ _ _ further
    | true =>
      obtain ⟨⟨inner, within, last⟩, opened, closed⟩ := Option.bind_eq_some_iff.1 further
      obtain ⟨left, again, ended⟩ := goesOn _ _ _ _ _ _ _ opened
      dsimp only at closed
      split at closed
      · obtain rfl := ended.resolve_right fun nothing => List.cons_ne_nil _ _ nothing.1
        obtain ⟨left, same, ended⟩ := goesOn _ _ _ _ _ _ _ closed
        refine ⟨left, Option.bind_eq_some_iff.2 ⟨_, rfl, ?_⟩, ended⟩
        exact Option.bind_eq_some_iff.2 ⟨_, again, same⟩
      · cases closed
  case h_11 behind _ _ plain =>
    have stillPlain : ∀ last, behind ++ [')'] = '?' :: last → False := by
      intro last same
      obtain ⟨_, rfl, _⟩ := paren_cons same (by decide)
      exact plain _ rfl
    have stillNotNamed (last : List Char) : behind ++ [')'] = '?' :: 'P' :: '<' :: last → False := stillPlain _
    have stillNotShort (last : List Char) : behind ++ [')'] = '?' :: '<' :: last → False := stillPlain _
    simp only [List.cons_append, readAlternatives]
    exact grouped none _ _ _ _ found
  case h_12 char behind _ _ _ _ _ _ _ _ _ notOpened =>
    have stillNotNamed (last : List Char) (same : char = '(') : behind ++ [')'] = '?' :: 'P' :: '<' :: last → False :=
      (notOpened same).elim
    have stillNotShort (last : List Char) (same : char = '(') : behind ++ [')'] = '?' :: '<' :: last → False :=
      (notOpened same).elim
    have stillPlain (last : List Char) (same : char = '(') : behind ++ [')'] = '?' :: last → False :=
      (notOpened same).elim
    simp only [List.cons_append, readAlternatives]
    split at found
    · next blank =>
      rw [if_pos blank]
      exact goesOn _ _ _ _ _ _ _ found
    · next visible =>
      rw [if_neg visible]
      split at found
      · next comment =>
        rw [if_pos comment, List.dropWhile_append]
        cases last : behind.dropWhile (· != '\n') with
        | cons char behind =>
          rw [last] at found
          exact goesOn _ _ _ _ _ _ _ found
        | nil =>
          -- The comment goes on to the end of the text, and so over the parenthesis.
          rw [last] at found
          obtain ⟨rfl, nothing⟩ := readAlternatives_nil found enough
          exact ⟨[], nothing, .inr ⟨rfl, rfl⟩⟩
      · next plain =>
        rw [if_neg plain]
        exact stops_readPart?.ends (fun part => goesOn _ _ (some part :: parts)) _ _ _ _ found

theorem readsOn (fuel : Nat) : ReadsOn fuel ∧ GroupsReadOn fuel := by
  induction fuel with
  | zero =>
    constructor
    · intro more enough reading done parts text node inside rest found
      cases found
    · intro more enough reading name text node inside rest found
      cases found
  | succ fuel inductionHypothesis =>
    exact ⟨readsOn_succ inductionHypothesis.1 inductionHypothesis.2, groupsReadOn_succ inductionHypothesis.1⟩

/-- The way of reading that patterns begin with. -/
def Reading.plain : Reading :=
  ⟨⟨false, false, false, false, false, false⟩, []⟩

/-- What stands in parentheses behind a caret is read first, and then what follows them. -/
theorem readAlternatives_caret (fuel : Nat) (text : List Char) :
    readAlternatives (fuel + 2) .plain [] [] ("^(?:".toList ++ text) =
      (readAlternatives fuel .plain [] [] text).bind fun (inner, inside, rest) =>
        match rest with
        | ')' :: rest => readAlternatives fuel { inside with flags := Reading.plain.flags } []
            [some inner, some (.anchor .textStart)] rest
        | _ => none :=
  rfl

/-- A text that is a pattern of its own stays one in parentheses behind a caret, or the parenthesis is taken by a
comment in it. -/
theorem parse?_anchored {text : List Char} {pattern : Pattern} (parsed : Pattern.parse? text = some pattern) :
    Pattern.parse? ("^(?:".toList ++ text ++ [')']) =
        some ⟨.sequence (.anchor .textStart) pattern.root, pattern.names⟩ ∨
      Pattern.parse? ("^(?:".toList ++ text ++ [')']) = none := by
  have size : 2 * ("^(?:".toList ++ (text ++ [')'])).length + 2 = 2 * text.length + 10 + 2 := by
    have four : "^(?:".toList.length = 4 := by decide
    rw [List.length_append, List.length_append, List.length_singleton, four]
    omega
  unfold Pattern.parse? at parsed
  split at parsed
  · next root reading read =>
    cases parsed
    obtain ⟨left, again, ended⟩ :=
      (readsOn (2 * text.length + 2)).1 (2 * text.length + 10) (by omega) _ _ _ _ _ _ _ read
    have whole := readAlternatives_caret (2 * text.length + 10) (text ++ [')'])
    rw [Reading.plain, again, ← size] at whole
    rw [Pattern.parse?, List.append_assoc, whole]
    rcases ended with rfl | ⟨-, rfl⟩
    · exact .inl rfl
    · exact .inr rfl
  · cases parsed

end Tabletop.Pattern
