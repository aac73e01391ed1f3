/-
This file proves that exactly the derived tokens are read as rule expressions, and that one counter of the depth
is enough to bound the nesting.

The counting readers walk over the tokens with one counter, which goes up where something is nested and down again
behind it. They give what the readers with room give, and at each token the counter has the depth that the
derivation has there.
-/

import Tabletop.Proofs.Rule.Parsing

namespace Tabletop.Rule

/-- A place in a token list, with the counted depth there and the depths that were counted at the tokens before. -/
structure Cursor where
  ahead : List Token
  depth : Nat
  passed : List Nat
deriving DecidableEq

/-- The cursor behind its next token. -/
def Cursor.next (cursor : Cursor) : Cursor :=
  { cursor with ahead := cursor.ahead.tail, passed := cursor.passed ++ [cursor.depth] }

/-- A reader that counts how deep it is. -/
abbrev Counter := Cursor → Except Error (Expr × Cursor)

/-- Reads what is nested. The counter goes up in front of it and down behind it. -/
def nested (counter : Counter) : Counter := fun cursor =>
  if maxNesting ≤ cursor.depth then .error .tooDeep
  else do
    let (expr, after) ← counter { cursor with depth := cursor.depth + 1 }
    return (expr, { after with depth := after.depth - 1 })

/-- The counting readers for what can be nested. -/
structure Counters where
  choice : Counter
  signed : Counter

def countPrimary (inner : Counters) : Counter := fun cursor =>
  match cursor.ahead with
  | .number value :: _ => .ok (.number value, cursor.next)
  | .truth value :: _ => .ok (.truth value, cursor.next)
  | .name name :: _ => .ok (.reference name, cursor.next)
  | .leftParen :: _ => do
    let (expr, after) ← nested inner.choice cursor.next
    match after.ahead with
    | .rightParen :: _ => .ok (expr, after.next)
    | behind => .error (unexpected behind)
  | tokens => .error (unexpected tokens)

def countSigned (inner : Counters) : Counter := fun cursor =>
  match cursor.ahead with
  | [] => .error .unexpectedEnd
  | token :: _ =>
    match sign? token with
    | some sign => do
      let (operand, after) ← nested inner.signed cursor.next
      return (.unary sign operand, after)
    | none => countPrimary inner cursor

def countBehind (operation? : Token → Option Operation) (operand : Counter) : Nat → Expr → Counter
  | 0, left, cursor => .ok (left, cursor)
  | fuel + 1, left, cursor =>
    match cursor.ahead with
    | [] => .ok (left, cursor)
    | token :: _ =>
      match operation? token with
      | none => .ok (left, cursor)
      | some operation => do
        let (right, after) ← operand cursor.next
        countBehind operation? operand fuel (.binary left operation right) after

def countChain (operation? : Token → Option Operation) (operand : Counter) : Counter := fun cursor => do
  let (first, after) ← operand cursor
  countBehind operation? operand after.ahead.length first after

def countOperators (inner : Counters) : Counter :=
  levels.foldl (fun operand level => countChain level operand) (countSigned inner)

def countChoice (inner : Counters) : Counter := fun cursor => do
  let (condition, after) ← countOperators inner cursor
  match after.ahead with
  | .question :: _ => do
    let (positive, after) ← nested inner.choice after.next
    match after.ahead with
    | .colon :: _ => do
      let (negative, after) ← nested inner.choice after.next
      return (.choice condition positive negative, after)
    | behind => .error (unexpected behind)
  | _ => .ok (condition, after)

/-- The counting readers. The fuel bounds the recursion, and the counter ends it before. -/
def countersWithin : (fuel : Nat) → Counters
  | 0 => ⟨fun _ => .error .tooDeep, fun _ => .error .tooDeep⟩
  | fuel + 1 => ⟨countChoice (countersWithin fuel), countSigned (countersWithin fuel)⟩

/-- Reads a whole token list from depth zero and tells where the cursor is in the end. -/
def countTokens (tokens : List Token) : Except Error (Expr × Cursor) := do
  let (expr, cursor) ← (countersWithin (maxNesting + 1)).choice ⟨tokens, 0, []⟩
  match cursor.ahead with
  | [] => .ok (expr, cursor)
  | token :: _ => .error (.unexpectedToken token)

/-- What was read and what was counted agree: both failed alike, or both read one derivation with one value, the
counter is back, and the depths of the derivation were counted. Its tokens stand at the depth `inside`. -/
inductive Agree {phrase : Phrase} (value : Derivation phrase → Expr) (ahead : List Token) (depth inside : Nat)
    (passed : List Nat) : Except Error (Expr × List Token) → Except Error (Expr × Cursor) → Prop where
  | fails (error : Error) : Agree value ahead depth inside passed (.error error) (.error error)
  | reads {rest : List Token} {total : List Nat} (derivation : Derivation phrase)
      (same : derivation.tokens ++ rest = ahead) (few : derivation.nesting + inside ≤ maxNesting)
      (counted : passed ++ derivation.depths inside = total) : Agree value ahead depth inside passed
        (.ok (value derivation, rest)) (.ok (value derivation, ⟨rest, depth, total⟩))

/-- A reader and a counting reader agree at a depth, wherever they start. -/
def Counts {phrase : Phrase} (value : Derivation phrase → Expr) (reader : Parser) (counter : Counter)
    (depth inside : Nat) : Prop :=
  ∀ ahead passed, Agree value ahead depth inside passed (reader ahead) (counter ⟨ahead, depth, passed⟩)

section Agree

variable {phrase next : Phrase} {value : Derivation phrase → Expr} {nextValue : Derivation next → Expr}
  {ahead aheadBefore : List Token} {depth depthBefore inside insideBefore : Nat} {passed passedBefore : List Nat}
  {read : Except Error (Expr × List Token)} {counted : Except Error (Expr × Cursor)}

/-- Two runs agree if what they start with agrees and they go on alike behind each derivation. -/
theorem Agree.andThen {readOn : Expr × List Token → Except Error (Expr × List Token)}
    {countOn : Expr × Cursor → Except Error (Expr × Cursor)}
    (agree : Agree value ahead depth inside passed read counted)
    (goOn : ∀ (derivation : Derivation phrase) (rest : List Token), derivation.tokens ++ rest = ahead →
      derivation.nesting + inside ≤ maxNesting →
        Agree nextValue aheadBefore depthBefore insideBefore passedBefore (readOn (value derivation, rest))
          (countOn (value derivation, ⟨rest, depth, passed ++ derivation.depths inside⟩))) :
    Agree nextValue aheadBefore depthBefore insideBefore passedBefore (read >>= readOn) (counted >>= countOn) := by
  cases agree with
  | fails error => exact .fails error
  | reads derivation same few counted =>
      cases counted
      exact goOn derivation _ same few

/-- What agrees as one phrase agrees as the phrase that is derived from it. -/
theorem Agree.within (agree : Agree value ahead depth inside passed read counted)
    (derive : ∀ (derivation : Derivation phrase) (rest : List Token), derivation.tokens ++ rest = ahead →
      derivation.nesting + inside ≤ maxNesting →
        Agree nextValue aheadBefore depth insideBefore passedBefore (.ok (value derivation, rest))
          (.ok (value derivation, ⟨rest, depth, passed ++ derivation.depths inside⟩))) :
    Agree nextValue aheadBefore depth insideBefore passedBefore read counted := by
  cases agree with
  | fails error => exact .fails error
  | reads derivation same few counted =>
      cases counted
      exact derive derivation _ same few

end Agree

variable {level depth : Nat} {inner : Readers} {counters : Counters} {operand : Parser} {counter : Counter}
  {operation? : Token → Option Operation}

theorem counts_primary (shallow : depth ≤ maxNesting)
    (choices : Counts (@Derivation.tree .choice) inner.choice (nested counters.choice) depth (depth + 1)) :
    Counts (@Derivation.tree .primary) (primary inner) (countPrimary counters) depth depth := by
  intro ahead passed
  have fits : 0 + depth ≤ maxNesting := by omega
  cases ahead with
  | nil => exact .fails _
  | cons token rest =>
      cases token with
      | number value => exact .reads (.number value) rfl fits rfl
      | truth value => exact .reads (.truth value) rfl fits rfl
      | name name => exact .reads (.reference name) rfl fits rfl
      | leftParen =>
          refine (choices rest (passed ++ [depth])).andThen fun choice behind same few => ?_
          cases behind with
          | nil => exact .fails _
          | cons token behind =>
              cases token with
              | rightParen =>
                  refine .reads (.group choice) ?_ ?_ ?_
                  · simp [Derivation.tokens, ← same]
                  · simp only [Derivation.nesting]
                    omega
                  · simp [Derivation.depths]
              | _ => exact .fails _
      | _ => exact .fails _

theorem sign?_eq_some {token : Token} {sign : Sign} (found : sign? token = some sign) : sign.token = token := by
  cases token <;> cases found <;> rfl

theorem counts_signed (shallow : depth ≤ maxNesting)
    (choices : Counts (@Derivation.tree .choice) inner.choice (nested counters.choice) depth (depth + 1))
    (operands : Counts (@Derivation.tree (.ofLevel 0)) inner.signed (nested counters.signed) depth (depth + 1)) :
    Counts (@Derivation.tree (.ofLevel 0)) (signed inner) (countSigned counters) depth depth := by
  intro ahead passed
  cases ahead with
  | nil => exact .fails _
  | cons token rest =>
      simp only [signed, countSigned]
      cases found : sign? token with
      | none =>
          exact (counts_primary shallow choices (token :: rest) passed).within fun primary behind same few =>
            .reads (.plain primary) same few rfl
      | some sign =>
          have starts := sign?_eq_some found
          refine (operands rest (passed ++ [depth])).andThen fun operand behind same few => ?_
          refine .reads (.signed sign operand) ?_ ?_ ?_
          · simp [Derivation.tokens, starts, same]
          · simp only [Derivation.nesting]
            omega
          · simp [Derivation.depths]

theorem counts_behind (shallow : depth ≤ maxNesting) (tells : Tells operation? level)
    (operands : Counts (@Derivation.tree (.ofLevel level)) operand counter depth depth) (fuel : Nat)
    (left : Expr) : Counts (fun others : Derivation (.others level) => others.tree left)
      (chainBehind operation? .binary operand fuel left) (countBehind operation? counter fuel left) depth
      depth := by
  induction fuel generalizing left with
  | zero =>
      intro ahead passed
      exact .reads .none rfl (by simpa [Derivation.nesting]) (List.append_nil passed)
  | succ fuel inductionHypothesis =>
      intro ahead passed
      have stop : Agree (fun others : Derivation (.others level) => others.tree left) ahead depth depth passed
          (.ok (left, ahead)) (.ok (left, ⟨ahead, depth, passed⟩)) :=
        .reads .none rfl (by simpa [Derivation.nesting]) (List.append_nil passed)
      cases ahead with
      | nil => exact stop
      | cons token rest =>
          simp only [chainBehind, countBehind]
          cases found : operation? token with
          | none => exact stop
          | some operation =>
              obtain ⟨rfl, fits⟩ := (tells token operation).1 found
              refine (operands rest (passed ++ [depth])).andThen fun right behind same few => ?_
              refine (inductionHypothesis (.binary left operation right.tree) behind _).within
                fun others after othersSame othersFew => ?_
              refine .reads (.more operation fits right others) ?_ ?_ ?_
              · simp [Derivation.tokens, ← same, ← othersSame]
              · simp only [Derivation.nesting]
                omega
              · simp [Derivation.depths]

theorem counts_chain (shallow : depth ≤ maxNesting) (tells : Tells operation? level)
    (operands : Counts (@Derivation.tree (.ofLevel level)) operand counter depth depth) :
    Counts (@Derivation.tree (.ofLevel (level + 1))) (chain operation? .binary operand)
      (countChain operation? counter) depth depth := by
  intro ahead passed
  refine (operands ahead passed).andThen fun first behind same few => ?_
  refine (counts_behind shallow tells operands behind.length first.tree behind _).within
    fun others after othersSame othersFew => ?_
  refine .reads (.chain first others) ?_ ?_ ?_
  · simp [Derivation.tokens, ← same, ← othersSame]
  · simp only [Derivation.nesting]
    omega
  · simp [Derivation.depths]

theorem counts_operators (shallow : depth ≤ maxNesting)
    (operands : Counts (@Derivation.tree (.ofLevel 0)) (signed inner) (countSigned counters) depth depth) :
    Counts (@Derivation.tree (.ofLevel 6)) (operators inner) (countOperators counters) depth depth := by
  have products := counts_chain shallow tells_multiplicative operands
  have sums := counts_chain shallow tells_additive products
  have relations := counts_chain shallow tells_relational sums
  have equalities := counts_chain shallow tells_equality relations
  exact counts_chain shallow tells_or (counts_chain shallow tells_and equalities)

theorem counts_choice
    (choices : Counts (@Derivation.tree .choice) inner.choice (nested counters.choice) depth (depth + 1))
    (conditions : Counts (@Derivation.tree (.ofLevel 6)) (operators inner) (countOperators counters) depth depth) :
    Counts (@Derivation.tree .choice) (choice inner) (countChoice counters) depth depth := by
  intro ahead passed
  refine (conditions ahead passed).andThen fun condition behind same few => ?_
  have stop : Agree (@Derivation.tree .choice) ahead depth depth passed (.ok (condition.tree, behind))
      (.ok (condition.tree, ⟨behind, depth, passed ++ condition.depths depth⟩)) :=
    .reads (.operators condition) same few rfl
  cases behind with
  | nil => exact stop
  | cons token behind =>
      cases token with
      | question =>
          refine (choices behind (passed ++ condition.depths depth ++ [depth])).andThen
            fun positive after positiveSame positiveFew => ?_
          cases after with
          | nil => exact .fails _
          | cons token after =>
              cases token with
              | colon =>
                  refine (choices after _).andThen fun negative final negativeSame negativeFew => ?_
                  refine .reads (.choice condition positive negative) ?_ ?_ ?_
                  · simp [Derivation.tokens, ← same, ← positiveSame, ← negativeSame]
                  · simp only [Derivation.nesting]
                    omega
                  · simp [Derivation.depths]
              | _ => exact .fails _
      | _ => exact stop

/-- Where the counter is at its bound there is no room either, and else one step deeper is counted. -/
theorem counts_nested {phrase : Phrase} {value : Derivation phrase → Expr} {reader : Parser}
    (deeper : Counts value reader counter (depth + 1) (depth + 1))
    (full : maxNesting ≤ depth → reader = fun _ => .error .tooDeep) :
    Counts value reader (nested counter) depth (depth + 1) := by
  intro ahead passed
  unfold nested
  by_cases atBound : maxNesting ≤ depth
  · simp only [atBound, if_true, full atBound]
    exact .fails _
  · simp only [atBound, if_false]
    rw [← bind_pure (reader ahead)]
    exact (deeper ahead passed).andThen fun derivation rest same few => .reads derivation same few rfl

theorem counts_countersWithin (room : Nat) : ∀ depth, depth + room = maxNesting + 1 →
    Counts (@Derivation.tree .choice) (readersWithin room).choice (countersWithin room).choice depth depth ∧
      Counts (@Derivation.tree (.ofLevel 0)) (readersWithin room).signed (countersWithin room).signed depth
        depth := by
  induction room with
  | zero => exact fun depth _ => ⟨fun _ _ => .fails _, fun _ _ => .fails _⟩
  | succ room inductionHypothesis =>
      intro depth exact
      have shallow : depth ≤ maxNesting := by omega
      obtain ⟨choicesDeeper, operandsDeeper⟩ := inductionHypothesis (depth + 1) (by omega)
      have choices := counts_nested choicesDeeper fun atBound => by
        obtain rfl : room = 0 := by omega
        rfl
      have operands := counts_nested operandsDeeper fun atBound => by
        obtain rfl : room = 0 := by omega
        rfl
      have signs := counts_signed shallow choices operands
      exact ⟨counts_choice choices (counts_operators shallow signs), signs⟩

theorem countTokens_agrees (tokens : List Token) :
    (∃ error, parseTokens tokens = .error error ∧ countTokens tokens = .error error) ∨
      ∃ derivation : Derivation .choice, derivation.tokens = tokens ∧ derivation.nesting ≤ maxNesting ∧
        parseTokens tokens = .ok derivation.tree ∧
          countTokens tokens = .ok (derivation.tree, ⟨[], 0, derivation.depths 0⟩) := by
  have agree := (counts_countersWithin (maxNesting + 1) 0 (Nat.zero_add _)).1 tokens []
  unfold parseTokens countTokens
  generalize (readersWithin (maxNesting + 1)).choice tokens = read at agree
  generalize (countersWithin (maxNesting + 1)).choice ⟨tokens, 0, []⟩ = counted at agree
  cases agree with
  | fails error => exact .inl ⟨error, rfl, rfl⟩
  | @reads rest total derivation same few counted =>
      cases rest with
      | nil =>
          cases counted
          rw [List.append_nil] at same
          exact .inr ⟨derivation, same, few, rfl, rfl⟩
      | cons token rest => exact .inl ⟨_, rfl, rfl⟩

/-- Derived tokens are read. -/
theorem parseTokens_tokens (derivation : Derivation .choice) (few : derivation.nesting ≤ maxNesting) :
    parseTokens derivation.tokens = .ok derivation.tree := by
  have read := (completes_readersWithin (maxNesting + 1)).1 derivation [] (Nat.lt_succ_of_le few) ends_nil
  rw [List.append_nil] at read
  rw [parseTokens, read]
  rfl

theorem Derivation.eq_of_tokens {first second : Derivation .choice} (same : first.tokens = second.tokens) :
    first = second :=
  (unique ends_nil ends_nil (congrArg (· ++ []) same)).1

/-- The counting readers give the same results. -/
theorem map_countTokens (tokens : List Token) : (countTokens tokens).map Prod.fst = parseTokens tokens := by
  rcases countTokens_agrees tokens with ⟨error, parsed, counted⟩ | ⟨derivation, _, _, parsed, counted⟩
  · rw [parsed, counted]
    rfl
  · rw [parsed, counted]
    rfl

theorem parseTokens_eq_ok {tokens : List Token} {expr : Expr} : parseTokens tokens = .ok expr ↔
    ∃ derivation : Derivation .choice, derivation.tokens = tokens ∧ derivation.nesting ≤ 64 ∧
      derivation.tree = expr := by
  constructor
  · intro read
    rcases countTokens_agrees tokens with ⟨error, parsed, _⟩ | ⟨derivation, same, few, parsed, _⟩
    · cases parsed.symm.trans read
    · cases parsed.symm.trans read
      exact ⟨derivation, same, few, rfl⟩
  · rintro ⟨derivation, rfl, few, rfl⟩
    exact parseTokens_tokens derivation few

theorem countTokens_eq_ok {tokens : List Token} {expr : Expr} {cursor : Cursor} :
    countTokens tokens = .ok (expr, cursor) ↔ ∃ derivation : Derivation .choice, derivation.tokens = tokens ∧
      derivation.nesting ≤ 64 ∧ derivation.tree = expr ∧ cursor = ⟨[], 0, derivation.depths 0⟩ := by
  constructor
  · intro read
    rcases countTokens_agrees tokens with ⟨error, _, counted⟩ | ⟨derivation, same, few, _, counted⟩
    · cases counted.symm.trans read
    · cases counted.symm.trans read
      exact ⟨derivation, same, few, rfl, rfl⟩
  · rintro ⟨derivation, rfl, few, rfl, rfl⟩
    have parsed := parseTokens_tokens derivation few
    rcases countTokens_agrees derivation.tokens with ⟨error, failed, _⟩ | ⟨other, same, _, _, counted⟩
    · cases failed.symm.trans parsed
    · obtain rfl := Derivation.eq_of_tokens same
      exact counted

-- `!(true)`: the group is the operand of a sign, and its inside is one step deeper.
example : (countTokens [.not, .leftParen, .truth true, .rightParen]).toOption.map (·.2.passed) = some [0, 1, 2, 1] := by
  decide

/-- Exactly the tokens of a derivation with at most 64 groups, operands of signs and branches around one place are
read, as the tree of their only derivation. The counting readers give the same results, and when they succeed they
have counted the depth of each token and are back at depth zero. At each depth and also in a run that fails later,
the counter is back behind every choice and has counted its depths. -/
theorem parseTokens_iff_derivation (tokens : List Token) :
    (∀ expr, parseTokens tokens = .ok expr ↔ ∃ derivation : Derivation .choice,
      derivation.tokens = tokens ∧ derivation.nesting ≤ 64 ∧ derivation.tree = expr) ∧
    Subsingleton { derivation : Derivation .choice // derivation.tokens = tokens } ∧
    (countTokens tokens).map Prod.fst = parseTokens tokens ∧
    (∀ expr cursor, countTokens tokens = .ok (expr, cursor) ↔ ∃ derivation : Derivation .choice,
      derivation.tokens = tokens ∧ derivation.nesting ≤ 64 ∧ derivation.tree = expr ∧
        cursor = ⟨[], 0, derivation.depths 0⟩) ∧
    ∀ depth : Fin 65, Counts (@Derivation.tree .choice) (readersWithin (65 - depth)).choice
      (countersWithin (65 - depth)).choice depth depth := by
  have onlyOne : Subsingleton { derivation : Derivation .choice // derivation.tokens = tokens } := by
    refine ⟨fun first second => Subtype.ext ?_⟩
    exact Derivation.eq_of_tokens (first.2.trans second.2.symm)
  have counts (depth : Fin 65) : Counts (@Derivation.tree .choice) (readersWithin (65 - depth)).choice
      (countersWithin (65 - depth)).choice depth depth := by
    have exact : depth.val + (65 - depth.val) = maxNesting + 1 := Nat.add_sub_of_le (Nat.le_of_lt depth.isLt)
    exact (counts_countersWithin (65 - depth) depth exact).1
  exact ⟨fun _ => parseTokens_eq_ok, onlyOne, map_countTokens tokens, fun _ _ => countTokens_eq_ok, counts⟩

end Tabletop.Rule
