/-
This file proves that what was evaluated before does not change what is evaluated with shared caches.
-/

import Tabletop.Cache.Shared
import Tabletop.Proofs.Cache.Recent
import Tabletop.Proofs.Result

namespace Tabletop

/-! Caches -/

/-- The caches of a process hold what their texts compile to. -/
structure Caches.Faithful (caches : Caches) : Prop where
  predicates : caches.predicates.Faithful Decider.predicates.compile
  literals : caches.literals.Faithful Alias.literals.compile
  patterns : caches.patterns.Faithful Alias.patterns.compile
  replacements : caches.replacements.Faithful Alias.replacements.compile

theorem Caches.newWith_faithful (bytesOf : String → Nat) : (Caches.newWith bytesOf).Faithful :=
  ⟨nofun, nofun, nofun, nofun⟩

/-- A shelf reaches one of the caches and leaves the others alone. -/
structure Shelf.Lawful {ε α : Type} (shelf : Shelf ε α) : Prop where
  cache {caches : Caches} : caches.Faithful → (shelf.cache caches).Faithful shelf.compile
  put {caches : Caches} {cache : Cache α} :
    caches.Faithful → cache.Faithful shelf.compile → (shelf.put caches cache).Faithful

theorem Decider.predicates_lawful : predicates.Lawful where
  cache faithful := faithful.predicates
  put faithful changed := { faithful with predicates := changed }

theorem Alias.literals_lawful : literals.Lawful where
  cache faithful := faithful.literals
  put faithful changed := { faithful with literals := changed }

theorem Alias.patterns_lawful : patterns.Lawful where
  cache faithful := faithful.patterns
  put faithful changed := { faithful with patterns := changed }

theorem Alias.replacements_lawful : replacements.Lawful where
  cache faithful := faithful.replacements
  put faithful changed := { faithful with replacements := changed }

/-! Steps -/

namespace Sharing

variable {ε α β : Type}

/-- A step gives a value whatever the caches hold, and leaves them right. -/
def Gives (step : Sharing α) (value : α) : Prop :=
  ∀ caches : Caches, caches.Faithful → (step caches).1 = value ∧ (step caches).2.Faithful

theorem gives_pure (value : α) : Gives (pure value) value :=
  fun _ faithful => ⟨rfl, faithful⟩

theorem Gives.bind {first : Sharing α} {next : α → Sharing β} {middle : α} {value : β}
    (gives : Gives first middle) (later : Gives (next middle) value) : Gives (first >>= next) value := by
  intro caches faithful
  obtain ⟨same, kept⟩ := gives caches faithful
  have applied : (first >>= next) caches = next (first caches).1 (first caches).2 := rfl
  rw [applied, same]
  exact later _ kept

theorem Gives.discard {step : Sharing α} {value : α} (gives : Gives step value) :
    Gives (discard step) () :=
  fun caches faithful => ⟨rfl, (gives caches faithful).2⟩

theorem Gives.forM {items : List α} {step : α → Sharing Unit} (gives : ∀ item, Gives (step item) ()) :
    Gives (items.forM step) () := by
  induction items with
  | nil => exact gives_pure ()
  | cons item items inductionHypothesis => exact (gives item).bind inductionHypothesis

/-- Asking a cache gives what compiling the text afresh gives. -/
theorem gives_ask {shelf : Shelf ε α} (lawful : shelf.Lawful) (key : String) :
    Gives (shelf.ask key) (shelf.compile key) := by
  intro caches faithful
  have kept := lawful.cache faithful
  have step := Cache.getOrCompile_becomes (shelf.cache caches) key shelf.compile
  exact ⟨kept.result key, lawful.put faithful (step.faithful kept)⟩

end Sharing

/-! Evaluations -/

open Sharing

theorem Decider.firstHoldingShared_gives {α : Type} (arithmetic : Rule.Arithmetic α) (attempt : Attempt)
    (rules : List DeciderRule) : Gives (firstHoldingShared arithmetic attempt rules)
      (DeciderRule.firstHolding arithmetic attempt rules) := by
  induction rules with
  | nil => exact gives_pure none
  | cons rule others inductionHypothesis =>
      refine (gives_ask predicates_lawful rule.expression).bind ?_
      have tested : (predicates.compile rule.expression).bind (attempt.satisfies arithmetic) =
          rule.holds arithmetic attempt := rfl
      simp only [tested, DeciderRule.firstHolding]
      cases rule.holds arithmetic attempt with
      | error error => exact gives_pure none
      | ok holds =>
          cases holds with
          | true => exact gives_pure (some rule.level)
          | false => exact inductionHypothesis

theorem Decider.decideShared_gives (decider : Decider) (attempt : Attempt) :
    Gives (decider.decideShared attempt) (decider.decide attempt) :=
  firstHoldingShared_gives Rule.floating attempt decider.rules

namespace Alias

theorem Part.fill_eq (bindings : Rule.Variables Float) (part : Part) :
    part.fill bindings = part.compile >>= (·.text bindings) := by
  cases part with
  | run text => rfl
  | slot inside =>
      rw [fill, compile]
      cases Rule.parse inside with
      | error error => rfl
      | ok expr =>
          change (expr.eval Rule.floating bindings >>= fun value => pure value.text) =
            (expr.eval Rule.floating bindings).map Rule.Value.text
          cases expr.eval Rule.floating bindings <;> rfl

/-- The expressions of a replacement may all be read before the first one is evaluated. -/
theorem fillShared_gives (bindings : Rule.Variables Float) (replacement : String) :
    ∃ filled, Gives (fillShared bindings replacement) filled ∧
      filled.toOption = (fill bindings replacement.toList).toOption := by
  refine ⟨_, (gives_ask replacements_lawful replacement).bind (gives_pure _), ?_⟩
  have each (part : Part) : (part.fill bindings).toOption =
      part.compile.toOption.bind fun filling => (filling.text bindings).toOption := by
    rw [part.fill_eq, toOption_bind]
  change ((parts replacement.toList).mapM Part.compile >>= fun fillings =>
    fillings.mapM (·.text bindings) >>= fun texts => pure texts.flatten).toOption = _
  simp only [fill, toOption_bind, toOption_mapM, each, ← mapM_bind_mapM, Option.bind_assoc]

theorem matchShared?_gives (rule : Alias) (context : Context) (text : List Char) :
    Gives (rule.matchShared? context text) (rule.match? context text) := by
  unfold matchShared? match?
  cases rule.rule.trigger with
  | literal source replacement =>
      refine (gives_ask literals_lawful source).bind ?_
      cases read : pattern? (parts source.toList) with
      | none =>
          have compiled : literals.compile source = .error () := by simp only [literals, read]
          simp only [compiled, read, Option.bind_eq_bind, Option.bind_none]
          exact gives_pure none
      | some pattern =>
          have compiled : literals.compile source = .ok ⟨parts source.toList, pattern⟩ := by
            simp only [literals, read]
          simp only [compiled, read, Option.bind_eq_bind, Option.bind_some, matchWith?]
          cases pattern.find? text with
          | none => exact gives_pure none
          | some found =>
              obtain ⟨filled, gives, same⟩ :=
                fillShared_gives (numbers (parts source.toList) (found.groupNamed? pattern)) replacement
              refine gives.bind ?_
              rw [Option.map_some, ← same]
              exact gives_pure _
  | pattern source replacement =>
      refine (gives_ask patterns_lawful source).bind ?_
      cases read : Pattern.parse? (anchored source.toList) with
      | none =>
          have compiled : patterns.compile source = .error () := by simp only [patterns, read]
          simp only [compiled, read, Option.bind_eq_bind, Option.bind_none]
          exact gives_pure none
      | some pattern =>
          have compiled : patterns.compile source = .ok pattern := by simp only [patterns, read]
          simp only [compiled, read, Option.bind_eq_bind, Option.bind_some]
          exact gives_pure _

theorem expandOnceShared_gives (rules : List Alias) (context : Context) (text : List Char) :
    Gives (expandOnceShared context text rules) (expandOnce rules context text) := by
  induction rules with
  | nil => exact gives_pure none
  | cons rule others inductionHypothesis =>
      refine (rule.matchShared?_gives context text).bind ?_
      rw [expandOnce, List.findSome?_cons]
      cases rule.match? context text with
      | some found => exact gives_pure (some found)
      | none => exact inductionHypothesis

end Alias

/-! Histories -/

theorem Evaluation.perform_gives (evaluation : Evaluation) : Gives evaluation.perform () := by
  cases evaluation with
  | decision decider attempt => exact (decider.decideShared_gives attempt).discard
  | expansion rules context text => exact (Alias.expandOnceShared_gives rules context text).discard

theorem Evaluation.performEach_faithful (history : List Evaluation) (bytesOf : String → Nat) :
    (performEach history (.newWith bytesOf)).Faithful :=
  (Gives.forM perform_gives (.newWith bytesOf) (Caches.newWith_faithful bytesOf)).2

end Tabletop
