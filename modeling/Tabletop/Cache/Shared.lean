/-
This file decides rolls and expands aliases with compiled expressions and patterns that all channels
share.
-/

import Tabletop.Alias
import Tabletop.Cache
import Tabletop.Decider

namespace Tabletop

/-- A literal text as a pattern, with the parts that name its slots. -/
structure Alias.Literal where
  parts : List Alias.Part
  pattern : Pattern

/-- A part of a replacement whose expression has been read. -/
inductive Alias.Filling where
  | run (text : List Char)
  | slot (expr : Rule.Expr)

/-- The caches of a process. -/
structure Caches where
  predicates : Cache Rule.Expr
  literals : Cache Alias.Literal
  patterns : Cache Pattern
  replacements : Cache (List Alias.Filling)

/-- The caches of a process at its start. -/
def Caches.newWith (bytesOf : String → Nat) : Caches where
  predicates := .newWith bytesOf Cache.standardCapacity
  literals := .newWith bytesOf Cache.standardCapacity
  patterns := .newWith bytesOf Cache.standardCapacity
  replacements := .newWith bytesOf Cache.standardCapacity

/-- Steps that use the caches of a process. -/
abbrev Sharing := StateM Caches

/-- One of the caches of a process and how its values are made. -/
structure Shelf (ε α : Type) where
  cache : Caches → Cache α
  put : Caches → Cache α → Caches
  compile : String → Except ε α

/-- Asks a cache for the value of a text. -/
def Shelf.ask {ε α : Type} (shelf : Shelf ε α) (key : String) : Sharing (Except ε α) := fun caches =>
  let (value, cache) := (shelf.cache caches).getOrCompile key shelf.compile
  (value, shelf.put caches cache)

namespace Attempt

/-- An attempt makes an expression true. -/
def satisfies {α : Type} (arithmetic : Rule.Arithmetic α) (attempt : Attempt) (expr : Rule.Expr) :
    Except Rule.Error Bool := do
  let value ← expr.eval arithmetic (attempt.bindings arithmetic)
  return value.isTruthy arithmetic

end Attempt

namespace Decider

/-- The cache of the expressions that decide. -/
def predicates : Shelf Rule.Error Rule.Expr where
  cache := Caches.predicates
  put caches cache := { caches with predicates := cache }
  compile source := Rule.compileWith Attempt.names source.toList

/-- The level of the first rule that holds, with expressions from the cache. -/
def firstHoldingShared {α : Type} (arithmetic : Rule.Arithmetic α) (attempt : Attempt) :
    List DeciderRule → Sharing (Option Level)
  | [] => return none
  | rule :: others => do
    let compiled ← predicates.ask rule.expression
    match compiled.bind (attempt.satisfies arithmetic) with
    | .ok true => return some rule.level
    | .ok false => firstHoldingShared arithmetic attempt others
    | .error _ => return none

/-- The level of an attempt, with expressions from the cache. -/
def decideShared (decider : Decider) (attempt : Attempt) : Sharing (Option Level) :=
  firstHoldingShared Rule.floating attempt decider.rules

end Decider

namespace Alias

/-- Reads the expression of a part of a replacement. -/
def Part.compile : Part → Except Rule.Error Filling
  | .run text => .ok (.run text)
  | .slot inside => (Rule.parse inside).map .slot

/-- The text of a part whose expression has been read. -/
def Filling.text (bindings : Rule.Variables Float) : Filling → Except Rule.Error (List Char)
  | .run text => .ok text
  | .slot expr => (expr.eval Rule.floating bindings).map Rule.Value.text

/-- The cache of literal texts. -/
def literals : Shelf Unit Literal where
  cache := Caches.literals
  put caches cache := { caches with literals := cache }
  compile source :=
    match pattern? (parts source.toList) with
    | some pattern => .ok ⟨parts source.toList, pattern⟩
    | none => .error ()

/-- The cache of patterns. -/
def patterns : Shelf Unit Pattern where
  cache := Caches.patterns
  put caches cache := { caches with patterns := cache }
  compile source :=
    match Pattern.parse? (anchored source.toList) with
    | some pattern => .ok pattern
    | none => .error ()

/-- The cache of replacements. -/
def replacements : Shelf Rule.Error (List Filling) where
  cache := Caches.replacements
  put caches cache := { caches with replacements := cache }
  compile source := (parts source.toList).mapM Part.compile

/-- The text of a replacement, with its parts from the cache. -/
def fillShared (bindings : Rule.Variables Float) (replacement : String) :
    Sharing (Except Rule.Error (List Char)) := do
  let compiled ← replacements.ask replacement
  return compiled.bind fun fillings => do
    let texts ← fillings.mapM (·.text bindings)
    return texts.flatten

/-- What a rule finds in a text, with patterns and replacements from the caches. The replacement of a
literal text is asked for only after a match. -/
def matchShared? (rule : Alias) (context : Context) (text : List Char) :
    Sharing (Option AliasMatch) := do
  match rule.rule.trigger with
  | .literal source replacement =>
    match ← literals.ask source with
    | .error _ => return none
    | .ok literal =>
      match literal.pattern.find? text with
      | none => return none
      | some found =>
        let bindings := numbers literal.parts (found.groupNamed? literal.pattern)
        let filled ← fillShared bindings replacement
        return some ⟨rule.id, found.before, found.matched, found.rest, filled.toOption⟩
  | .pattern source replacement =>
    match ← patterns.ask source with
    | .error _ => return none
    | .ok pattern =>
      return rule.matchWith? pattern text (rule.replace? context replacement pattern)

/-- What the first rule that finds something finds, with patterns and replacements from the caches. -/
def expandOnceShared (context : Context) (text : List Char) :
    List Alias → Sharing (Option AliasMatch)
  | [] => return none
  | rule :: others => do
    match ← rule.matchShared? context text with
    | some found => return some found
    | none => expandOnceShared context text others

end Alias

/-- What is evaluated with the caches of a process. -/
inductive Evaluation where
  | decision (decider : Decider) (attempt : Attempt)
  | expansion (rules : List Alias) (context : Context) (text : List Char)

namespace Evaluation

/-- Evaluates with the caches of a process. -/
def perform : Evaluation → Sharing Unit
  | .decision decider attempt => discard (decider.decideShared attempt)
  | .expansion rules context text => discard (Alias.expandOnceShared context text rules)

/-- The caches after some evaluations. -/
def performEach (history : List Evaluation) (caches : Caches) : Caches :=
  (history.forM perform caches).2

end Evaluation

end Tabletop
