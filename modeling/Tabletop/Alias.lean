/-
This file expands aliases at the start of texts.
-/

import Tabletop.Alias.Literal
import Tabletop.Alias.Rule
import Tabletop.Command
import Tabletop.Pattern.Match
import Tabletop.Plugin.Item
import Tabletop.Template

namespace Tabletop

open Text

/-- A replacement that is computed from the named groups of a match. -/
abbrev AliasCallback := (String → Option (List Char)) → Context → Option String

/-- A rule that applies in a channel. -/
structure Alias where
  id : FullId
  rule : AliasRule
  callback : Option AliasCallback

/-- A text in which a rule found something. -/
structure AliasMatch where
  id : FullId
  before : List Char
  matched : List Char
  rest : List Char
  /-- What the rule puts in place of the start of the text, up to the end of the match. -/
  replacement : Option (List Char)
deriving DecidableEq

/-- The start of the text up to the end of the match, or what stands in its place. -/
def AliasMatch.expanded (found : AliasMatch) : List Char :=
  found.replacement.getD (found.before ++ found.matched)

/-- The text of the group with a name. -/
def PatternMatch.groupNamed? (found : PatternMatch) (pattern : Pattern) (name : String) :
    Option (List Char) :=
  (pattern.groupNamed? name).bind found.group?

namespace Alias

/-- Patterns are searched at the start of texts. One that begins with a caret says so itself. -/
def anchored (text : List Char) : List Char :=
  match text with
  | '^' :: _ => text
  | _ => "^(?:".toList ++ text ++ [')']

/-- A match of a pattern with what is put in its place. -/
def matchWith? (rule : Alias) (pattern : Pattern) (text : List Char)
    (replace : PatternMatch → Option (List Char)) : Option AliasMatch :=
  (pattern.find? text).map fun found =>
    ⟨rule.id, found.before, found.matched, found.rest, replace found⟩

/-- What a rule with a pattern puts in place of a match. A callback counts before a replacement. -/
def replace? (rule : Alias) (context : Context) (replacement : Option String) (pattern : Pattern)
    (found : PatternMatch) : Option (List Char) :=
  match rule.callback with
  | some callback => (callback (found.groupNamed? pattern) context).map String.toList
  | none => replacement.map fun replacement => found.expand pattern replacement.toList

/-- What a rule finds in a text. A rule whose pattern cannot be read finds nothing. -/
def match? (rule : Alias) (context : Context) (text : List Char) : Option AliasMatch :=
  match rule.rule.trigger with
  | .literal source replacement => do
    let parts := parts source.toList
    let pattern ← pattern? parts
    rule.matchWith? pattern text fun found =>
      (fill (numbers parts (found.groupNamed? pattern)) replacement.toList).toOption
  | .pattern source replacement => do
    let pattern ← Pattern.parse? (anchored source.toList)
    rule.matchWith? pattern text (rule.replace? context replacement pattern)

/-- What the first rule that finds something finds. -/
def expandOnce (rules : List Alias) (context : Context) (text : List Char) : Option AliasMatch :=
  rules.findSome? (·.match? context text)

/-- Expands aliases at the start of a text until none applies. What stands in place of an alias is
expanded as a template. The steps are fewer than `room`. -/
def resolveWithin (rules : List Alias) (context : Context) (card : Option Card) :
    (room : Nat) → List Char → Expanding (List Char)
  | 0, text => throw (.tooDeep (String.ofList text))
  | room + 1, text =>
    match expandOnce rules context text with
    | some ⟨_, _, _, rest, some replacement⟩ => do
      let expanded ← Template.expandWithin card room replacement
      let resolved ← resolveWithin rules context card room expanded
      return resolved ++ rest
    | _ => return text

/-- Expands aliases at the start of a text. -/
def resolve (rules : List Alias) (context : Context) (card : Option Card) (text : List Char) :
    Expanding (List Char) :=
  resolveWithin rules context card (Template.maxDepth + 1) text

/-- The rules that need no plugin. -/
def embedded : List Alias :=
  AliasRule.embedded.map fun rule => ⟨.embedded rule.id, rule, none⟩

end Alias

end Tabletop
