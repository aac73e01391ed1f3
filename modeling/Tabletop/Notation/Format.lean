/-
This file writes dice notations and their results as JSON.
-/

import Tabletop.Json.Value
import Tabletop.Notation.Roll

namespace Tabletop.Notation

/-- The text of a token with the bytes between which it stands. -/
def Spanned.toJson (span : Spanned) : Json :=
  .array [.text span.token.text, .nat span.first, .nat span.last]

def Selector.toJson (selector : Selector) : Json :=
  .array [.text selector.selection.text, .nat selector.count]

/-- An expression as a tree of lists, each with its kind or operator in front. -/
def Expr.toJson : Expr → Json
  | .constant value => .array [.string "num", .nat value]
  | .negate inner => .array [.string "neg", inner.toJson]
  | .group inner => .array [.string "group", inner.toJson]
  | .binary left operation right =>
    .array [.text operation.token.text, left.toJson, right.toJson]
  | .dice term =>
    .array [.string "dice", .nat term.count, .nat term.sides,
      .ofOption Selector.toJson term.selector, .bool term.explode]

def Die.toJson (die : Die) : Json :=
  .array [.nat die.sides, .nat die.value, .bool die.kept, .bool die.exploded]

end Tabletop.Notation
