/-
This file defines why something that was asked for fails.
-/

import Tabletop.Card.Entry
import Tabletop.Notation.Token
import Tabletop.Rule.Token

namespace Tabletop

/-- How far a roll has come: made, rolled, or written to the cards. -/
inductive Phase where
  | pending
  | rolled
  | applied
deriving DecidableEq, Repr

def Phase.name : Phase → String
  | .pending => "pending"
  | .rolled => "rolled"
  | .applied => "applied"

inductive Error where
  | dice (error : Notation.Error)
  | rule (error : Rule.Error)
  /-- A text expands to itself, or through too many others. -/
  | tooDeep (text : String)
  /-- A roll is rolled twice. -/
  | rolledIn (phase : Phase)
  /-- A roll is applied before it is rolled, or twice. -/
  | appliedIn (phase : Phase)
  /-- Something was written by a later version of the program. -/
  | unknownVersion (thing : String) (found latest : Nat)
  | unknownCard (name : String)
  | malformed
  | fault (fault : Fault)
deriving DecidableEq, Repr

/-- The name of the kind of an error. -/
def Error.name : Error → String
  | .dice error => "Notation." ++ error.name
  | .rule error => "Expression." ++ error.name
  | .tooDeep _ => "RecursionLimit"
  | .rolledIn _ => "InvalidPhase"
  | .appliedIn _ => "InvalidPhase"
  | .unknownVersion _ _ _ => "UnsupportedVersion"
  | .unknownCard _ => "CardNotFound"
  | .malformed => "Json"
  | .fault _ => "Fault"

def Error.message : Error → String
  | .dice error => error.message
  | .rule error => error.message
  | .tooDeep text => "recursion limit exceeded while expanding '" ++ text ++ "'"
  | .rolledIn phase => "invalid roll phase: roll() called on a " ++ phase.name ++ " roll"
  | .appliedIn phase => "invalid roll phase: apply_to_card() called on a " ++ phase.name ++ " roll"
  | .unknownVersion thing found latest =>
    "unsupported " ++ thing ++ " version " ++ Number.natText found ++ " (latest is " ++
      Number.natText latest ++ ")"
  | .unknownCard name => "card '" ++ name ++ "' not found"
  | .malformed => "invalid json"
  | .fault .invertedBounds => "inverted bounds"

end Tabletop
