/-
This file defines the rules of death saving throws.
-/

import Tabletop.Card.Dnd

namespace Tabletop

/-- What a face means for a dying character. -/
inductive DeathSave where
  | revived
  | criticalFailure
  | success
  | failure
deriving DecidableEq, Repr

namespace DeathSave

/-- So many successes or failures end the throws. -/
def limit : Nat := 3

/-- Counters have so many values. -/
def counterBound : Nat := Number.countRange

def ofFace (face : Int) : DeathSave :=
  if 20 ≤ face then .revived
  else if face ≤ 1 then .criticalFailure
  else if 10 ≤ face then .success
  else .failure

def name : DeathSave → String
  | .revived => "Revived"
  | .criticalFailure => "CriticalFailure"
  | .success => "Success"
  | .failure => "Failure"

def textKey : DeathSave → String
  | .revived => "roll.ds.best"
  | .criticalFailure => "roll.ds.worst"
  | .success => "roll.ds.success"
  | .failure => "roll.ds.failure"

/-- The counters after a throw. -/
def tally (outcome : DeathSave) (saving : DeathSaving) : DeathSaving :=
  match outcome with
  | .revived => ⟨0, 0⟩
  | .criticalFailure => { saving with failure := (saving.failure + 2) % counterBound }
  | .success => { saving with success := (saving.success + 1) % counterBound }
  | .failure => { saving with failure := (saving.failure + 1) % counterBound }

end DeathSave

end Tabletop
