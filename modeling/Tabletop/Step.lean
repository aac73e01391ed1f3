/-
This file defines the steps of which rolls are made.
-/

import Tabletop.Error
import Tabletop.Notation.Roll

namespace Tabletop

/-- A step that takes faces, works on a record and can fail. What it did before it fails stays done. -/
abbrev Step (ρ α : Type) := ExceptT Error (StateT ρ (StateM Faces)) α

namespace Step

variable {ρ σ α : Type}

/-- Rolls a notation. -/
def dice (text : String) (mode : Notation.Mode) : Step ρ Notation.Result := fun record faces =>
  let (result, faces) := Notation.roll text mode faces
  ((result.mapError .dice, record), faces)

/-- Works on a part of the record. -/
def within (part : ρ → σ) (setPart : ρ → σ → ρ) (step : Step σ α) : Step ρ α := fun record faces =>
  let ((result, inner), faces) := step (part record) faces
  ((result, setPart record inner), faces)

end Step

end Tabletop
