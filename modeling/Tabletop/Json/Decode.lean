/-
This file reads JSON values as values of other types.
-/

import Tabletop.Json.Value
import Tabletop.Number.Numeral
import Tabletop.Table

namespace Tabletop

/-- A reader of a type from JSON. Every misfit is the same failure. -/
abbrev Decoder (α : Type) := Json → Option α

namespace Decoder

variable {α : Type}

def string : Decoder String
  | .string text => some text
  | _ => none

def bool : Decoder Bool
  | .bool value => some value
  | _ => none

/-- An integer of 64 bits. -/
def word : Decoder Int
  | .number (.whole value) => if Number.isWord value then some value else none
  | _ => none

/-- A natural number below `bound`. -/
def below (bound : Nat) : Decoder Nat
  | .number (.whole value) => if 0 ≤ value ∧ value < bound then some value.toNat else none
  | _ => none

/-- A natural number of 32 bits. -/
def count : Decoder Nat :=
  below Number.countRange

def list (item : Decoder α) : Decoder (List α)
  | .array items => items.mapM item
  | _ => none

/-- Null stands for no value. -/
def option (item : Decoder α) : Decoder (Option α)
  | .null => some none
  | json => (item json).map some

/-- One of some names. A name may also stand as the only key of an object, with null. -/
def choice (names : List (String × α)) : Decoder α
  | .string text => (names.find? (·.1 == text)).map (·.2)
  | .object [(text, .null)] => (names.find? (·.1 == text)).map (·.2)
  | _ => none

/-- An object with free keys. The last value of a key counts. -/
def table (item : Decoder α) : Decoder (Table α)
  | .object fields => do
    let pairs ← fields.mapM fun (key, value) => (item value).map fun value => (key, value)
    return Table.ofPairs pairs
  | _ => none

end Decoder

/-- The values of the named fields of an object or an array. -/
abbrev Record := String → Option Json

namespace Json

/-- Some name of the list is the key of more than one field. -/
def repeats (names : List String) (fields : List (String × Json)) : Bool :=
  names.any fun name => 1 < (fields.filter (·.1 == name)).length

/-- The fields of an object. A named field stands at most once. -/
def objectRecord? (names : List String) : Json → Option Record
  | .object fields =>
    if repeats names fields then none
    else some fun name => (fields.find? (·.1 == name)).map (·.2)
  | _ => none

/-- The fields of an object, or of an array that lists them in order. -/
def record? (names : List String) : Json → Option Record
  | .array items =>
    if names.length < items.length then none
    else some fun name => ((names.zip items).find? (·.1 == name)).map (·.2)
  | json => objectRecord? names json

end Json

namespace Record

variable {α : Type}

/-- The value of a field that has to be there. -/
def required (record : Record) (name : String) (decode : Decoder α) : Option α :=
  (record name).bind decode

/-- The value of a field, or the standard one if the field is missing. -/
def withDefault (record : Record) (name : String) (decode : Decoder α) (standard : α) : Option α :=
  match record name with
  | some json => decode json
  | none => some standard

/-- The value of a field that may be missing or null. -/
def optional (record : Record) (name : String) (decode : Decoder α) : Option (Option α) :=
  record.withDefault name (.option decode) none

end Record

namespace Json

variable {α : Type}

/-- An object with the entries of a table in their order. -/
def ofTable (encode : α → Json) (table : Table α) : Json :=
  .object (table.toList.map fun (key, value) => (key, encode value))

end Json

end Tabletop
