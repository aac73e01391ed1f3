/-
This file defines the values of JSON.
-/

namespace Tabletop

/-- A number as it is written. Whole numbers without a fraction or an exponent stand apart. -/
inductive JsonNumber where
  | whole (value : Int)
  | scaled (negative : Bool) (digits : Nat) (exponent : Int)
deriving DecidableEq, Repr

inductive Json where
  | null
  | bool (value : Bool)
  | number (value : JsonNumber)
  | string (text : String)
  | array (items : List Json)
  | object (fields : List (String × Json))

namespace Json

def int (value : Int) : Json :=
  .number (.whole value)

def nat (value : Nat) : Json :=
  .int value

def text (chars : List Char) : Json :=
  .string (String.ofList chars)

/-- The value of an option, with null for none. -/
def ofOption {α : Type} (encode : α → Json) : Option α → Json
  | none => .null
  | some value => encode value

def ofList {α : Type} (encode : α → Json) (values : List α) : Json :=
  .array (values.map encode)

def strings (values : List String) : Json :=
  .ofList .string values

/-- The last value of a key. -/
def get? (key : String) : Json → Option Json
  | .object fields => (fields.reverse.find? (·.1 == key)).map (·.2)
  | _ => none

end Json

end Tabletop
