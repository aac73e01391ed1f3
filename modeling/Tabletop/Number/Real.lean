/-
This file reads floating point numbers, opens them into their sign, mantissa and exponent, and writes them with the
fewest digits that read back as the same number.
-/

import Tabletop.Number.Numeral

namespace Tabletop.Number

/-- The float nearest to `digits * 10 ^ exponent`. -/
def floatOfDecimal (digits : Nat) (exponent : Int) : Float :=
  if digits = 0 then 0.0
  else
    let length : Int := (writeNat digits).length
    if 310 < length + exponent then 1.0 / 0.0
    else if length + exponent < -330 then 0.0
    else if exponent < 0 then Float.ofScientific digits true exponent.natAbs
    else Float.ofScientific digits false exponent.natAbs

/-- The float nearest to an integer. -/
def floatOfInt (number : Int) : Float :=
  if number < 0 then -(floatOfDecimal number.natAbs 0) else floatOfDecimal number.natAbs 0

/-- Reads an exponent: an optional sign and digits. -/
def readExponent? : List Char → Option Int
  | '-' :: rest => (readDigits? rest).map fun value => -(value : Int)
  | '+' :: rest => (readDigits? rest).map fun value => (value : Int)
  | text => (readDigits? text).map fun value => (value : Int)

/-- Reads a size: digits with an optional point and an optional exponent, or a name. -/
def readSize? (text : List Char) : Option Float :=
  let lower := text.map Char.toLower
  if lower = "inf".toList ∨ lower = "infinity".toList then some (1.0 / 0.0)
  else if lower = "nan".toList then some (0.0 / 0.0)
  else
    let whole := text.takeWhile Char.isDigit
    let rest := text.dropWhile Char.isDigit
    let (places, rest) := match rest with
      | '.' :: behind => (behind.takeWhile Char.isDigit, behind.dropWhile Char.isDigit)
      | _ => ([], rest)
    if whole.isEmpty && places.isEmpty then none
    else
      let exponent? := match rest with
        | [] => some 0
        | 'e' :: behind => readExponent? behind
        | 'E' :: behind => readExponent? behind
        | _ => none
      exponent?.map fun exponent =>
        floatOfDecimal (natOfDigits (whole ++ places)) (exponent - (places.length : Int))

/-- Reads a float with an optional sign. -/
def readFloat? : List Char → Option Float
  | '-' :: rest => (readSize? rest).map fun size => -size
  | '+' :: rest => readSize? rest
  | text => readSize? text

/-- A finite number: its size is `mantissa * 2 ^ exponent`. -/
structure Binary where
  negative : Bool
  mantissa : Nat
  exponent : Int
  /-- The next smaller number is only half as far away as the next larger one. -/
  narrowBelow : Bool
deriving DecidableEq, Repr

/-- The number of values of the fraction bits. -/
def fractionRange : Nat := 0x10000000000000

/-- The number of values of the exponent bits. -/
def exponentRange : Nat := 0x800

/-- The parts of a finite number. -/
def Binary.ofFloat? (number : Float) : Option Binary :=
  let bits := number.toBits.toNat
  let negative : Bool := 0x8000000000000000 ≤ bits
  let biased : Nat := bits / fractionRange % exponentRange
  let fraction : Nat := bits % fractionRange
  if biased = exponentRange - 1 then none
  else if biased = 0 then some ⟨negative, fraction, -1074, false⟩
  else some ⟨negative, fraction + fractionRange, (biased : Int) - 1075, fraction = 0 && 1 < biased⟩

/-- The number `mantissa * 2 ^ exponent` with its sign. -/
def Binary.toFloat (binary : Binary) : Float :=
  let size := Float.scaleB (Float.ofNat binary.mantissa) binary.exponent
  if binary.negative then -size else size

/-- The remainder of a division that drops the fraction. It has the sign of the dividend. -/
def floatRemainder (dividend divisor : Float) : Float :=
  match Binary.ofFloat? dividend, Binary.ofFloat? divisor with
  | none, _ => 0.0 / 0.0
  | some _, none => if divisor.isNaN then divisor else dividend
  | some left, some right =>
    if right.mantissa = 0 then 0.0 / 0.0
    else
      let exponent := min left.exponent right.exponent
      let leftUnits := left.mantissa * Nat.pow 2 (left.exponent - exponent).toNat
      let rightUnits := right.mantissa * Nat.pow 2 (right.exponent - exponent).toNat
      Binary.toFloat ⟨left.negative, leftUnits % rightUnits, exponent, false⟩

/-- The number `digits * 10 ^ exponent`. -/
structure Decimal where
  digits : Nat
  exponent : Int
deriving DecidableEq, Repr

/-- The real numbers around a float that round to it, as multiples of `numerator / denominator`. -/
structure Neighbourhood where
  /-- Four times the mantissa. -/
  centre : Nat
  low : Nat
  high : Nat
  closed : Bool
  numerator : Nat
  denominator : Nat

def Neighbourhood.ofBinary (binary : Binary) : Neighbourhood :=
  let exponent := binary.exponent - 2
  { centre := 4 * binary.mantissa
    low := 4 * binary.mantissa - (if binary.narrowBelow then 1 else 2)
    high := 4 * binary.mantissa + 2
    closed := binary.mantissa % 2 = 0
    numerator := Nat.pow 2 exponent.toNat
    denominator := Nat.pow 2 (-exponent).toNat }

/-- A point with a common denominator lies in the neighbourhood. -/
def Neighbourhood.holds (around : Neighbourhood) (scale point : Nat) : Bool :=
  let low := around.low * around.numerator * scale
  let high := around.high * around.numerator * scale
  if around.closed then low ≤ point && point ≤ high else low < point && point < high

/-- The multiple of a power of ten that is nearest to the centre, if one lies in the neighbourhood.
Of two that are equally near the larger one is taken. -/
def Neighbourhood.onGrid? (around : Neighbourhood) (exponent : Int) : Option Nat :=
  let unit := Nat.pow 10 exponent.toNat * around.denominator
  let scale := Nat.pow 10 (-exponent).toNat
  let centre := around.centre * around.numerator * scale
  let below := centre / unit
  let holdsBelow := around.holds scale (below * unit)
  let holdsAbove := around.holds scale ((below + 1) * unit)
  if holdsAbove && (!holdsBelow || unit ≤ 2 * (centre - below * unit)) then some (below + 1)
  else if holdsBelow then some below
  else none

/-- The decimal on the coarsest grid, from `exponent` downwards. -/
def Neighbourhood.search (around : Neighbourhood) : (steps : Nat) → (exponent : Int) → Decimal
  | 0, exponent => ⟨0, exponent⟩
  | steps + 1, exponent =>
    match around.onGrid? exponent with
    | some digits => ⟨digits, exponent⟩
    | none => around.search steps (exponent - 1)

/-- The decimal with the fewest digits that rounds to the size of a nonzero number. -/
def shortest (binary : Binary) : Decimal :=
  (Neighbourhood.ofBinary binary).search 700 309

/-- A decimal without an exponent. The point stands only in front of a fraction. -/
def Decimal.positional (decimal : Decimal) : List Char :=
  let digits := writeNat decimal.digits
  let places := (-decimal.exponent).toNat
  if places = 0 then digits ++ List.replicate decimal.exponent.toNat '0'
  else
    let padded := List.replicate (places + 1 - digits.length) '0' ++ digits
    padded.take (padded.length - places) ++ ['.'] ++ padded.drop (padded.length - places)

/-- A decimal with one digit in front of the point and an exponent. -/
def Decimal.scientific (decimal : Decimal) : List Char :=
  match writeNat decimal.digits with
  | [] => []
  | first :: others =>
    [first] ++ (if others.isEmpty then [] else '.' :: others) ++ ['e'] ++
      writeInt (decimal.exponent + others.length)

def nonFiniteText (number : Float) : List Char :=
  if number.isNaN then "NaN".toList
  else if number < 0.0 then "-inf".toList
  else "inf".toList

/-- A number without an exponent. Both zeros are written alike. -/
def plainFloat (number : Float) : List Char :=
  match Binary.ofFloat? number with
  | none => nonFiniteText number
  | some binary =>
    if binary.mantissa = 0 then ['0']
    else (if binary.negative then ['-'] else []) ++ (shortest binary).positional

/-- A number that shows that it is a float: by a point, or by an exponent where it is very large or
very small. -/
def markedFloat (number : Float) : List Char :=
  match Binary.ofFloat? number with
  | none => nonFiniteText number
  | some binary =>
    let sign := if binary.negative then ['-'] else []
    let size := number.abs
    if binary.mantissa = 0 then sign ++ ['0', '.', '0']
    else if size < 1e-4 || 1e16 ≤ size then sign ++ (shortest binary).scientific
    else
      let text := (shortest binary).positional
      sign ++ text ++ (if text.contains '.' then [] else ['.', '0'])

end Tabletop.Number
