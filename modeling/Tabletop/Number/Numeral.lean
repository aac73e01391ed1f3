/-
This file reads and writes decimal numerals and adds up lists of numbers.
-/

import Tabletop.Text.CodeRanges

namespace Tabletop.Number

open Text

/-- The number that a list of ASCII digits denotes. -/
def natOfDigits (digits : List Char) : Nat :=
  digits.foldl (fun value digit => 10 * value + digitValue digit) 0

/-- A nonempty run of ASCII digits as a number. -/
def readDigits? (text : List Char) : Option Nat :=
  if !text.isEmpty && text.all Char.isDigit then some (natOfDigits text) else none

/-- A numeral below `bound`, with an optional plus sign. -/
def readBelow? (bound : Nat) (text : List Char) : Option Nat :=
  let digits := match text with
    | '+' :: rest => rest
    | _ => text
  (readDigits? digits).filter (· < bound)

/-- The number of values of 32 bits. -/
def countRange : Nat := 0x100000000

/-- The number of values of 64 bits. -/
def wordRange : Nat := 0x10000000000000000

/-- The smallest number of 64-bit arithmetic. -/
def minWord : Int := -0x8000000000000000

/-- The largest number of 64-bit arithmetic. -/
def maxWord : Int := 0x7FFFFFFFFFFFFFFF

/-- The number fits into 64 bits. -/
def isWord (number : Int) : Bool :=
  minWord ≤ number && number ≤ maxWord

theorem isWord_iff {number : Int} : isWord number = true ↔ minWord ≤ number ∧ number ≤ maxWord := by
  simp only [isWord, Bool.and_eq_true, decide_eq_true_eq]

/-- A signed numeral that fits into 64 bits. -/
def readWord? (text : List Char) : Option Int :=
  let number := match text with
    | '-' :: rest => (readDigits? rest).map fun value => -(value : Int)
    | '+' :: rest => (readDigits? rest).map fun value => (value : Int)
    | _ => (readDigits? text).map fun value => (value : Int)
  number.filter isWord

/-- The 64-bit number that agrees with `number` in its low bits. -/
def wrap (number : Int) : Int :=
  Int.bmod number wordRange

def writeNat (number : Nat) : List Char :=
  Nat.toDigits 10 number

theorem isDigit_of_mem_writeNat {number : Nat} {char : Char} (member : char ∈ writeNat number) : char.isDigit = true :=
  Nat.isDigit_of_mem_toDigits (by decide) (by decide) member

/-- The decimal numeral of a number, with a minus sign below zero. -/
def writeInt (number : Int) : List Char :=
  if number < 0 then '-' :: writeNat number.natAbs else writeNat number.natAbs

def natText (number : Nat) : String :=
  String.ofList (writeNat number)

def intText (number : Int) : String :=
  String.ofList (writeInt number)

/-- The sum of a list. -/
def total : List Nat → Nat
  | [] => 0
  | number :: others => number + total others

end Tabletop.Number
