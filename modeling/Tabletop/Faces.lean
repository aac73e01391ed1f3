/-
This file defines the source of die faces.
-/

namespace Tabletop

/-- An endless stream of numbers, and how many of them were taken. A number may depend on the range
that is asked for. -/
structure Faces where
  stream : (index low high : Nat) → Nat
  taken : Nat

namespace Faces

/-- The next number, moved to the nearest one from `low` to `high`. -/
def draw (low high : Nat) : StateM Faces Nat := fun faces =>
  (max low (min (max low high) (faces.stream faces.taken low high)),
    { faces with taken := faces.taken + 1 })

/-- Every face is `number`. -/
def constant (number : Nat) : Faces :=
  ⟨fun _ _ _ => number, 0⟩

/-- The numbers of the list, over and over. The stream of an empty list is zero. -/
def cycle (numbers : Array Nat) : Faces :=
  ⟨fun index _ _ => numbers[index % numbers.size]?.getD 0, 0⟩

/-- The bits of a word, mixed so that neighbouring words differ in about half of their bits. -/
def mix (word : UInt64) : UInt64 :=
  let word := (word ^^^ (word >>> 30)) * 0xBF58476D1CE4E5B9
  let word := (word ^^^ (word >>> 27)) * 0x94D049BB133111EB
  word ^^^ (word >>> 31)

/-- Numbers of the range that look random. A seed gives the same ones each time. -/
def seeded (seed : Nat) : Faces :=
  ⟨fun index low high =>
    let word := mix (UInt64.ofNat seed + UInt64.ofNat (index + 1) * 0x9E3779B97F4A7C15)
    low + word.toNat % (high + 1 - low), 0⟩

end Faces

end Tabletop
