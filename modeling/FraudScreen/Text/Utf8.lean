import FraudScreen.Text.CodeSet

/-!
# Characters as bytes

A character takes one to four bytes. A range of code points is a union of ranges in each of which every byte
runs through an interval of its own, whatever the other bytes are.
-/
namespace FraudScreen.Text.Utf8

/-- The bytes of a code point. -/
def encode (n : Nat) : List Nat :=
  if n < 0x80 then [n]
  else if n < 0x800 then [0xC0 + n / 64, 0x80 + n % 64]
  else if n < 0x10000 then [0xE0 + n / 4096, 0x80 + n / 64 % 64, 0x80 + n % 64]
  else [0xF0 + n / 262144, 0x80 + n / 4096 % 64, 0x80 + n / 64 % 64, 0x80 + n % 64]

/-- The number of bytes that follow the first byte of a character; `none` for a byte that begins none. -/
def following? (byte : Nat) : Option Nat :=
  if byte < 0x80 then some 0
  else if byte < 0xC0 then none
  else if byte < 0xE0 then some 1
  else if byte < 0xF0 then some 2
  else if byte < 0xF8 then some 3
  else none

/-- A byte that follows the first byte of a character. -/
def isFollowing (byte : Nat) : Bool := byte / 64 == 2

/-- An interval of bytes for each byte of a character. -/
abbrev Sequence := List (Nat × Nat)

/-- The last code point before the place where a range must be divided because the number of bytes changes. -/
def lengthCut? (lo hi : Nat) : Option Nat := [0x7F, 0x7FF, 0xFFFF].find? fun most => lo ≤ most && most < hi

/-- The last code point before the place where a range of characters of equally many bytes must be divided
because the bytes before the last `i` change. -/
def byteCut? (lo hi : Nat) : List Nat → Option Nat
  | [] => none
  | i :: rest =>
    let size := 1 <<< (6 * i)
    if lo / size = hi / size then byteCut? lo hi rest
    else if lo % size ≠ 0 then some (lo / size * size + size - 1)
    else if hi % size ≠ size - 1 then some (hi / size * size - 1)
    else byteCut? lo hi rest

/-- The last code point before the place where a range must be divided. -/
def cut? (lo hi : Nat) : Option Nat :=
  match lengthCut? lo hi with
  | some m => some m
  | none => if hi < 0x80 then none else byteCut? lo hi [1, 2, 3]

/-- The sequences of a range of code points in ascending order, without the surrogates. A range is divided a few
times for each byte at most. -/
def sequencesOfRange : Nat → Nat → Nat → List Sequence
  | 0, _, _ => []
  | fuel + 1, lo, hi =>
    if hi < lo then []
    else if lo < 0xE000 ∧ 0xD7FF < hi then sequencesOfRange fuel lo 0xD7FF ++ sequencesOfRange fuel 0xE000 hi
    else match cut? lo hi with
      | some m => sequencesOfRange fuel lo m ++ sequencesOfRange fuel (m + 1) hi
      | none => [(encode lo).zip (encode hi)]

/-- The ranges of a set between ascending bounds. -/
def rangesOf : List Nat → List (Nat × Nat)
  | a :: b :: rest => (a, b - 1) :: rangesOf rest
  | [a] => [(a, 0x10FFFF)]
  | [] => []

/-- The sequences of the members of a set in ascending order. -/
def sequences (s : CodeSet) : List Sequence :=
  (rangesOf s.bounds.toList).flatMap fun (lo, hi) => sequencesOfRange 32 lo hi

end FraudScreen.Text.Utf8
