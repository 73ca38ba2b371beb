import Substrate.Pattern.CharSet

/-!
# Substrate.Pattern.Encoding

Sets of characters as a machine sees them that reads one byte after the other: rows of byte ranges.
A row stands for the characters whose encoding has, byte for byte, a byte of each range.
-/

namespace Substrate.CharSet

/-- First and last byte of a range. -/
abbrev ByteRange := Nat × Nat

/-- The bytes of a character by its code point. -/
def encoding (n : Nat) : List Nat := (String.utf8EncodeChar (Char.ofNat n)).map (·.toNat)

/-- The bytes of a word. -/
def encodingOf (word : List Char) : List Nat := word.flatMap fun c => encoding c.toNat

/-- Where a run has to be cut because it is no row: where the encoding grows longer, and where a
byte that changes stands in front of bytes that do not go from the least to the greatest. -/
def cut? (first last : Nat) : Option Nat :=
  match [0x7f, 0x7ff, 0xffff].find? fun n => first ≤ n && n < last with
  | some n => some n
  | .none =>
    if last < 128 then Option.none
    else [64, 4096, 262144].findSome? fun size =>
      if first / size = last / size then Option.none
      else if first % size ≠ 0 then some (first / size * size + size - 1)
      else if last % size ≠ size - 1 then some (last / size * size - 1)
      else Option.none

/-- The rows of a run, in at most as many steps as cuts follow one another. -/
def rowsOfRun : Nat → Nat → Nat → List (List ByteRange)
  | 0, _, _ => []
  | steps + 1, first, last =>
    match cut? first last with
    | some n => rowsOfRun steps first n ++ rowsOfRun steps (n + 1) last
    | .none => [(encoding first).zip (encoding last)]

/-- The rows of a set, ascending. A run is cut at no more than three lengths, and for each of three
sizes at its start and at its end. -/
def byteRows (s : CharSet) : List (List ByteRange) :=
  s.runs.flatMap fun (first, last) => rowsOfRun 16 first last

/-! ## Cut, then encoded -/

example : (range 'a' 'z').byteRows = [[(0x61, 0x7a)]] := by decide +kernel

example : (range 'z' 'é').byteRows =
    [[(0x7a, 0x7f)], [(0xc2, 0xc2), (0x80, 0xbf)], [(0xc3, 0xc3), (0x80, 0xa9)]] := by
  decide +kernel

example : (compl (single '\n')).byteRows.length = 10 := by decide +kernel

end Substrate.CharSet
