/-!
# Substrate.Pattern.CharSet

Sets of characters as expressions over ranges: the meaning of what a pattern writes in brackets.
The view is `CharSet.mem`.
-/

namespace Substrate

/-- A set of characters. -/
inductive CharSet where
  | none
  | range (first last : Char)
  | union (s t : CharSet)
  | inter (s t : CharSet)
  | compl (s : CharSet)
  /-- The set together with the other case of its letters of the Latin alphabet. -/
  | caseless (s : CharSet)
  deriving Repr, DecidableEq

namespace CharSet

/-- The other case of a letter between `a` and `z`; all else is its own other case. -/
def otherCase (c : Char) : Char := if c.isUpper then c.toLower else c.toUpper

/-- Is the character in the set? -/
def mem : CharSet → Char → Bool
  | none, _ => false
  | range first last, c => first ≤ c && c ≤ last
  | union s t, c => s.mem c || t.mem c
  | inter s t, c => s.mem c && t.mem c
  | compl s, c => !s.mem c
  | caseless s, c => s.mem c || s.mem (otherCase c)

/-- The set of one character. -/
def single (c : Char) : CharSet := range c c

/-- All characters. -/
def all : CharSet := compl none

/-- What is in the first set and not in the second. -/
def diff (s t : CharSet) : CharSet := inter s (compl t)

/-- What is in one of the sets and not in both. -/
def symmDiff (s t : CharSet) : CharSet := union (diff s t) (diff t s)

/-- The union of ranges. -/
def ofRanges : List (Char × Char) → CharSet
  | [] => none
  | [(first, last)] => range first last
  | (first, last) :: rest => union (range first last) (ofRanges rest)

/-! ## Named sets -/

/-- The decimal digits. -/
def digit : CharSet := range '0' '9'

/-- The white space of the first 128 code points. -/
def space : CharSet := ofRanges [('\t', '\r'), (' ', ' ')]

/-- Letters, digits and the underscore. -/
def word : CharSet := ofRanges [('0', '9'), ('A', 'Z'), ('_', '_'), ('a', 'z')]

/-- The set of the first 128 code points that goes by a name. -/
def named? : String → Option CharSet
  | "alnum" => some (ofRanges [('0', '9'), ('A', 'Z'), ('a', 'z')])
  | "alpha" => some (ofRanges [('A', 'Z'), ('a', 'z')])
  | "ascii" => some (range '\x00' '\x7f')
  | "blank" => some (ofRanges [('\t', '\t'), (' ', ' ')])
  | "cntrl" => some (ofRanges [('\x00', '\x1f'), ('\x7f', '\x7f')])
  | "digit" => some digit
  | "graph" => some (range '!' '~')
  | "lower" => some (range 'a' 'z')
  | "print" => some (range ' ' '~')
  | "punct" => some (ofRanges [('!', '/'), (':', '@'), ('[', '\x60'), ('\x7b', '~')])
  | "space" => some space
  | "upper" => some (range 'A' 'Z')
  | "word" => some word
  | "xdigit" => some (ofRanges [('0', '9'), ('A', 'F'), ('a', 'f')])
  | _ => Option.none

/-! ## Runs -/

/-- The code points at which the set can start or stop. -/
def bounds : CharSet → List Nat
  | none => []
  | range first last => [first.toNat, last.toNat + 1]
  | union s t => s.bounds ++ t.bounds
  | inter s t => s.bounds ++ t.bounds
  | compl s => s.bounds
  | caseless s => s.bounds ++ List.range' 65 27 ++ List.range' 97 27

/-- Is the number the code point of a character in the set? -/
def holds (s : CharSet) (n : Nat) : Bool := decide n.isValidChar && s.mem (Char.ofNat n)

/-- Adds a number to an ascending list that holds each number once. -/
def insertBound (n : Nat) : List Nat → List Nat
  | [] => [n]
  | m :: rest => if n < m then n :: m :: rest else if n = m then m :: rest
    else m :: insertBound n rest

/-- Puts a run in front of ascending runs, which it may touch. -/
def joinRun (r : Nat × Nat) : List (Nat × Nat) → List (Nat × Nat)
  | [] => [r]
  | (first, last) :: rest =>
    if r.2 + 1 = first then (r.1, last) :: rest else r :: (first, last) :: rest

/-- First and last code point of each run of characters in the set, ascending and with a gap between
any two runs. No run goes over the code points that are no characters. -/
def runs (s : CharSet) : List (Nat × Nat) :=
  let bounds := s.bounds.foldr insertBound [0, 0xd800, 0xe000, 0x110000]
  ((bounds.zip bounds.tail).filterMap fun (start, stop) =>
    if s.holds start then some (start, stop - 1) else Option.none).foldr joinRun []

/-- The same set, as the union of its runs. -/
def normal (s : CharSet) : CharSet :=
  ofRanges (s.runs.map fun (first, last) => (Char.ofNat first, Char.ofNat last))

example : (union (range 'c' 'f') (union (single 'a') (range 'b' 'd'))).normal = range 'a' 'f' := by
  decide +kernel

example : (compl (single '\n')).runs = [(0, 9), (11, 0xd7ff), (0xe000, 0x10ffff)] := by
  decide +kernel

/-! ## Membership -/

@[simp] theorem mem_none (c : Char) : none.mem c = false := rfl

@[simp] theorem mem_union (s t : CharSet) (c : Char) : (union s t).mem c = (s.mem c || t.mem c) :=
  rfl

@[simp] theorem mem_all (c : Char) : all.mem c = true := rfl

@[simp] theorem mem_single (c d : Char) : (single c).mem d = true ↔ d = c := by
  simp only [single, mem, Bool.and_eq_true, decide_eq_true_eq]
  exact ⟨fun h => Char.le_antisymm h.2 h.1, fun h => h ▸ ⟨Char.le_refl _, Char.le_refl _⟩⟩

@[simp] theorem mem_diff (s t : CharSet) (c : Char) : (diff s t).mem c = (s.mem c && !t.mem c) :=
  rfl

end CharSet

end Substrate
