import Substrate.Pattern.Encoding
import Substrate.Pattern.Simple

/-!
# Substrate.Pattern.Room

How much room a machine for a pattern takes, in bytes. The machine reads a text byte by byte and has
a state for every byte, condition, fork and end, with every repetition written out; states that test
for ranges and forks have room for their ways besides. A pattern takes two machines: one that reads
forward and keeps the ends of groups, and one that reads backward from where the first one ended. A
pattern is accepted only if neither of them takes more than `Pattern.roomLimit`.
-/

namespace Substrate.Pattern

/-- The direction in which a machine reads. -/
inductive Direction where
  | forward
  | backward
  deriving Repr, DecidableEq

/-- The room of a state. -/
def stateRoom : Nat := 32

/-- The room of a way out of a state that tests for ranges of bytes. -/
def rangeRoom : Nat := 8

/-- The room of a way out of a fork. -/
def forkRoom : Nat := 4

/-- The room of all. -/
def total (rooms : List Nat) : Nat := rooms.foldl (· + ·) 0

/-! ## Rows of tests -/

/-- What the rows start with. -/
def heads {α : Type} [DecidableEq α] (rows : List (List α)) : List α :=
  (rows.filterMap List.head?).eraseDups

/-- What follows in the rows that start with `a`. -/
def behind {α : Type} [DecidableEq α] (a : α) (rows : List (List α)) : List (List α) :=
  rows.filterMap fun row => match row with
    | [] => none
    | b :: rest => if b = a then some rest else none

/-- Everything that can be left of the rows after some of their tests, as long as one is left. A row
has at most `length` tests. -/
def remainders {α : Type} [DecidableEq α] : Nat → List (List α) → List (List (List α))
  | 0, _ => []
  | length + 1, rows =>
    if (heads rows).isEmpty then []
    else rows :: (heads rows).flatMap fun a => remainders length (behind a rows)

/-- The room of a set. Reading forward, what is left of the rows after some bytes makes a state, one
for all that is left in the same way. Reading backward, rows share the states of what they start
with. -/
def setRoom (d : Direction) (s : CharSet) : Nat :=
  let rows := s.byteRows
  if s.runs.all fun r => r.2 < 128 then 2 * stateRoom + rangeRoom * rows.length
  else match d with
    | .forward =>
      stateRoom + total ((remainders 4 rows).eraseDups.map fun rows =>
        stateRoom + rangeRoom * (heads rows).length)
    | .backward =>
      let fronts := (rows.flatMap fun row =>
        (List.range row.length).map fun n => row.take (n + 1)).eraseDups
      stateRoom * (2 + fronts.length) + forkRoom * rows.length

/-! ## Choices of words -/

/-- The words up to an empty word, those up to the next, and so on. -/
def sections {α : Type} : List (List α) → List (List (List α))
  | [] => [[]]
  | [] :: rest => [] :: sections rest
  | word :: rest =>
    match sections rest with
    | [] => [[word]]
    | first :: others => (word :: first) :: others

/-- The words, with those that are empty at the start as one. -/
def dropRepeated {α : Type} (words : List (List α)) : List (List α) :=
  let others := words.dropWhile List.isEmpty
  if others.length < words.length then [] :: others else others

/-- The room of a choice between words that have at most `length` bytes. It has a fork for
everything that words start with, and ways out of it for the words between two words that end
there: no word is tested for before one in front of it. -/
def forkedRoom : Nat → List (List Nat) → Nat
  | 0, _ => 0
  | length + 1, words =>
    if (heads words).isEmpty then 0
    else
      let sections := sections (dropRepeated words)
      let full := sections.filter fun words => !words.isEmpty
      stateRoom + forkRoom * (sections.length - 1 + full.length) +
        total (full.map fun words =>
          let ways := (heads words).length
          stateRoom + (if ways = 1 then 0 else rangeRoom * ways) +
            total ((heads words).map fun b => forkedRoom length (behind b words)))

/-- The bytes of a word in the order in which they are read. -/
def bytesOf (d : Direction) (word : List Char) : List Nat :=
  match d with
  | .forward => CharSet.encodingOf word
  | .backward => (CharSet.encodingOf word).reverse

/-- The room of a choice between words. -/
def wordsRoom (d : Direction) (words : List (List Char)) : Nat :=
  let words := words.map (bytesOf d)
  stateRoom + forkedRoom ((words.map List.length).foldl max 0) words

/-! ## Patterns -/

/-- The room of a pattern in simple form; `inChoice` tells that it is one of several choices. -/
def room (d : Direction) (inChoice : Bool) : Pattern → Nat
  | empty => way + stateRoom
  | look _ => way + stateRoom
  | one s =>
    match (one s).char? with
    | some c => way + stateRoom * (CharSet.encoding c.toNat).length
    | none => way + setRoom d s
  | seq p q => way + room d false p + room d false q
  | alt p q =>
    let sum := room d true p + room d true q
    if inChoice then sum
    else match (alt p q).choices.mapM word? with
      | some words => wordsRoom d words
      | none => 2 * stateRoom + sum
  | group _ p =>
    match d with
    | .forward => way + 2 * stateRoom + room d false p
    | .backward => way + room d false p
  | times p least most =>
    let n := room d false p
    let fork := stateRoom + 2 * forkRoom
    match least, most with
    | 0, some 1 => way + n + fork + stateRoom
    | 0, none =>
      if p.shortest?.any (0 < ·) then way + n + fork else way + n + 2 * fork + stateRoom
    | least, none => way + least * n + fork
    | least, some most =>
      if least = most then way + least * n
      else
        let start := if least = 0 then stateRoom else least * n
        way + start + stateRoom + (most - least) * (n + fork)
where
  /-- The way to a choice. -/
  way : Nat := if inChoice then forkRoom else 0

/-! ## Machines -/

/-- Does the pattern start with the start of the text, whatever is found? -/
def isAtStart : Pattern → Bool
  | look l => l == .textStart
  | seq p q => p.isAtStart || (p.isStill && q.isAtStart)
  | alt p q => p.isAtStart && q.isAtStart
  | times p least _ => 0 < least && p.isAtStart
  | group _ p => p.isAtStart
  | _ => false

/-- Does the pattern end with the end of the text, whatever is found? -/
def isAtEnd : Pattern → Bool
  | look l => l == .textEnd
  | seq p q => q.isAtEnd || (q.isStill && p.isAtEnd)
  | alt p q => p.isAtEnd && q.isAtEnd
  | times p least _ => 0 < least && p.isAtEnd
  | group _ p => p.isAtEnd
  | _ => false

/-- The room of a machine: the pattern, a state where a match is complete, and in front a loop over
any bytes, unless all matches begin at one place. The whole pattern counts as a group. -/
def machineRoom (d : Direction) (p : Pattern) : Nat :=
  let isAnchored := match d with
    | .forward => p.isAtStart
    | .backward => p.isAtEnd
  let loop := if isAnchored then stateRoom else 3 * stateRoom + rangeRoom + 2 * forkRoom
  loop + room d false (group 0 p) + stateRoom

/-- The most room that a machine may take: ten mebibytes. -/
def roomLimit : Nat := 10485760

/-- Do the machines of the pattern stay within the limit? -/
def fits (p : Pattern) : Bool :=
  machineRoom .forward p ≤ roomLimit && machineRoom .backward p ≤ roomLimit

/-! ## Just small enough -/

example : (repeated (.ofSet (.single 's')) 327673 (some 327673)).fits = true ∧
    (repeated (.ofSet (.single 's')) 327674 (some 327674)).fits = false := by decide +kernel

/-- A dot takes more room backward than forward. -/
example : room .forward false (.ofSet (.compl (.single '\n'))) = 424 ∧
    room .backward false (.ofSet (.compl (.single '\n'))) = 1000 := by decide +kernel

/-- Words that start alike share their first tests. -/
example : wordsRoom .forward ["ab".toList, "ac".toList] = 184 := by decide +kernel

end Substrate.Pattern
