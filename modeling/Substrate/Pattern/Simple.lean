import Substrate.Pattern.Basic

/-!
# Substrate.Pattern.Simple

Patterns put together in simple form. A row of patterns leaves out what is empty, a choice between
characters is a set, what every choice starts with stands in front of the choice, and what takes up
no text is not repeated. None of it changes what is found (`ends_row`, `mem_ends_oneOf`); it decides
how much room a pattern takes.
-/

namespace Substrate.Pattern

/-! ## Rows -/

/-- The patterns that are found one behind the other. -/
def parts : Pattern → List Pattern
  | empty => []
  | seq p q => p.parts ++ q.parts
  | p => [p]

/-- One pattern behind the other. -/
def row : List Pattern → Pattern
  | [] => empty
  | [p] => p
  | p :: rest => seq p (row rest)

/-- One pattern behind the other, in simple form. -/
def inRow (ps : List Pattern) : Pattern := row (ps.flatMap parts)

/-! ## Characters -/

/-- A character of the set. -/
def ofSet (s : CharSet) : Pattern := one s.normal

/-- The character, if the pattern is for that one only. -/
def char? : Pattern → Option Char
  | one (.range first last) => if first = last then some first else none
  | _ => none

/-- The set, if the pattern is for one character of several, or of none. -/
def set? (p : Pattern) : Option CharSet :=
  match p.char?, p with
  | none, one s => some s
  | _, _ => none

/-- The characters, if the pattern is for them in a row. -/
def word? (p : Pattern) : Option (List Char) :=
  if p.parts.isEmpty then none else p.parts.mapM char?

/-! ## Lengths -/

/-- The length of the shortest texts that the pattern takes up. There is none if one of its sets is
empty. -/
def shortest? : Pattern → Option Nat
  | empty => some 0
  | one s => if s.runs.isEmpty then none else some 1
  | look _ => some 0
  | seq p q => do return (← p.shortest?) + (← q.shortest?)
  | alt p q => do return min (← p.shortest?) (← q.shortest?)
  | times p least _ => do return least * (← p.shortest?)
  | group _ p => p.shortest?

/-- The length of the longest texts that the pattern takes up. There is none if one of its sets is
empty, or if it goes on without an end. -/
def longest? : Pattern → Option Nat
  | empty => some 0
  | one s => if s.runs.isEmpty then none else some 1
  | look _ => some 0
  | seq p q => do return (← p.longest?) + (← q.longest?)
  | alt p q => do return max (← p.longest?) (← q.longest?)
  | times p _ most => do return (← most) * (← p.longest?)
  | group _ p => p.longest?

/-- Does the pattern take up no text? -/
def isStill (p : Pattern) : Bool := p.longest? == some 0

/-! ## Repetitions -/

/-- `p` at least `least` times, in simple form. What takes up no text is as good once as often. -/
def repeated (p : Pattern) (least : Nat) (most : Option Nat) : Pattern :=
  let least := if p.isStill then min least 1 else least
  let most := if p.isStill then some (min (most.getD 1) 1) else most
  if most = some 0 then empty
  else if least = 1 ∧ most = some 1 then p
  else times p least most

/-! ## Choices -/

/-- The patterns of which one is found. -/
def choices : Pattern → List Pattern
  | alt p q => p.choices ++ q.choices
  | p => [p]

/-- One of the patterns. -/
def oneOf : List Pattern → Pattern
  | [] => one .none
  | [p] => p
  | p :: rest => alt p (oneOf rest)

/-- Choices between characters, or between sets, as one set. -/
def merged? (choices : List Pattern) : Option Pattern :=
  match choices.mapM char? with
  | some cs => some (ofSet (.ofRanges (cs.map fun c => (c, c))))
  | none => (choices.mapM set?).map fun sets => ofSet (sets.foldr .union .none)

/-- One of the patterns, with choices of choices as one choice. -/
def flatChoice (ps : List Pattern) : Pattern :=
  let choices := ps.flatMap choices
  (merged? choices).getD (oneOf choices)

/-- The parts of a pattern, with characters in a row as one part. -/
def wordParts (p : Pattern) : List (List Pattern) :=
  p.parts.splitBy fun q r => q.char?.isSome && r.char?.isSome

/-- What two lists start with. -/
def commonFront {α : Type} [DecidableEq α] : List α → List α → List α
  | a :: as, b :: bs => if a = b then a :: commonFront as bs else []
  | _, _ => []

/-- The parts that all choices start with, if each of them has more parts than one. -/
def sharedFront (choices : List (List (List Pattern))) : List (List Pattern) :=
  match choices with
  | [] => []
  | first :: rest => if choices.all (1 < ·.length) then rest.foldl commonFront first else []

/-- One of the patterns, in simple form. -/
def choice (ps : List Pattern) : Pattern :=
  let choices := ps.flatMap choices
  let rows := choices.map wordParts
  let front := sharedFront rows
  if front.isEmpty then flatChoice choices
  else inRow (front.flatten ++
    [flatChoice (rows.map fun parts => inRow (parts.drop front.length).flatten)])

/-! ## Matches -/

theorem ends_row (text : Array Char) (ps : List Pattern) (places : List Nat) :
    (row ps).ends text places = ps.foldl (fun places p => p.ends text places) places := by
  induction ps generalizing places with
  | nil => rfl
  | cons p rest ih =>
    cases rest with
    | nil => rfl
    | cons q rest => simp only [row, ends_seq, ih, List.foldl_cons]

theorem mem_ends_oneOf {text : Array Char} {ps : List Pattern} {places : List Nat}
    {i : Nat} : i ∈ (oneOf ps).ends text places ↔ ∃ p ∈ ps, i ∈ p.ends text places := by
  induction ps with
  | nil => simp [oneOf, ends, CharSet.mem]
  | cons p rest ih =>
    cases rest with
    | nil => simp [oneOf]
    | cons q rest => simp only [oneOf, mem_ends_alt, ih, List.mem_cons, exists_eq_or_imp]

end Substrate.Pattern
