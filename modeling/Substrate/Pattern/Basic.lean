import Substrate.Pattern.CharSet

/-!
# Substrate.Pattern.Basic

Patterns that are searched for in a text. A place is a gap between two characters of the text,
counted from its start. A pattern leads from places to places: `Pattern.ends` lists, for given
places, where a match that starts at one of them can end. A list of places holds each place once,
so no pattern needs more steps than the text has places, however often it repeats.
-/

namespace Substrate

/-- A condition on a place. -/
inductive Look where
  | textStart
  | textEnd
  /-- Behind a line break. With `crlf`, a carriage return breaks a line too. -/
  | lineStart (crlf : Bool)
  | lineEnd (crlf : Bool)
  | wordBoundary
  | noWordBoundary
  | wordStart
  | wordEnd
  /-- Not behind a word character. -/
  | wordStartHalf
  /-- Not in front of a word character. -/
  | wordEndHalf
  /-- A boundary of words of all scripts. It cannot be told without a table of characters. -/
  | wide
  deriving Repr, DecidableEq

namespace Look

/-- The character in front of a place. -/
def before (text : Array Char) : Nat → Option Char
  | 0 => none
  | i + 1 => text[i]?

/-- Is there a word character? -/
def isWord (c : Option Char) : Bool := c.any CharSet.word.mem

/-- Does the condition hold at place `i`? What cannot be told does not. -/
def holds (text : Array Char) (i : Nat) (l : Look) : Bool :=
  let left := before text i
  let right := text[i]?
  match l with
  | textStart => left == none
  | textEnd => right == none
  | lineStart crlf =>
    left == none || left == some '\n' || (crlf && left == some '\r' && right != some '\n')
  | lineEnd false => right == none || right == some '\n'
  | lineEnd true =>
    right == none || right == some '\r' || (right == some '\n' && left != some '\r')
  | wordBoundary => isWord left != isWord right
  | noWordBoundary => isWord left == isWord right
  | wordStart => !isWord left && isWord right
  | wordEnd => isWord left && !isWord right
  | wordStartHalf => !isWord left
  | wordEndHalf => !isWord right
  | wide => false

end Look

/-- What is searched for. -/
inductive Pattern where
  /-- Nothing, which is found everywhere. -/
  | empty
  /-- One character of a set. -/
  | one (s : CharSet)
  | look (l : Look)
  /-- First `p`, then `q`. -/
  | seq (p q : Pattern)
  /-- Either `p` or `q`. -/
  | alt (p q : Pattern)
  /-- `p` at least `least` times in a row, and at most `most` times if a number is given. -/
  | times (p : Pattern) (least : Nat) (most : Option Nat)
  /-- `p`, whose match can be asked for by number. -/
  | group (number : Nat) (p : Pattern)
  deriving Repr, DecidableEq

namespace Pattern

/-- The places of two lists, each once if each list holds each once. -/
def join (a b : List Nat) : List Nat := a ++ b.filter fun i => !a.contains i

/-- The places after `n` steps. Once a step stands still, so does every later one. -/
def again (step : List Nat → List Nat) : Nat → List Nat → List Nat
  | 0, places => places
  | n + 1, places =>
    let next := step places
    if next = places then places else again step n next

/-- The places after at most `n` steps. -/
def upTo (step : List Nat → List Nat) : Nat → List Nat → List Nat
  | 0, places => places
  | n + 1, places =>
    let more := join places (step places)
    if more.length = places.length then places else upTo step n more

/-- The places after at most `n` steps, and those after one more step from there. -/
def upToAndOn (step : List Nat → List Nat) : Nat → List Nat → List Nat × List Nat
  | 0, places => (places, step places)
  | n + 1, places =>
    let next := step places
    let more := join places next
    if more.length = places.length then (places, next) else upToAndOn step n more

/-- The places where a match can end that starts at one of the given places.

In a text of `n` characters, `n + 1` steps in a row stand still at least once. A step that stands
still can be left out or done twice, so from there on one number of steps is as good as the next. A
repetition without an end takes the steps that it may take before those that it must: where nothing
new is found, repetitions inside one another then take no more steps than one of them. -/
def ends (text : Array Char) : Pattern → List Nat → List Nat
  | empty, places => places
  | one s, places => (places.filter fun i => text[i]?.any s.mem).map (· + 1)
  | look l, places => places.filter fun i => l.holds text i
  | seq p q, places => q.ends text (p.ends text places)
  | alt p q, places => join (p.ends text places) (q.ends text places)
  | times p least most, places =>
    let enough := text.size + 1
    if places.isEmpty then []
    else match least, most with
      | 0, none => upTo (p.ends text) enough places
      | n + 1, none =>
        again (p.ends text) (min n enough) (upToAndOn (p.ends text) enough places).2
      | least, some most =>
        upTo (p.ends text) (min (most - least) enough)
          (again (p.ends text) (min least enough) places)
  | group _ p, places => p.ends text places

/-- Can all conditions of the pattern be told? -/
def isTold : Pattern → Bool
  | empty => true
  | one _ => true
  | look l => l != .wide
  | seq p q => p.isTold && q.isTold
  | alt p q => p.isTold && q.isTold
  | times p _ _ => p.isTold
  | group _ p => p.isTold

/-- Is there a match anywhere in the text? -/
def isFoundIn (p : Pattern) (text : String) : Bool :=
  let chars := text.toList.toArray
  !(p.ends chars (List.range (chars.size + 1))).isEmpty

/-! ## Matches -/

@[simp] theorem ends_empty (text : Array Char) (places : List Nat) :
    empty.ends text places = places := rfl

@[simp] theorem ends_seq (text : Array Char) (p q : Pattern) (places : List Nat) :
    (seq p q).ends text places = q.ends text (p.ends text places) := rfl

theorem mem_join {a b : List Nat} {i : Nat} : i ∈ join a b ↔ i ∈ a ∨ i ∈ b := by
  by_cases h : i ∈ a <;> simp [join, h]

theorem mem_ends_alt {text : Array Char} {p q : Pattern} {places : List Nat} {i : Nat} :
    i ∈ (alt p q).ends text places ↔ i ∈ p.ends text places ∨ i ∈ q.ends text places := mem_join

/-- Nothing is found everywhere. -/
theorem isFoundIn_empty (text : String) : empty.isFoundIn text = true := by
  simp [isFoundIn]

end Pattern

end Substrate
