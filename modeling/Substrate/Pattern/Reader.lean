import Substrate.Pattern.Bracket
import Substrate.Pattern.Room
import Substrate.Pattern.Words
import Substrate.Text.Letter

/-!
# Substrate.Pattern.Reader

Patterns in writing: characters for themselves, `.` for any one, sets in brackets, `|` between
alternatives, `*`, `+`, `?` and counts in braces behind what is repeated, `^` and `$` for the ends,
groups in parentheses, and escapes behind a backslash. `Pattern.ofText?` reads a whole text. It
refuses what is not well formed, what needs a table of characters, what is nested too deep, and what
would take too much room.
-/

namespace Substrate

namespace Pattern

/-! ## Groups -/

/-- An open group: its number if it has one, the mode around it, and what was read around it
before. -/
structure Frame where
  number : Option Nat
  mode : Mode
  done : List (Nested Pattern)
  items : List (Option (Nested Pattern))

/-- Everything read so far. `items` is the current alternative, the latest first, where `none`
stands for a switch of modes; `done` holds the alternatives before it, the latest first. -/
structure Reader where
  mode : Mode := {}
  done : List (Nested Pattern) := []
  items : List (Option (Nested Pattern)) := []
  outer : List Frame := []
  groups : Nat := 0
  names : List String := []

namespace Reader

/-- The current alternative as one pattern. -/
def sequence (r : Reader) : Nested Pattern :=
  let items := r.items.reverse.map (·.getD ⟨.empty, 0⟩)
  ⟨.inRow (items.map (·.value)), depthOver (items.map (·.depth))⟩

/-- All alternatives of the current group as one pattern. -/
def pattern (r : Reader) : Nested Pattern :=
  match r.done with
  | [] => r.sequence
  | done =>
    let all := (r.sequence :: done).reverse
    ⟨.choice (all.map (·.value)), depthOver (all.map (·.depth))⟩

/-- Adds to the current alternative. -/
def add (r : Reader) (p : Pattern) (depth : Nat) : Reader :=
  { r with items := some ⟨p, depth⟩ :: r.items }

/-- Opens a group that is read in mode `m`. -/
def openGroup (r : Reader) (number : Option Nat) (m : Mode) : Reader :=
  let around : Frame := ⟨number, r.mode, r.done, r.items⟩
  { r with mode := m, done := [], items := [], outer := around :: r.outer }

/-- Opens a group with the next number. -/
def openNumbered (r : Reader) : Reader :=
  { r.openGroup (some (r.groups + 1)) r.mode with groups := r.groups + 1 }

/-- Closes the current group, which becomes one item of the group around it. -/
def closeGroup? (r : Reader) : Option Reader :=
  match r.outer with
  | [] => none
  | ⟨number, mode, done, items⟩ :: outer =>
    let inner := r.pattern
    let p := match number with
      | none => inner.value
      | some number => .group number inner.value
    some { r with mode, done, items := some ⟨p, inner.depth + 1⟩ :: items, outer }

/-- Repeats the latest item. There must be one, and it must not be a switch of modes. -/
def repeatLast? (r : Reader) (least : Nat) (most : Option Nat) : Option Reader :=
  match r.items with
  | some p :: items =>
    some { r with items := some ⟨.repeated p.value least most, p.depth + 1⟩ :: items }
  | _ => none

/-- Adds a character that stands for itself. -/
def addChar? (r : Reader) (c : Char) (isByte : Bool) : Option Reader :=
  if r.mode.narrow && isByte && 128 ≤ c.toNat then none
  else (r.mode.fold? (.single c)).map fun s => r.add (.ofSet s) 0

end Reader

/-- Switches in front of a colon or a closing parenthesis: the mode they make, the switches named,
and whether a colon ended them. A dash turns off what follows it. -/
def readSwitches (m : Mode) (isOn isDangling : Bool) (seen : List Switch) :
    List Char → Option (Mode × List Switch × Bool × List Char)
  | [] => none
  | ':' :: rest => if isDangling then none else some (m, seen, true, rest)
  | ')' :: rest => if isDangling then none else some (m, seen, false, rest)
  | '-' :: rest => if isOn then readSwitches m false true seen rest else none
  | c :: rest => do
    let s ← Switch.ofChar? c
    if s ∈ seen then none else readSwitches (m.turn s isOn) isOn false (s :: seen) rest

/-- May the text name a group? It starts with a letter or an underscore and goes on with these,
numerals, dots and brackets. -/
def isGroupName (name : List Char) : Bool :=
  let isStart := fun (c : Char) => c == '_' || Text.isLetter c
  name.head?.any isStart &&
    name.all fun c => isStart c || Text.isNumeral c || c == '.' || c == '[' || c == ']'

/-- What follows an opening parenthesis: a name of the group, switches, or the group itself. -/
def readGroup (r : Reader) (cs : List Char) : Option (Reader × List Char) :=
  let nameAndGroup := fun (cs : List Char) =>
    let name := cs.takeWhile (· != '>')
    let text := String.ofList name
    match cs.drop name.length with
    | [] => none
    | _ :: rest =>
      if isGroupName name && !r.names.contains text then
        some ({ r.openNumbered with names := text :: r.names }, rest)
      else none
  match r.mode.skip cs with
  | '?' :: 'P' :: '<' :: cs => nameAndGroup cs
  | '?' :: '<' :: cs => nameAndGroup cs
  | '?' :: cs =>
    match readSwitches r.mode true false [] cs with
    | none => none
    | some (m, _, true, rest) => some (r.openGroup none m, rest)
    | some (m, seen, false, rest) =>
      if seen.isEmpty then none else some ({ r with mode := m, items := none :: r.items }, rest)
  | cs => some (r.openNumbered, cs)

/-! ## Repetitions -/

/-- What follows a repetition. A question mark behind it asks for short matches, which makes no
difference to a search. -/
def skipLazy : List Char → List Char
  | '?' :: rest => rest
  | rest => rest

/-- The rest of a repetition in braces. -/
def readBraces (r : Reader) (cs : List Char) : Option (Reader × List Char) := do
  let (least, rest) ← readCount r.mode (r.mode.skip cs)
  let (most, rest) ← match r.mode.skip rest with
    | ',' :: rest =>
      match r.mode.skip rest with
      | '\x7d' :: rest => some (none, rest)
      | rest => do
        let (most, rest) ← readCount r.mode rest
        match r.mode.skip rest with
        | '\x7d' :: rest => if most < least then none else some (some most, rest)
        | _ => none
    | '\x7d' :: rest => some (some least, rest)
    | _ => none
  return (← r.repeatLast? least most, skipLazy (r.mode.skip rest))

/-! ## Patterns -/

/-- Reads on from one character. -/
def readFrom (r : Reader) (c : Char) (rest : List Char) : Option (Reader × List Char) :=
  let here := fun (p : Pattern) => some (r.add p 0, rest)
  let repeated := fun least most => (r.repeatLast? least most).map fun r => (r, skipLazy rest)
  let line := r.mode.multiLine
  match c with
  | '(' => readGroup r rest
  | ')' => r.closeGroup?.map fun r => (r, rest)
  | '|' => some ({ r with done := r.sequence :: r.done, items := [] }, rest)
  | '[' => do
    let (s, rest) ← readBracket r.mode rest
    return (r.add (.ofSet s.value) s.depth, rest)
  | '?' => repeated 0 (some 1)
  | '*' => repeated 0 none
  | '+' => repeated 1 none
  | '\x7b' => readBraces r rest
  | '\\' => do
    match ← readEscape r.mode rest with
    | (.char c isByte, rest) => (r.addChar? c isByte).map fun r => (r, rest)
    | (.set s, rest) => some (r.add (.ofSet s) 0, rest)
    | (.look l, rest) => some (r.add (.look l) 0, rest)
  | '.' => r.mode.dot?.bind fun s => here (.ofSet s)
  | '^' => here (.look (if line then .lineStart r.mode.crlf else .textStart))
  | '$' => here (.look (if line then .lineEnd r.mode.crlf else .textEnd))
  | c => (r.addChar? c false).map fun r => (r, rest)

/-- Reads to the end, in at most as many steps as there are characters and one more. -/
def readAll : Nat → Reader → List Char → Option (Nested Pattern)
  | 0, _, _ => none
  | steps + 1, r, cs =>
    match r.mode.skip cs with
    | [] => if r.outer.isEmpty then some r.pattern else none
    | c :: rest => do
      let (r, rest) ← readFrom r c rest
      readAll steps r rest

/-- The greatest depth of a pattern that is still accepted. -/
def depthLimit : Nat := 250

/-- The pattern in a text, if the text is well formed and the pattern within all limits. -/
def ofText? (text : String) : Option Pattern := do
  let p ← readAll (text.length + 1) {} text.toList
  let isSmall := p.value.fits || p.value.isForWords
  if p.depth ≤ depthLimit && p.value.isTold && isSmall then some p.value else none

/-! ## Read, then search -/

example : (ofText? "^[0-9]{2} s.o(t|x)s").map (·.isFoundIn "32 slots pooled") = some true := by
  decide +kernel

example : (ofText? "slots$").map (·.isFoundIn "32 slots pooled") = some false := by decide +kernel

example : (ofText? "(?i-u)\\bPOOLED\\b").map (·.isFoundIn "32 slots pooled") = some true := by
  decide +kernel

/-- Digits need a table of characters, and so does disregard of case. -/
example : ofText? "\\d" = none ∧ ofText? "(?i)slots" = none := by decide +kernel

/-- So does a boundary of words, unless it is asked for no time at all. -/
example : ofText? "\\b" = none ∧ ofText? "\\b\x7b0\x7dots" = ofText? "ots" := by decide +kernel

example : ofText? "(" = none ∧ ofText? "*" = none ∧ ofText? "a\x7b2" = none := by decide +kernel

/-- Nothing stands for a pattern that would not fit. -/
example : ofText? "a{1000}{1000}" = none := by decide +kernel

/-- What takes up no text is not repeated. -/
example : ofText? "(?:^){400000}after" = ofText? "^after" := by decide +kernel

end Pattern

end Substrate
