import Substrate.Pattern.Escape

/-!
# Substrate.Pattern.Bracket

Sets of characters in brackets: characters, ranges, named sets, escapes and brackets side by side
stand for their union, `&&`, `--` and `~~` combine what stands left and right of them, and a caret
at the start stands for the complement.
-/

namespace Substrate.Pattern

/-! ## Depth -/

/-- What was read, and how deep it is nested. -/
structure Nested (α : Type) where
  value : α
  depth : Nat := 0
  deriving Repr, DecidableEq

/-- The depth of a whole whose parts are nested so deep. A single part is the whole itself. -/
def depthOver : List Nat → Nat
  | [] => 0
  | [depth] => depth
  | depths => depths.foldl max 0 + 1

/-! ## Brackets -/

/-- How sets are combined inside brackets, the leftmost first. -/
inductive SetOp where
  | inter
  | diff
  | symmDiff
  deriving Repr, DecidableEq

/-- The combined set. -/
def SetOp.apply : SetOp → CharSet → CharSet → CharSet
  | inter => .inter
  | diff => .diff
  | symmDiff => .symmDiff

/-- An open bracket: what stands left of the last operator, and what was read since, the latest
first. -/
structure Bracket where
  isComplement : Bool
  left : Option (SetOp × Nested CharSet) := none
  here : List (Nested CharSet) := []
  deriving Repr, DecidableEq

namespace Bracket

/-- Adds to what was read. -/
def add (b : Bracket) (s : Nested CharSet) : Bracket := { b with here := s :: b.here }

/-- The set so far. -/
def value (b : Bracket) : Nested CharSet :=
  let here := b.here.foldl (fun all s => .union s.value all) CharSet.none
  let depth := depthOver (b.here.map (·.depth))
  match b.left with
  | none => ⟨here, depth⟩
  | some (op, s) => ⟨op.apply s.value here, max s.depth depth + 1⟩

/-- Goes on behind an operator. -/
def combine (b : Bracket) (op : SetOp) : Bracket :=
  { b with left := some (op, b.value), here := [] }

/-- The set of the closed bracket. -/
def close? (m : Mode) (b : Bracket) : Option (Nested CharSet) := do
  let s := b.value
  return ⟨← if b.isComplement then m.complement? s.value else some s.value, s.depth + 1⟩

end Bracket

/-! ## Inside -/

/-- A character or an escape inside brackets. Conditions on places do not stand there. -/
def readItem (m : Mode) : List Char → Option (Atom × List Char)
  | [] => none
  | '\\' :: cs =>
    match readEscape m cs with
    | some (.look _, _) => none
    | item => item
  | c :: cs => some (.char c false, cs)

/-- An item, or a range between two characters. A dash makes no range if it seems to stand in front
of the closing bracket or of another dash. -/
def readRange (m : Mode) (cs : List Char) : Option (CharSet × List Char) := do
  let (item, rest) ← readItem m cs
  let alone : Option (CharSet × List Char) :=
    match item with
    | .char c _ => (m.range? c c).map fun s => (s, rest)
    | .set s => some (s, rest)
    | .look _ => none
  match m.skip rest with
  | '-' :: behind =>
    if m.glance behind = some ']' || m.glance behind = some '-' then alone
    else match item, ← readItem m (m.skip behind) with
      | .char first _, (.char last _, rest) => (m.range? first last).map fun s => (s, rest)
      | _, _ => none
  | _ => alone

/-- A named set behind an opening bracket: `:name:]`, or `:^name:]` for its complement. -/
def readNamed : List Char → Option (Bool × CharSet × List Char)
  | ':' :: cs =>
    let isComplement := cs.head? == some '^'
    let cs := if isComplement then cs.tail else cs
    let name := cs.takeWhile (· != ':')
    match cs.drop name.length with
    | ':' :: ']' :: rest => do return (isComplement, ← CharSet.named? (String.ofList name), rest)
    | _ => none
  | _ => none

/-- What follows an opening bracket: a caret for the complement, dashes that stand for themselves,
or a closing bracket that stands for itself. -/
def openBracket (m : Mode) (cs : List Char) : Option (Bracket × List Char) := do
  let cs := m.skip cs
  let isComplement := cs.head? == some '^'
  let cs := if isComplement then m.skip cs.tail else cs
  match m.collectAll (· == '-') cs with
  | ([], ']' :: rest) => return ({ isComplement, here := [⟨← m.range? ']' ']', 0⟩] }, rest)
  | (dashes, rest) =>
    return ({ isComplement, here := ← dashes.mapM fun c => do return ⟨← m.range? c c, 0⟩ }, rest)

/-- The rest of a set in brackets, read in at most as many steps as there are characters. -/
def readSet (m : Mode) :
    Nat → Bracket → List Bracket → List Char → Option (Nested CharSet × List Char)
  | 0, _, _, _ => none
  | steps + 1, b, outer, cs =>
    match m.skip cs with
    | [] => none
    | '[' :: rest =>
      match readNamed rest with
      | some (isComplement, s, rest) => do
        let s ← m.fold? s
        let s ← if isComplement then m.complement? s else some s
        readSet m steps (b.add ⟨s, 0⟩) outer rest
      | none => do
        let (inner, rest) ← openBracket m rest
        readSet m steps inner (b :: outer) rest
    | ']' :: rest => do
      let s ← b.close? m
      match outer with
      | [] => some (s, rest)
      | b :: outer => readSet m steps (b.add s) outer rest
    | '&' :: '&' :: rest => readSet m steps (b.combine .inter) outer rest
    | '-' :: '-' :: rest => readSet m steps (b.combine .diff) outer rest
    | '~' :: '~' :: rest => readSet m steps (b.combine .symmDiff) outer rest
    | cs => do
      let (s, rest) ← readRange m cs
      readSet m steps (b.add ⟨s, 0⟩) outer rest

/-- A set in brackets, of which the opening bracket has been read. -/
def readBracket (m : Mode) (cs : List Char) : Option (Nested CharSet × List Char) := do
  let (b, rest) ← openBracket m cs
  readSet m (cs.length + 1) b [] rest

/-! ## Read, then asked -/

example : (readBracket {} "a-c&&[^b]]".toList).map (fun (s, _) => s.value.normal) =
    some (.union (.single 'a') (.single 'c')) := by decide +kernel

/-- Dashes at the start stand for themselves, with white space between them or not. -/
example : (readBracket { spaced := true } "- - -z]".toList).map (fun (s, _) => s.value.normal) =
    some (.union (.single '-') (.single 'z')) := by decide +kernel

/-- Case can be disregarded without a table where there is no character to fold. -/
example : (readBracket { caseless := true } "&&]".toList).isSome = true ∧
    readBracket { caseless := true } "a]".toList = none := by decide +kernel

end Substrate.Pattern
