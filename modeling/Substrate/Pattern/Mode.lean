import Substrate.Pattern.CharSet
import Substrate.Text.Blank

/-!
# Substrate.Pattern.Mode

The modes in which patterns are read.

A reader knows no tables of characters. So what needs one (the escapes for digits, spaces and word
characters, boundaries of words, and disregard of case) is there in *narrow* mode only, which
`(?-u)` switches on and which takes the first 128 code points for all there are. In turn, that mode
refuses what could match a part of another character: the dot and complements.
-/

namespace Substrate.Pattern

/-- What can be switched inside a pattern. -/
inductive Switch where
  | caseless
  | multiLine
  | dotAll
  | crlf
  /-- Prefers short matches to long ones, or the other way round; no search tells the difference. -/
  | swapGreed
  | wide
  | spaced
  deriving Repr, DecidableEq

/-- The switch of a letter. -/
def Switch.ofChar? : Char → Option Switch
  | 'i' => some caseless
  | 'm' => some multiLine
  | 's' => some dotAll
  | 'R' => some crlf
  | 'U' => some swapGreed
  | 'u' => some wide
  | 'x' => some spaced
  | _ => none

/-- How a pattern is read from some point on. -/
structure Mode where
  /-- Letters stand for both of their cases. -/
  caseless : Bool := false
  /-- `^` and `$` stand for the ends of lines. -/
  multiLine : Bool := false
  /-- The dot stands for line breaks too. -/
  dotAll : Bool := false
  /-- A carriage return breaks a line too. -/
  crlf : Bool := false
  /-- Characters are those of the first 128 code points. -/
  narrow : Bool := false
  /-- White space and what follows a `#` on a line are skipped. -/
  spaced : Bool := false
  deriving Repr, DecidableEq

namespace Mode

/-- The mode with a switch turned on or off. -/
def turn (m : Mode) (s : Switch) (on : Bool) : Mode :=
  match s with
  | .caseless => { m with caseless := on }
  | .multiLine => { m with multiLine := on }
  | .dotAll => { m with dotAll := on }
  | .crlf => { m with crlf := on }
  | .swapGreed => m
  | .wide => { m with narrow := !on }
  | .spaced => { m with spaced := on }

/-! ## White space and remarks -/

/-- What follows white space and remarks. -/
def skipSpaced (inRemark : Bool) : List Char → List Char
  | [] => []
  | c :: rest =>
    if inRemark then skipSpaced (c != '\n') rest
    else if c = '#' then skipSpaced true rest
    else if Text.isBlank c then skipSpaced false rest
    else c :: rest

/-- What is read next. -/
def skip (m : Mode) (cs : List Char) : List Char := if m.spaced then skipSpaced false cs else cs

/-- The characters in front that satisfy `p`, at most `most` of them, and what follows. What the
mode skips is skipped between them too; `p` holds of none of it. -/
def collect (m : Mode) (p : Char → Bool) :
    Nat → (inRemark : Bool) → List Char → List Char × List Char
  | _, _, [] => ([], [])
  | most, true, c :: rest => collect m p most (c != '\n') rest
  | most, false, c :: rest =>
    if 0 < most && p c then
      let (taken, rest) := collect m p (most - 1) false rest
      (c :: taken, rest)
    else if m.spaced && c == '#' then collect m p most true rest
    else if m.spaced && Text.isBlank c then collect m p most false rest
    else ([], c :: rest)

/-- The characters in front that satisfy `p`, and what follows. -/
def collectAll (m : Mode) (p : Char → Bool) (cs : List Char) : List Char × List Char :=
  collect m p cs.length false cs

/-- What a look ahead takes for the next character: it passes over white space and over the sign in
front of a remark, but not over the remark. -/
def glance (m : Mode) (cs : List Char) : Option Char :=
  if !m.spaced then cs.head?
  else match cs.dropWhile Text.isBlank with
    | '#' :: rest => (rest.dropWhile Text.isBlank).head?
    | cs => cs.head?

/-! ## Sets -/

/-- Is case disregarded among more characters than have a known case? -/
def foldsWide (m : Mode) : Bool := m.caseless && !m.narrow

/-- The set as it is meant: with both cases of its letters, if case is disregarded. -/
def fold? (m : Mode) (s : CharSet) : Option CharSet :=
  if m.foldsWide then none else some (if m.caseless then .caseless s else s)

/-- The characters from one to another. -/
def range? (m : Mode) (first last : Char) : Option CharSet :=
  if last < first || (m.narrow && 128 ≤ last.toNat) then none else m.fold? (.range first last)

/-- The complement. In narrow mode it would hold parts of characters. -/
def complement? (m : Mode) (s : CharSet) : Option CharSet :=
  if m.narrow then none else some (.compl s)

/-- The set that a dot stands for. -/
def dot? (m : Mode) : Option CharSet :=
  if m.narrow then none
  else if m.dotAll then some .all
  else if m.crlf then some (.compl (.union (.single '\n') (.single '\r')))
  else some (.compl (.single '\n'))

end Mode

end Substrate.Pattern
