import Substrate.Pattern.Basic
import Substrate.Pattern.Mode

/-!
# Substrate.Pattern.Escape

Numbers in patterns, and escapes: characters by their numbers or by a letter, sets and conditions by
a letter, and characters that would mean something without the backslash.
-/

namespace Substrate.Pattern

/-! ## Numbers -/

/-- A decimal number in front, with white space around it. It has at least one digit and fits into
32 bits. -/
def readCount (m : Mode) (cs : List Char) : Option (Nat × List Char) :=
  let (digits, rest) := m.collectAll Char.isDigit (cs.dropWhile Text.isBlank)
  let value := digits.foldl (fun n c => n * 10 + (c.toNat - 48)) 0
  if digits.isEmpty || 4294967296 ≤ value then none
  else some (value, rest.dropWhile Text.isBlank)

/-- The value of a hexadecimal digit. -/
def hexValue? (c : Char) : Option Nat :=
  if c.isDigit then some (c.toNat - 48)
  else if 'a' ≤ c && c ≤ 'f' then some (c.toNat - 87)
  else if 'A' ≤ c && c ≤ 'F' then some (c.toNat - 55)
  else none

/-- Is the character a hexadecimal digit? -/
def isHexDigit (c : Char) : Bool := (hexValue? c).isSome

/-- The character of a number in hexadecimal digits. -/
def charOfHex? (digits : List Char) : Option Char := do
  let values ← digits.mapM hexValue?
  let value := values.foldl (fun n d => n * 16 + d) 0
  if digits.isEmpty || !decide value.isValidChar then none else some (Char.ofNat value)

/-- A character by its number: in braces, or of exactly `length` digits. -/
structure HexChar where
  char : Char
  inBraces : Bool
  deriving Repr, DecidableEq

/-- Reads a character by its number. -/
def readHex (m : Mode) (length : Nat) (cs : List Char) : Option (HexChar × List Char) :=
  match m.skip cs with
  | '\x7b' :: cs =>
    let (digits, rest) := m.collectAll isHexDigit cs
    match rest with
    | '\x7d' :: rest => (charOfHex? digits).map fun c => (⟨c, true⟩, rest)
    | _ => none
  | cs =>
    let (digits, rest) := m.collect isHexDigit length false cs
    if digits.length < length then none
    else (charOfHex? digits).map fun c => (⟨c, false⟩, rest)

/-! ## Escapes -/

/-- What an escape stands for. -/
inductive Atom where
  /-- A character; `isByte` tells that it was written as two hexadecimal digits. -/
  | char (c : Char) (isByte : Bool)
  | set (s : CharSet)
  | look (l : Look)
  deriving Repr, DecidableEq

/-- A boundary of words: of all scripts, unless the mode is narrow. -/
def wordLook (m : Mode) (l : Look) : Look := if m.narrow then l else .wide

/-- The kind of boundary that goes by a name. -/
def boundary? : String → Option Look
  | "start" => some .wordStart
  | "end" => some .wordEnd
  | "start-half" => some .wordStartHalf
  | "end-half" => some .wordEndHalf
  | _ => none

/-- The rest of an escape for a boundary of words: a kind of boundary in braces, or nothing. Braces
that start with neither a letter nor a dash are a count. -/
def readBoundary (m : Mode) (cs : List Char) : Option (Look × List Char) :=
  match cs with
  | '\x7b' :: inner =>
    match m.skip inner, m.collectAll (fun c => c.isAlpha || c == '-') inner with
    | [], _ => none
    | _, ([], _) => some (.wordBoundary, cs)
    | _, (name, '\x7d' :: rest) => (boundary? (String.ofList name)).map fun l => (l, rest)
    | _, _ => none
  | _ => some (.wordBoundary, cs)

/-- What follows a backslash. Letters and digits without a meaning are refused, and so are sets that
need a table of characters, unless the mode is narrow. -/
def readEscape (m : Mode) : List Char → Option (Atom × List Char)
  | [] => none
  | c :: rest =>
    let plain := fun (c : Char) => some (Atom.char c false, rest)
    let set := fun (s : CharSet) => if m.narrow then some (Atom.set s, rest) else none
    let look := fun (l : Look) => some (Atom.look l, rest)
    match c with
    | 'x' => (readHex m 2 rest).map fun (h, rest) => (.char h.char !h.inBraces, rest)
    | 'u' => (readHex m 4 rest).map fun (h, rest) => (.char h.char false, rest)
    | 'U' => (readHex m 8 rest).map fun (h, rest) => (.char h.char false, rest)
    | 'a' => plain '\x07'
    | 'f' => plain '\x0c'
    | 't' => plain '\t'
    | 'n' => plain '\n'
    | 'r' => plain '\r'
    | 'v' => plain '\x0b'
    | 'A' => look .textStart
    | 'z' => look .textEnd
    | 'd' => set .digit
    | 's' => set .space
    | 'w' => set .word
    | 'b' => (readBoundary m rest).map fun (l, rest) => (.look (wordLook m l), rest)
    | 'B' => look (wordLook m .noWordBoundary)
    | '<' => look (wordLook m .wordStart)
    | '>' => look (wordLook m .wordEnd)
    | c => if c.isAlphanum || 128 ≤ c.toNat then none else plain c

/-! ## With and without white space -/

example : readHex { spaced := true } 2 " 7#seven\n3l".toList = some (⟨'s', false⟩, ['l']) := by
  decide +kernel

example : readHex {} 2 " 73".toList = none := by decide +kernel

example : readCount { spaced := true } "1 0 , 2".toList = some (10, [',', ' ', '2']) := by
  decide +kernel

end Substrate.Pattern
