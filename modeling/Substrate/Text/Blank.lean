/-!
# Substrate.Text.Blank

White space, and texts without it at their ends.
-/

namespace Substrate.Text

/-- The code points of white space: five controls, the spaces, and the separators of lines and
paragraphs. -/
def blanks : List Nat :=
  [0x9, 0xa, 0xb, 0xc, 0xd, 0x20, 0x85, 0xa0, 0x1680, 0x2000, 0x2001, 0x2002, 0x2003, 0x2004,
   0x2005, 0x2006, 0x2007, 0x2008, 0x2009, 0x200a, 0x2028, 0x2029, 0x202f, 0x205f, 0x3000]

/-- Is the character white space? -/
def isBlank (c : Char) : Bool := blanks.contains c.toNat

/-- The text without the white space at its ends. -/
def trim (s : String) : String :=
  String.ofList ((s.toList.dropWhile isBlank).reverse.dropWhile isBlank).reverse

example : blanks.length = 25 := rfl

example : trim " a b\u3000" = "a b" := by decide +kernel

end Substrate.Text
