import Substrate.Text.Unprintable

/-!
# Substrate.Text.Quoted

A text in double quotes, with everything that a reader could not see or could misread escaped:

* a quote and a backslash get a backslash in front;
* newline, carriage return, tab and the zero character have a letter of their own;
* every other unprintable character is shown by number, in lower-case hexadecimal without leading
  zeros;
* all else stands for itself, a single quote included.
-/

namespace Substrate.Text

/-- The hexadecimal digit of a number below sixteen, in lower case. -/
def hexDigit (n : Nat) : Char :=
  if n < 10 then Char.ofNat (48 + n) else Char.ofNat (87 + n)

/-- A number in hexadecimal, without leading zeros, in front of `rest`. -/
def hexOnto (n : Nat) (rest : List Char) : List Char :=
  if n < 16 then hexDigit n :: rest
  else hexOnto (n / 16) (hexDigit (n % 16) :: rest)
termination_by n

/-- The written form of one character inside quotes. -/
def escape (c : Char) : List Char :=
  if c = '\x22' then ['\\', '\x22']
  else if c = '\\' then ['\\', '\\']
  else if c = '\n' then ['\\', 'n']
  else if c = '\r' then ['\\', 'r']
  else if c = '\t' then ['\\', 't']
  else if c = '\x00' then ['\\', '0']
  else if isUnprintable c then '\\' :: 'u' :: '\x7b' :: hexOnto c.toNat ['\x7d']
  else [c]

/-- A text in double quotes. -/
def quote (s : String) : String :=
  String.ofList ('\x22' :: s.toList.flatMap escape ++ ['\x22'])

example : hexOnto 0x200d [] = ['2', '0', '0', 'd'] := by decide +kernel

example : escape '\x7f' = ['\\', 'u', '\x7b', '7', 'f', '\x7d'] := by decide +kernel

end Substrate.Text
