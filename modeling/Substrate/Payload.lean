import Substrate.Text.Quoted
import Substrate.Text.Rendering

/-!
# Substrate.Payload

The payloads that scripts put into stacks and trees: whole numbers and texts. They are ordered,
numbers first and ascending, then texts by code point, so that a bag of payloads has one listing.
-/

namespace Substrate

/-- A number or a text. -/
inductive Payload where
  | number (n : Int)
  | text (s : String)
  deriving Repr, DecidableEq, Inhabited

namespace Payload

/-- Numbers come before texts; each kind keeps its own order. -/
def le : Payload → Payload → Bool
  | number m, number n => m ≤ n
  | number _, text _ => true
  | text _, number _ => false
  | text s, text t => s ≤ t

/-- A bag of payloads in ascending order. -/
def sorted (ps : List Payload) : List Payload := ps.mergeSort le

/-- A number is shown by its decimal digits, a text in quotes. -/
def rendering : Payload → Text.Rendering
  | number n => .atom (toString n)
  | text s => .atom (Text.quote s)

/-- The payload `k` places after a number. A text stays as it is. -/
def plus (k : Nat) : Payload → Payload
  | number n => number (n + k)
  | text s => text s

/-- The payloads `p`, `p + 1`, …, `p + (n - 1)`. -/
def run (p : Payload) (n : Nat) : List Payload := (List.range n).map p.plus

/-- The number in a payload; a text counts as zero. -/
def toInt : Payload → Int
  | number n => n
  | text _ => 0

end Payload

end Substrate
