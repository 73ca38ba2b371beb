/-!
# Substrate.Expr.Term

Terms of arithmetic expressions: numbers and three operators. Results are computed exactly and have
to be signed integers of 64 bits: an operator whose exact result leaves that range overflows.
-/

namespace Substrate

/-- Addition, subtraction and multiplication. -/
inductive Operator where
  | add
  | sub
  | mul
  deriving Repr, DecidableEq

/-- A number, or an operator that combines the values of its two operands. -/
inductive Term where
  | number (n : Int)
  | operator (op : Operator)
  deriving Repr, DecidableEq

/-- An operator's exact result lies outside the 64-bit range. -/
structure ArithmeticOverflow where
  operator : Operator
  deriving Repr, DecidableEq

/-- The smallest signed integer of 64 bits. -/
def leastWord : Int := -9223372036854775808

/-- The largest signed integer of 64 bits. -/
def greatestWord : Int := 9223372036854775807

/-- The number is a signed integer of 64 bits. -/
def FitsWord (n : Int) : Prop := leastWord ≤ n ∧ n ≤ greatestWord

instance (n : Int) : Decidable (FitsWord n) := inferInstanceAs (Decidable (_ ∧ _))

namespace Operator

/-- The exact result. -/
def exact : Operator → Int → Int → Int
  | add, l, r => l + r
  | sub, l, r => l - r
  | mul, l, r => l * r

/-- The result, if it is in range. -/
def apply (op : Operator) (l r : Int) : Except ArithmeticOverflow Int :=
  if FitsWord (op.exact l r) then .ok (op.exact l r) else .error ⟨op⟩

/-- The verb for what the operator does. -/
def verb : Operator → String
  | add => "add"
  | sub => "subtract"
  | mul => "multiply"

end Operator

/-- The text for a reader. -/
def ArithmeticOverflow.message (e : ArithmeticOverflow) : String :=
  s!"attempt to {e.operator.verb} with overflow"

end Substrate
