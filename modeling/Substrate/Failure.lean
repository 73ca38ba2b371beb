import Substrate.Collector.Basic
import Substrate.Expr.Term
import Substrate.Stack.Error
import Substrate.Tree.Error

/-!
# Substrate.Failure

All the ways in which work on expressions can fail, as one type.
-/

namespace Substrate

/-- A refusal by one of the four kinds of storage, or an operator that overflowed. -/
inductive Failure where
  | stack (e : StackError)
  | tree (e : TreeError)
  | allocation (e : AllocationError)
  | collector (e : CollectorError)
  | arithmetic (e : ArithmeticOverflow)
  deriving Repr, DecidableEq

/-- The text for a reader. -/
def Failure.message : Failure → String
  | stack e => e.message
  | tree e => e.message
  | allocation e => e.message
  | collector e => e.message
  | arithmetic e => e.message

/-- The cause with its data. An overflow has no data but its text. -/
def Failure.rendering : Failure → Text.Rendering
  | stack e => e.rendering
  | tree e => e.rendering
  | allocation e => e.rendering
  | collector e => e.rendering
  | arithmetic e => .atom e.message

end Substrate
