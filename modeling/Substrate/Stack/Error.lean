import Substrate.Text.Rendering

/-!
# Substrate.Stack.Error

Why a stack refuses an operation.
-/

namespace Substrate

/-- A push found no room, or a read found no element. -/
inductive StackError where
  | overflow (capacity : Nat)
  | empty
  deriving Repr, DecidableEq

namespace StackError

/-- The text for a reader. -/
def message : StackError → String
  | overflow capacity => s!"stack overflow: capacity of {capacity} elements exceeded"
  | empty => "stack is empty"

/-- The name of the cause with its data. -/
def rendering : StackError → Text.Rendering
  | overflow capacity => .record "Overflow" [("capacity", .atom (toString capacity))]
  | empty => .record "Empty" []

end StackError

end Substrate
