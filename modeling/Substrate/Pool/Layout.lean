import Substrate.Text.Rendering

/-!
# Substrate.Pool.Layout

How much storage an object takes, and the refusal of a request for storage.
-/

namespace Substrate

/-- Size and alignment of an object in bytes. -/
structure Layout where
  size : Nat
  align : Nat
  deriving Repr, DecidableEq

namespace Layout

/-- An object without any bytes. -/
def unit : Layout := ⟨0, 1⟩

/-- A word of `bytes` bytes, aligned to its size. -/
def word (bytes : Nat) : Layout := ⟨bytes, bytes⟩

/-- Three words of eight bytes. -/
def triple : Layout := ⟨24, 8⟩

/-- An object as large as a cache line and aligned to one. -/
def line : Layout := ⟨64, 64⟩

/-- Does an object of this layout take no storage? -/
def isZeroSized (l : Layout) : Bool := l.size == 0

end Layout

/-- The number of a slot of storage; it stays with the slot. -/
abbrev Slot := Nat

/-- The slot that stands for the storage of every object without bytes. -/
def Slot.dangling : Slot := 0

/-- Storage could not be obtained. -/
inductive AllocationError where
  | noMemory (layout : Layout)
  deriving Repr, DecidableEq

namespace AllocationError

/-- The text for a reader. -/
def message : AllocationError → String
  | noMemory l => s!"No memory available for allocation of {l.size} bytes (align {l.align})"

/-- The name of the cause with its data. -/
def rendering : AllocationError → Text.Rendering
  | noMemory l =>
    .record "NoMemory" [("size", .atom (toString l.size)), ("align", .atom (toString l.align))]

end AllocationError

end Substrate
