import Substrate.Outcome
import Substrate.Stack.Error

/-!
# Substrate.Stack.Basic

A stack over a fixed row of slots. The slots below `size` hold the elements, base first; what a
slot at or above `size` holds is left over from an earlier element and is never read. A full stack
refuses a push, it never grows.

The view is `Stack.toList`, the elements from the top down to the base. What each operation does to
it is stated in `Substrate.Stack.View`.
-/

namespace Substrate

/-- The capacity of a stack when none is given. -/
def defaultStackCapacity : Nat := 1024

/-- A row of `capacity` slots of which the first `size` hold an element. -/
structure Stack (α : Type) (capacity : Nat) where
  slots : Vector (Option α) capacity
  size : Nat
  size_le : size ≤ capacity
  filled : ∀ i, i < size → slots[i]?.join.isSome

namespace Stack

variable {α : Type} {capacity : Nat}

/-! ## Reading -/

/-- The stack without elements. -/
def empty : Stack α capacity where
  slots := Vector.replicate capacity none
  size := 0
  size_le := Nat.zero_le _
  filled := fun _ h => absurd h (Nat.not_lt_zero _)

/-- Has the stack no element? -/
def isEmpty (s : Stack α capacity) : Bool := s.size == 0

/-- Has the stack no room? -/
def isFull (s : Stack α capacity) : Bool := s.size == capacity

/-- What slot `i` holds, counted from the base. -/
def slot (s : Stack α capacity) (i : Nat) : Option α := s.slots[i]?.join

/-- The element of slot `i`. -/
def get (s : Stack α capacity) (i : Nat) (h : i < s.size) : α := (s.slot i).get (s.filled i h)

/-- What the lowest `n` slots hold, the highest of them first. -/
def lowest (s : Stack α capacity) : Nat → List α
  | 0 => []
  | n + 1 => (s.slot n).toList ++ s.lowest n

/-- The elements from the top down to the base. -/
def toList (s : Stack α capacity) : List α := s.lowest s.size

/-- The element on top. -/
def top (s : Stack α capacity) : Except StackError α :=
  if h : 0 < s.size then .ok (s.get (s.size - 1) (Nat.sub_one_lt_of_lt h)) else .error .empty

/-! ## Slots -/

/-- Fills the first slot above the top. -/
def place (s : Stack α capacity) (room : s.size < capacity) (v : α) : Stack α capacity where
  slots := s.slots.set s.size (some v) room
  size := s.size + 1
  size_le := room
  filled := by
    intro i h
    rw [Vector.getElem?_set]
    split
    · rfl
    · exact s.filled i (by omega)

/-- Gives up the top slot, whose content stays behind unread. -/
def lower (s : Stack α capacity) : Stack α capacity where
  slots := s.slots
  size := s.size - 1
  size_le := Nat.le_trans (Nat.sub_le _ _) s.size_le
  filled := fun i h => s.filled i (Nat.lt_of_lt_of_le h (Nat.sub_le _ _))

/-- Puts another element into a slot that holds one. -/
def overwrite (s : Stack α capacity) (i : Nat) (h : i < s.size) (v : α) : Stack α capacity where
  slots := s.slots.set i (some v) (Nat.lt_of_lt_of_le h s.size_le)
  size := s.size
  size_le := s.size_le
  filled := by
    intro j hj
    rw [Vector.getElem?_set]
    split
    · rfl
    · exact s.filled j hj

@[simp] theorem size_empty : (empty : Stack α capacity).size = 0 := rfl

@[simp] theorem size_place (s : Stack α capacity) (room : s.size < capacity) (v : α) :
    (s.place room v).size = s.size + 1 := rfl

@[simp] theorem size_lower (s : Stack α capacity) : s.lower.size = s.size - 1 := rfl

@[simp] theorem size_overwrite (s : Stack α capacity) (i : Nat) (h : i < s.size) (v : α) :
    (s.overwrite i h v).size = s.size := rfl

/-! ## Pushing and popping -/

/-- Puts `v` on top. A full stack destroys it instead. -/
def push (s : Stack α capacity) (v : α) :
    Outcome (Stack α capacity) (Except StackError Unit) α :=
  if room : s.size < capacity then .keeping (.ok ()) (s.place room v)
  else ⟨.error (.overflow capacity), s, [v]⟩

/-- Puts the element that `make` yields on top. `make` runs only when there is room, so a full
stack has nothing to destroy. -/
def pushWith {m : Type → Type} [Monad m] (s : Stack α capacity) (make : m α) :
    m (Outcome (Stack α capacity) (Except StackError Unit) α) :=
  if room : s.size < capacity then do
    let v ← make
    pure (.keeping (.ok ()) (s.place room v))
  else pure (.keeping (.error (.overflow capacity)) s)

/-- Moves the top element out to the caller. -/
def pop (s : Stack α capacity) : Outcome (Stack α capacity) (Except StackError α) α :=
  if h : 0 < s.size then .keeping (.ok (s.get (s.size - 1) (Nat.sub_one_lt_of_lt h))) s.lower
  else .keeping (.error .empty) s

/-- Destroys the top element. -/
def discard (s : Stack α capacity) : Outcome (Stack α capacity) (Except StackError Unit) α :=
  if h : 0 < s.size then ⟨.ok (), s.lower, [s.get (s.size - 1) (Nat.sub_one_lt_of_lt h)]⟩
  else .keeping (.error .empty) s

/-- Puts `f` of the top element in its place and destroys the old one. On an empty stack `f` has
nothing to run on. -/
def modifyTop (s : Stack α capacity) (f : α → α) :
    Outcome (Stack α capacity) (Except StackError Unit) α :=
  if h : 0 < s.size then
    let old := s.get (s.size - 1) (Nat.sub_one_lt_of_lt h)
    ⟨.ok (), s.overwrite (s.size - 1) (Nat.sub_one_lt_of_lt h) (f old), [old]⟩
  else .keeping (.error .empty) s

/-- Pushes payloads one by one, going on after refusals: how many were taken, and the refusals. -/
def pushAll (s : Stack α capacity) :
    List α → Outcome (Stack α capacity) (Nat × List StackError) α
  | [] => .keeping (0, []) s
  | v :: vs =>
    let first := s.push v
    let rest := first.state.pushAll vs
    let reply := match first.reply with
      | .ok _ => (rest.reply.1 + 1, rest.reply.2)
      | .error e => (rest.reply.1, e :: rest.reply.2)
    ⟨reply, rest.state, first.destroyed ++ rest.destroyed⟩

/-! ## All elements at once -/

/-- Discards the top `n` times. -/
def discardMany (s : Stack α capacity) : Nat → Outcome (Stack α capacity) Unit α
  | 0 => .keeping () s
  | n + 1 =>
    let first := s.discard
    let rest := first.state.discardMany n
    ⟨(), rest.state, first.destroyed ++ rest.destroyed⟩

/-- Destroys every element, the top first. A stack that goes out of use is cleared. -/
def clear (s : Stack α capacity) : Outcome (Stack α capacity) Unit α := s.discardMany s.size

/-- Assigns payloads in turn to the lowest `n` elements, the highest of them first, until either
side ends: how many were assigned. -/
def assignLowest (s : Stack α capacity) :
    (n : Nat) → n ≤ s.size → List α → Outcome (Stack α capacity) Nat α
  | n + 1, h, v :: vs =>
    let old := s.get n h
    let rest := (s.overwrite n h v).assignLowest n (Nat.le_of_succ_le h) vs
    ⟨rest.reply + 1, rest.state, old :: rest.destroyed⟩
  | 0, _, _ => .keeping 0 s
  | _ + 1, _, [] => .keeping 0 s

/-- Assigns payloads in turn to the elements from the top down. -/
def assign (s : Stack α capacity) (vs : List α) : Outcome (Stack α capacity) Nat α :=
  s.assignLowest s.size (Nat.le_refl _) vs

end Stack

end Substrate
