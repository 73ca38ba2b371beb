import Std.Data.TreeMap
import Substrate.Outcome
import Substrate.Pool.Backing

/-!
# Substrate.Pool.Basic

An object pool that keeps up to `capacity` slots for reuse. Pooled slots hold no object: what is
stored in one is left over and is never read or destroyed. An object belongs to the caller from
`alloc` to `free`; the pool does not keep track of it.

The slot that was given back last is used first. Objects without bytes never reach the backing:
they all stand in `Slot.dangling`, and only the number of pooled slots says how many are at hand.
-/

namespace Substrate

/-- The number of slots a pool keeps when none is given. -/
def defaultPoolCapacity : Nat := 64

/-- Slots at hand, the latest first, the supply behind them, and what was last written to each
slot. -/
structure Pool (α β : Type) where
  layout : Layout
  capacity : Nat
  pooled : List Slot
  backing : β
  contents : Std.TreeMap Slot α

namespace Pool

variable {α β : Type}

/-! ## Contents -/

/-- The payload of the object in slot `s`. -/
def read (p : Pool α β) (s : Slot) : Option α := p.contents[s]?

/-- Assigns `v` to the object in slot `s`. -/
def write (p : Pool α β) (s : Slot) (v : α) : Outcome (Pool α β) Unit α :=
  ⟨(), { p with contents := p.contents.insert s v }, (p.read s).toList⟩

theorem getElem?_contents_insert (contents : Std.TreeMap Slot α) (s : Slot) (v : α) (r : Slot) :
    (contents.insert s v)[r]? = if r = s then some v else contents[r]? := by
  rw [Std.TreeMap.getElem?_insert]
  by_cases h : s = r
  · simp [h]
  · simp [h, Ne.symm h]

theorem read_write (p : Pool α β) (s : Slot) (v : α) (r : Slot) :
    (p.write s v).state.read r = if r = s then some v else p.read r :=
  getElem?_contents_insert _ _ _ _

/-! ## Slots -/

variable [Backing β]

/-- Gives one slot back to the supply. -/
def release (layout : Layout) (b : β) (s : Slot) : β :=
  if layout.isZeroSized then b else Backing.deallocate b layout s

/-- Obtains one slot from the supply. -/
def freshSlot (p : Pool α β) : Except AllocationError Slot × Pool α β :=
  if p.layout.isZeroSized then (.ok .dangling, p)
  else
    let (answer, backing) := Backing.allocate p.backing p.layout
    (answer, { p with backing })

/-- Lays in `n` slots, one after another, up to the first refusal. -/
def prefill (p : Pool α β) : Nat → Except AllocationError Unit × Pool α β
  | 0 => (.ok (), p)
  | n + 1 =>
    match p.freshSlot with
    | (.error e, p') => (.error e, p')
    | (.ok s, p') => { p' with pooled := s :: p'.pooled }.prefill n

/-- Takes the pool out of use: every pooled slot is given back, the latest first, and what is left
over in it is not destroyed. Only the supply remains. -/
def close (p : Pool α β) : Outcome β Unit α :=
  .keeping () (p.pooled.foldl (release p.layout) p.backing)

/-- The supply after the pool went out of use. -/
def dispose (p : Pool α β) : β := p.close.state

/-- A pool over a supply, with half of its capacity (rounded up) laid in. When the supply refuses,
the answer is its refusal and the supply after everything obtained was given back. -/
def create (α : Type) (layout : Layout) (capacity : Nat) (backing : β) :
    Except (AllocationError × β) (Pool α β) :=
  match prefill ⟨layout, capacity, [], backing, ∅⟩ ((capacity + 1) / 2) with
  | (.ok _, p) => .ok p
  | (.error e, p) => .error (e, p.dispose)

/-! ## Objects -/

/-- Makes an object of `v` in the slot on top of the pool, or in a fresh slot if none is pooled.
When the supply refuses, `v` is destroyed. -/
def alloc (p : Pool α β) (v : α) : Outcome (Pool α β) (Except AllocationError Slot) α :=
  match p.pooled with
  | s :: rest => .keeping (.ok s) { p with pooled := rest, contents := p.contents.insert s v }
  | [] =>
    match p.freshSlot with
    | (.error e, p') => ⟨.error e, p', [v]⟩
    | (.ok s, p') => .keeping (.ok s) { p' with contents := p'.contents.insert s v }

/-- Destroys the object in slot `s` and takes the slot into the pool, or gives it back when the
pool is full. -/
def free (p : Pool α β) (s : Slot) : Outcome (Pool α β) Unit α :=
  let p' := if p.pooled.length < p.capacity then { p with pooled := s :: p.pooled }
    else { p with backing := release p.layout p.backing s }
  ⟨(), p', (p.read s).toList⟩

/-- Frees the objects in the given slots, one after another. -/
def freeAll (p : Pool α β) : List Slot → Outcome (Pool α β) Unit α
  | [] => .keeping () p
  | s :: rest =>
    let first := p.free s
    let others := first.state.freeAll rest
    ⟨(), others.state, first.destroyed ++ others.destroyed⟩

/-! ## What the operations do -/

@[simp] theorem destroyed_close (p : Pool α β) : p.close.destroyed = [] := rfl

theorem contents_freshSlot (p : Pool α β) : p.freshSlot.2.contents = p.contents := by
  unfold freshSlot
  split <;> rfl

/-- A new object holds its payload, and the objects in other slots hold theirs. -/
theorem read_alloc {p : Pool α β} {v : α} {s : Slot} (h : (p.alloc v).reply = .ok s) (r : Slot) :
    (p.alloc v).state.read r = if r = s then some v else p.read r := by
  unfold alloc at h ⊢
  have fresh := p.contents_freshSlot
  split at h
  · simp only [Outcome.reply_keeping, Except.ok.injEq] at h
    subst h
    exact getElem?_contents_insert _ _ _ _
  · split at h
    · simp at h
    · simp only [Outcome.reply_keeping, Except.ok.injEq] at h
      subst h
      simp_all [read, getElem?_contents_insert]

/-- Freeing an object leaves what is stored in the slots alone. -/
theorem read_free (p : Pool α β) (s r : Slot) : (p.free s).state.read r = p.read r := by
  unfold free
  split <;> rfl

end Pool

end Substrate
