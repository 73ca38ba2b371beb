import Substrate.Proofs.Pool.Storage

/-!
# Substrate.Proofs.Pool.Disposal

How many slots a pool keeps, and what becomes of them when it goes out of use. `Fits p l n` says
that `p` keeps slots of layout `l` and at most `n` of them; every operation keeps to that, whatever
the supply answers. `GivesBack l b ss b'` says that the slots `ss` go back to the supply one after
another, and that each one is in use when its turn comes. A pool that goes out of use gives back its
pooled slots in this way, and what is then left in use is what the objects hold
(`Stores.givesBack_dispose`, `Stores.allocated_dispose`).
-/

namespace Substrate

namespace Pool

variable {α β : Type}

/-- The pool is for objects of one layout and keeps no more slots than it may. -/
structure Fits (p : Pool α β) (layout : Layout) (capacity : Nat) : Prop where
  layout_eq : p.layout = layout
  capacity_eq : p.capacity = capacity
  le : p.pooled.length ≤ capacity

variable [Backing β] {p : Pool α β} {layout : Layout} {capacity : Nat}

/-! ## Capacity -/

/-- A fresh slot is not pooled. -/
theorem freshSlot_frame (p : Pool α β) :
    p.freshSlot.2.layout = p.layout ∧ p.freshSlot.2.capacity = p.capacity ∧
      p.freshSlot.2.pooled = p.pooled := by
  unfold freshSlot
  split <;> exact ⟨rfl, rfl, rfl⟩

/-- Filling a pool in advance adds as many slots as were asked for. -/
theorem prefill_frame {n : Nat} {p' : Pool α β} (filled : p.prefill n = (.ok (), p')) :
    p'.layout = p.layout ∧ p'.capacity = p.capacity ∧
      p'.pooled.length = p.pooled.length + n := by
  induction n generalizing p with
  | zero =>
    obtain ⟨-, rfl⟩ := Prod.mk.inj filled
    exact ⟨rfl, rfl, rfl⟩
  | succ n ih =>
    obtain ⟨layout, capacity, pooled⟩ := p.freshSlot_frame
    rw [prefill] at filled
    cases fresh : p.freshSlot with
    | mk answer q =>
      rw [fresh] at filled layout capacity pooled
      cases answer with
      | error e => cases filled
      | ok s =>
        obtain ⟨layout', capacity', length⟩ := ih filled
        refine ⟨layout'.trans layout, capacity'.trans capacity, ?_⟩
        simp only [List.length_cons] at length pooled
        rw [length, pooled]
        omega

/-- Half of the capacity, rounded up, is within it. -/
theorem fits_create {backing : β} (created : create α layout capacity backing = .ok p) :
    p.Fits layout capacity := by
  unfold create at created
  split at created
  · next filled =>
    cases created
    obtain ⟨layout, capacity, length⟩ := prefill_frame filled
    refine ⟨layout, capacity, ?_⟩
    rw [length, List.length_nil]
    omega
  · cases created

/-- Making an object leaves the pool within its capacity. -/
theorem Fits.alloc (h : p.Fits layout capacity) (v : α) :
    (p.alloc v).state.Fits layout capacity := by
  have fresh_fits : ∀ answer q, p.freshSlot = (answer, q) → q.Fits layout capacity := by
    intro answer q fresh
    obtain ⟨layout', capacity', pooled'⟩ := p.freshSlot_frame
    rw [fresh] at layout' capacity' pooled'
    exact ⟨layout'.trans h.layout_eq, capacity'.trans h.capacity_eq, by rw [pooled']; exact h.le⟩
  rcases p.alloc_cases v with
      ⟨s, rest, pooled, is⟩ | ⟨s, q, -, fresh, is⟩ | ⟨e, q, -, fresh, is⟩ <;>
    rw [is]
  · have le := h.le
    rw [pooled, List.length_cons] at le
    exact ⟨h.layout_eq, h.capacity_eq, Nat.le_of_succ_le le⟩
  · have fits := fresh_fits _ q fresh
    exact ⟨fits.layout_eq, fits.capacity_eq, fits.le⟩
  · exact fresh_fits _ q fresh

omit [Backing β] in
theorem Fits.write (h : p.Fits layout capacity) (s : Slot) (v : α) :
    (p.write s v).state.Fits layout capacity := ⟨h.layout_eq, h.capacity_eq, h.le⟩

/-- A slot that comes back is pooled only where there is room. -/
theorem Fits.free (h : p.Fits layout capacity) (s : Slot) :
    (p.free s).state.Fits layout capacity := by
  unfold Pool.free
  split
  · next room =>
    rw [h.capacity_eq] at room
    exact ⟨h.layout_eq, h.capacity_eq, room⟩
  · exact ⟨h.layout_eq, h.capacity_eq, h.le⟩

/-- Freeing objects leaves the pool within its capacity. -/
theorem Fits.freeAll (h : p.Fits layout capacity) (ss : List Slot) :
    (p.freeAll ss).state.Fits layout capacity := by
  induction ss generalizing p with
  | nil => exact h
  | cons s ss ih =>
    rw [Pool.freeAll]
    exact ih (h.free s)

/-! ## Disposal -/

/-- The slots `ss` go back from supply `b` one after another, each being in use by then, and the
supply is `b'` in the end. -/
def GivesBack (layout : Layout) (b : β) : List Slot → β → Prop
  | [], b' => b' = b
  | s :: rest, b' =>
    s ∈ Backing.allocated b ∧ GivesBack layout (Backing.deallocate b layout s) rest b'

/-- A pool of sized payloads gives its pooled slots back one by one. -/
theorem dispose_of_sized (sized : p.layout.isZeroSized = false) :
    p.dispose = p.pooled.foldl (fun b s => Backing.deallocate b p.layout s) p.backing := by
  rw [dispose, close, release_of_sized sized]
  rfl

variable [LawfulBacking β] {used : List Slot}

/-- Slots that are in use can be given back in turn, which leaves the others in use. -/
theorem givesBack_foldl (layout : Layout) {b : β} {ss : List Slot}
    (perm : (Backing.allocated b).Perm (ss ++ used)) :
    GivesBack layout b ss (ss.foldl (fun b s => Backing.deallocate b layout s) b) ∧
      (Backing.allocated (ss.foldl (fun b s => Backing.deallocate b layout s) b)).Perm used := by
  induction ss generalizing b with
  | nil => exact ⟨rfl, perm⟩
  | cons s ss ih =>
    have mem : s ∈ Backing.allocated b := perm.mem_iff.2 List.mem_cons_self
    have others : (Backing.allocated (Backing.deallocate b layout s)).Perm (ss ++ used) := by
      rw [LawfulBacking.allocated_deallocate layout mem]
      simpa using perm.erase s
    exact ⟨⟨mem, (ih others).1⟩, (ih others).2⟩

/-- A pool that goes out of use gives back what it has pooled, and nothing else. -/
theorem Stores.givesBack_dispose (h : p.Stores used) :
    GivesBack p.layout p.backing p.pooled p.dispose := by
  rw [dispose_of_sized h.sized]
  exact (givesBack_foldl p.layout h.perm).1

/-- What the objects hold stays in use. -/
theorem Stores.allocated_dispose (h : p.Stores used) :
    (Backing.allocated p.dispose).Perm used := by
  rw [dispose_of_sized h.sized]
  exact (givesBack_foldl p.layout h.perm).2

end Pool

end Substrate
