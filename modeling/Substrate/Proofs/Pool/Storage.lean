import Substrate.Pool.Basic

/-!
# Substrate.Proofs.Pool.Storage

Where the slots of a supply are. `Stores p used` says that every slot the supply has handed out is
either pooled or one of `used`, and that no slot is in two places. A pool keeps to it from its
creation (`stores_create`): an object takes a slot that was not in use (`stores_alloc`), and a slot
that is given back goes to the pool or to the supply (`stores_free`, `stores_freeAll`).
-/

namespace Substrate

namespace Pool

variable {α β : Type} [Backing β]

/-- The slots that the supply has handed out are the pooled ones and those in `used`, each once. -/
structure Stores (p : Pool α β) (used : List Slot) : Prop where
  sized : p.layout.isZeroSized = false
  perm : (Backing.allocated p.backing).Perm (p.pooled ++ used)
  nodup : (p.pooled ++ used).Nodup

variable {p : Pool α β} {used : List Slot}

/-- The order of the slots in use does not matter. -/
theorem Stores.congr {used' : List Slot} (h : p.Stores used) (same : used.Perm used') :
    p.Stores used' where
  sized := h.sized
  perm := h.perm.trans (same.append_left p.pooled)
  nodup := (same.append_left p.pooled).nodup_iff.1 h.nodup

theorem Stores.nodup_used (h : p.Stores used) : used.Nodup := (List.nodup_append.1 h.nodup).2.1

/-- A slot in use is not pooled. -/
theorem Stores.not_mem_pooled (h : p.Stores used) {s : Slot} (mem : s ∈ used) :
    s ∉ p.pooled := fun pooled => (List.nodup_append.1 h.nodup).2.2 s pooled s mem rfl

/-- As many slots are out as are pooled or in use. -/
theorem Stores.length_eq (h : p.Stores used) :
    (Backing.allocated p.backing).length = p.pooled.length + used.length := by
  rw [h.perm.length_eq, List.length_append]

/-! ## Slots from the supply -/

/-- A fresh slot for a sized payload is requested from the supply. -/
theorem freshSlot_of_sized (sized : p.layout.isZeroSized = false) :
    p.freshSlot = ((Backing.allocate p.backing p.layout).1,
      { p with backing := (Backing.allocate p.backing p.layout).2 }) := by
  rw [freshSlot, sized]
  rfl

theorem release_of_sized {layout : Layout} (sized : layout.isZeroSized = false) :
    (release layout : β → Slot → β) = fun b s => Backing.deallocate b layout s := by
  funext b s
  rw [release, sized]
  rfl

variable [LawfulBacking β]

/-- A slot that the supply hands out was nowhere in use. -/
theorem stores_freshSlot_ok (h : p.Stores used) {s : Slot} {p' : Pool α β}
    (fresh : p.freshSlot = (.ok s, p')) : p'.Stores (s :: used) ∧ p'.pooled = p.pooled := by
  rw [freshSlot_of_sized h.sized] at fresh
  obtain ⟨answer, rfl⟩ := Prod.mk.inj fresh
  have issued : Backing.allocate p.backing p.layout =
      (.ok s, (Backing.allocate p.backing p.layout).2) := by rw [← answer]
  obtain ⟨notIn, out⟩ := LawfulBacking.allocated_of_ok issued
  have perm : (s :: Backing.allocated p.backing).Perm (p.pooled ++ s :: used) :=
    (h.perm.cons s).trans List.perm_middle.symm
  refine ⟨⟨h.sized, ?_, ?_⟩, rfl⟩
  · rw [out]
    exact perm
  · rw [← perm.nodup_iff, List.nodup_cons]
    exact ⟨notIn, h.perm.nodup_iff.2 h.nodup⟩

/-- A refused request leaves the books in order. -/
theorem stores_freshSlot_error (h : p.Stores used) {e : AllocationError} {p' : Pool α β}
    (refused : p.freshSlot = (.error e, p')) : p'.Stores used := by
  rw [freshSlot_of_sized h.sized] at refused
  obtain ⟨answer, rfl⟩ := Prod.mk.inj refused
  have kept : Backing.allocate p.backing p.layout =
      (.error e, (Backing.allocate p.backing p.layout).2) := by rw [← answer]
  refine ⟨h.sized, ?_, h.nodup⟩
  rw [LawfulBacking.allocated_of_error kept]
  exact h.perm

/-! ## Pools -/

theorem stores_prefill (h : p.Stores used) (n : Nat) {p' : Pool α β}
    (filled : p.prefill n = (.ok (), p')) : p'.Stores used := by
  induction n generalizing p with
  | zero =>
    obtain ⟨-, rfl⟩ := Prod.mk.inj filled
    exact h
  | succ n ih =>
    rw [prefill] at filled
    rcases fresh : p.freshSlot with ⟨e | s, q⟩
    · rw [fresh] at filled
      cases filled
    · rw [fresh] at filled
      obtain ⟨stores, -⟩ := stores_freshSlot_ok h fresh
      have laidIn : Stores { q with pooled := s :: q.pooled } used :=
        ⟨stores.sized, stores.perm.trans List.perm_middle,
          List.perm_middle.nodup_iff.1 stores.nodup⟩
      exact ih laidIn filled

/-- A new pool has no object; what the supply handed out before is still out. -/
theorem stores_create {layout : Layout} {capacity : Nat} {backing : β} {p : Pool α β}
    (sized : layout.isZeroSized = false) (nodup : (Backing.allocated backing).Nodup)
    (created : create α layout capacity backing = .ok p) :
    p.Stores (Backing.allocated backing) := by
  rw [create] at created
  have bare : Stores (⟨layout, capacity, [], backing, ∅⟩ : Pool α β) (Backing.allocated backing) :=
    ⟨sized, List.Perm.refl _, nodup⟩
  rcases filled : prefill (⟨layout, capacity, [], backing, ∅⟩ : Pool α β) ((capacity + 1) / 2)
    with ⟨e | _, q⟩
  · rw [filled] at created
    cases created
  · rw [filled] at created
    cases created
    exact stores_prefill bare _ filled

/-! ## Objects -/

omit [LawfulBacking β] in
theorem alloc_of_pooled {s : Slot} {rest : List Slot} (pooled : p.pooled = s :: rest) (v : α) :
    p.alloc v = .keeping (.ok s) { p with pooled := rest, contents := p.contents.insert s v } := by
  simp [alloc, pooled]

omit [LawfulBacking β] in
/-- Where no slot is pooled, an object is made in a fresh one. -/
theorem alloc_of_fresh {s : Slot} {p' : Pool α β} (dry : p.pooled = [])
    (fresh : p.freshSlot = (.ok s, p')) (v : α) :
    p.alloc v = .keeping (.ok s) { p' with contents := p'.contents.insert s v } := by
  simp [alloc, dry, fresh]

omit [LawfulBacking β] in
/-- Where the request is refused, the payload is destroyed. -/
theorem alloc_of_refused {e : AllocationError} {p' : Pool α β} (dry : p.pooled = [])
    (refused : p.freshSlot = (.error e, p')) (v : α) : p.alloc v = ⟨.error e, p', [v]⟩ := by
  simp [alloc, dry, refused]

omit [LawfulBacking β] in
/-- An object is made in the slot on top of the pool, or in a fresh one if none is pooled. Where
there is no fresh one either, the payload is destroyed. -/
theorem alloc_cases (p : Pool α β) (v : α) :
    (∃ s rest, p.pooled = s :: rest ∧
        p.alloc v = .keeping (.ok s) { p with pooled := rest, contents := p.contents.insert s v }) ∨
      (∃ s p', p.pooled = [] ∧ p.freshSlot = (.ok s, p') ∧
        p.alloc v = .keeping (.ok s) { p' with contents := p'.contents.insert s v }) ∨
      ∃ e p', p.pooled = [] ∧ p.freshSlot = (.error e, p') ∧ p.alloc v = ⟨.error e, p', [v]⟩ := by
  cases pooled : p.pooled with
  | cons s rest => exact .inl ⟨s, rest, rfl, alloc_of_pooled pooled v⟩
  | nil =>
    rcases fresh : p.freshSlot with ⟨e | s, p'⟩
    · exact .inr (.inr ⟨e, p', rfl, rfl, alloc_of_refused pooled fresh v⟩)
    · exact .inr (.inl ⟨s, p', rfl, rfl, alloc_of_fresh pooled fresh v⟩)

omit [LawfulBacking β] in
/-- Where payloads have a size, the fresh slot is the one that the supply grants. -/
theorem alloc_cases_of_sized (sized : p.layout.isZeroSized = false) (v : α) :
    (∃ s rest, p.pooled = s :: rest ∧
        p.alloc v = .keeping (.ok s) { p with pooled := rest, contents := p.contents.insert s v }) ∨
      (∃ s, p.pooled = [] ∧ (Backing.allocate p.backing p.layout).1 = .ok s ∧
        p.alloc v = .keeping (.ok s) { p with
          backing := (Backing.allocate p.backing p.layout).2
          contents := p.contents.insert s v }) ∨
      ∃ e, p.pooled = [] ∧ (Backing.allocate p.backing p.layout).1 = .error e ∧
        p.alloc v =
          ⟨.error e, { p with backing := (Backing.allocate p.backing p.layout).2 }, [v]⟩ := by
  have asked := freshSlot_of_sized sized
  rcases p.alloc_cases v with found | ⟨s, p', dry, fresh, made⟩ | ⟨e, p', dry, fresh, refused⟩
  · exact .inl found
  · obtain ⟨answer, rfl⟩ := Prod.mk.inj (asked.symm.trans fresh)
    exact .inr (.inl ⟨s, dry, answer, made⟩)
  · obtain ⟨answer, rfl⟩ := Prod.mk.inj (asked.symm.trans fresh)
    exact .inr (.inr ⟨e, dry, answer, refused⟩)

/-- A new object takes a slot that was neither pooled any more nor in use; a refused one costs its
payload and nothing else. -/
theorem stores_alloc (h : p.Stores used) (v : α) :
    (∃ s, (p.alloc v).reply = .ok s ∧ (p.alloc v).state.Stores (s :: used) ∧
        (p.alloc v).destroyed = []) ∨
      (∃ e, (p.alloc v).reply = .error e ∧ (p.alloc v).state.Stores used ∧
        (p.alloc v).destroyed = [v] ∧ (p.alloc v).state.contents = p.contents) := by
  have contents := p.contents_freshSlot
  rcases p.alloc_cases v with
      ⟨s, rest, pooled, is⟩ | ⟨s, q, -, fresh, is⟩ | ⟨e, q, -, fresh, is⟩ <;>
    rw [is]
  · have perm := h.perm
    have nodup := h.nodup
    rw [pooled, List.cons_append] at perm nodup
    exact .inl ⟨s, rfl, ⟨h.sized, perm.trans List.perm_middle.symm,
      List.perm_middle.symm.nodup_iff.1 nodup⟩, rfl⟩
  · obtain ⟨stores, -⟩ := stores_freshSlot_ok h fresh
    exact .inl ⟨s, rfl, ⟨stores.sized, stores.perm, stores.nodup⟩, rfl⟩
  · rw [fresh] at contents
    exact .inr ⟨e, rfl, stores_freshSlot_error h fresh, rfl, contents⟩

/-- A slot that is given back is pooled or returned. -/
theorem stores_free {s : Slot} (h : p.Stores (s :: used)) : (p.free s).state.Stores used := by
  unfold free
  split
  · exact ⟨h.sized, h.perm.trans List.perm_middle, List.perm_middle.nodup_iff.1 h.nodup⟩
  · have nodup := List.perm_middle.nodup_iff.1 h.nodup
    rw [List.nodup_cons] at nodup
    refine ⟨h.sized, ?_, nodup.2⟩
    have perm := h.perm.trans List.perm_middle
    have out : s ∈ Backing.allocated p.backing := perm.mem_iff.2 List.mem_cons_self
    have erased := perm.erase s
    rw [List.erase_cons_head] at erased
    rw [release_of_sized h.sized, LawfulBacking.allocated_deallocate p.layout out]
    exact erased

def room (p : Pool α β) : Nat := p.capacity - p.pooled.length

omit [LawfulBacking β] in
/-- Slots are taken into the pool, the latest on top, for as long as there is room, and then given
back. -/
theorem freeAll_eq (p : Pool α β) (ss : List Slot) :
    p.freeAll ss = ⟨(), { p with
      pooled := (ss.take p.room).reverse ++ p.pooled
      backing := (ss.drop p.room).foldl (release p.layout) p.backing }, ss.filterMap p.read⟩ := by
  induction ss generalizing p with
  | nil => simp [Pool.freeAll, Outcome.keeping]
  | cons s ss ih =>
    have read : (p.free s).state.read = p.read := funext fun r => p.read_free s r
    have destroyed : (p.free s).destroyed ++ ss.filterMap p.read = (s :: ss).filterMap p.read := by
      rw [List.filterMap_cons, Pool.free]
      cases p.read s <;> rfl
    rw [Pool.freeAll, ih, read, ← destroyed]
    by_cases free : p.pooled.length < p.capacity
    · obtain ⟨n, room⟩ : ∃ n, p.room = n + 1 := ⟨p.room - 1, by unfold Pool.room; omega⟩
      have state : (p.free s).state = { p with pooled := s :: p.pooled } := by
        rw [Pool.free, if_pos free]
      have left : (p.free s).state.room = n := by
        rw [state]
        change p.capacity - (p.pooled.length + 1) = n
        unfold Pool.room at room
        omega
      rw [left, room, state, List.take_succ_cons, List.drop_succ_cons, List.reverse_cons,
        List.append_assoc]
      rfl
    · have room : p.room = 0 := by unfold Pool.room; omega
      have state : (p.free s).state = { p with backing := release p.layout p.backing s } := by
        rw [Pool.free, if_neg free]
      have left : (p.free s).state.room = 0 := by rw [state]; exact room
      rw [left, room, state]
      rfl

omit [LawfulBacking β] in
/-- Freeing one object is freeing a list of one. -/
theorem free_eq (p : Pool α β) (s : Slot) : p.free s = p.freeAll [s] := by
  simp [Pool.freeAll]

omit [LawfulBacking β] in
/-- Freeing many objects destroys what is in their slots, in order. -/
theorem destroyed_freeAll (p : Pool α β) (ss : List Slot) :
    (p.freeAll ss).destroyed = ss.filterMap p.read := by rw [freeAll_eq]

omit [LawfulBacking β] in
theorem read_freeAll (p : Pool α β) (ss : List Slot) (r : Slot) :
    (p.freeAll ss).state.read r = p.read r := by
  rw [freeAll_eq]
  rfl

omit [LawfulBacking β] in
theorem layout_freeAll (p : Pool α β) (ss : List Slot) :
    (p.freeAll ss).state.layout = p.layout := by rw [freeAll_eq]

/-- Freeing slots in use leaves the others in use. -/
theorem stores_freeAll {ss : List Slot} (h : p.Stores (ss ++ used)) :
    (p.freeAll ss).state.Stores used := by
  induction ss generalizing p with
  | nil => exact h
  | cons s ss ih =>
    rw [freeAll]
    exact ih (stores_free h)

end Pool

end Substrate
