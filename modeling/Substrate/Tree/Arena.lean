/-!
# Substrate.Tree.Arena

Numbered storage. A store issues a key for every value that is put into it and never issues a key
twice, so a key that was removed finds nothing for ever after. Which keys it issues, and in which
order, is its own affair.

`SlotMap` says what such a store does, through the views `get?` and `Issued`. An `Arena` is a
storage over any of them; what each operation does to the views is stated below (`get?_insert`,
`get?_modify`, `get?_remove`, `get?_clear`; `issued_insert` and its like), together with its effect
on the number of values. `Cells` is the store that runs: its keys ascend.
-/

namespace Substrate

/-- The number under which a value is kept. -/
abbrev Key := Nat

/-- Stores of values that issue the keys of these values themselves. -/
class SlotMap (S : Type → Type) where
  /-- The store that has not issued any key. -/
  empty {α : Type} : S α
  /-- The value under a key. -/
  get? {α : Type} : S α → Key → Option α
  /-- The keys that have a value, in an order of the store's own. -/
  keys {α : Type} : S α → List Key
  /-- The key that the next insertion issues. -/
  nextKey {α : Type} : S α → Key
  insert {α : Type} : S α → α → S α
  modify {α : Type} : S α → Key → (α → α) → S α
  remove {α : Type} : S α → Key → S α
  clear {α : Type} : S α → S α
  /-- The keys issued so far, whether their values are still there or not. -/
  Issued {α : Type} : S α → Key → Prop
  get?_empty {α : Type} (k : Key) : get? (empty : S α) k = none
  get?_insert {α : Type} (s : S α) (v : α) (k : Key) :
    get? (insert s v) k = if k = nextKey s then some v else get? s k
  get?_modify {α : Type} (s : S α) (k : Key) (f : α → α) (j : Key) :
    get? (modify s k f) j = if j = k then (get? s j).map f else get? s j
  get?_remove {α : Type} (s : S α) (k j : Key) :
    get? (remove s k) j = if j = k then none else get? s j
  get?_clear {α : Type} (s : S α) (k : Key) : get? (clear s) k = none
  /-- No key is issued twice. -/
  not_issued_nextKey {α : Type} (s : S α) : ¬ Issued s (nextKey s)
  /-- Only issued keys have values. -/
  issued_of_get? {α : Type} {s : S α} {k : Key} {v : α} : get? s k = some v → Issued s k
  not_issued_empty {α : Type} (k : Key) : ¬ Issued (empty : S α) k
  issued_insert {α : Type} (s : S α) (v : α) (k : Key) :
    Issued (insert s v) k ↔ k = nextKey s ∨ Issued s k
  issued_modify {α : Type} (s : S α) (k : Key) (f : α → α) (j : Key) :
    Issued (modify s k f) j ↔ Issued s j
  /-- A key that was removed stays issued, and so it is with all keys when a store is cleared. -/
  issued_remove {α : Type} (s : S α) (k j : Key) : Issued (remove s k) j ↔ Issued s j
  issued_clear {α : Type} (s : S α) (k : Key) : Issued (clear s) k ↔ Issued s k
  mem_keys {α : Type} {s : S α} {k : Key} : k ∈ keys s ↔ (get? s k).isSome
  nodup_keys {α : Type} (s : S α) : (keys s).Nodup

/-- Values under keys that a store of kind `S` issues. -/
structure Arena (S : Type → Type) (α : Type) where
  store : S α

namespace Arena

variable {S : Type → Type} [SlotMap S] {α : Type}

/-- The arena that has not issued any key. -/
def empty : Arena S α := ⟨SlotMap.empty⟩

instance : EmptyCollection (Arena S α) := ⟨empty⟩

/-- The value under a key. -/
def get? (a : Arena S α) (k : Key) : Option α := SlotMap.get? a.store k

/-- Is there a value under the key? -/
def contains (a : Arena S α) (k : Key) : Bool := (a.get? k).isSome

/-- The keys that have a value, in the order of the store. -/
def keys (a : Arena S α) : List Key := SlotMap.keys a.store

/-- The number of values. -/
def size (a : Arena S α) : Nat := a.keys.length

/-- The values in the order of the store. -/
def values (a : Arena S α) : List α := a.keys.filterMap a.get?

/-- The key that the next insertion issues. -/
def nextKey (a : Arena S α) : Key := SlotMap.nextKey a.store

/-- Keeps a value under `a.nextKey`. -/
def insert (a : Arena S α) (v : α) : Arena S α := ⟨SlotMap.insert a.store v⟩

/-- Replaces the value under a key by `f` of it. -/
def modify (a : Arena S α) (k : Key) (f : α → α) : Arena S α := ⟨SlotMap.modify a.store k f⟩

/-- Removes the value under a key. -/
def remove (a : Arena S α) (k : Key) : Arena S α := ⟨SlotMap.remove a.store k⟩

/-- Removes all values. -/
def clear (a : Arena S α) : Arena S α := ⟨SlotMap.clear a.store⟩

/-- Was the key issued, be its value still there or not? -/
def Issued (a : Arena S α) (k : Key) : Prop := SlotMap.Issued a.store k

/-! ## Look-up -/

@[simp] theorem get?_empty (k : Key) : (∅ : Arena S α).get? k = none := SlotMap.get?_empty k

theorem get?_insert (a : Arena S α) (v : α) (k : Key) :
    (a.insert v).get? k = if k = a.nextKey then some v else a.get? k :=
  SlotMap.get?_insert a.store v k

@[simp] theorem get?_insert_nextKey (a : Arena S α) (v : α) :
    (a.insert v).get? a.nextKey = some v := by
  rw [get?_insert, if_pos rfl]

theorem get?_modify (a : Arena S α) (k : Key) (f : α → α) (j : Key) :
    (a.modify k f).get? j = if j = k then (a.get? j).map f else a.get? j :=
  SlotMap.get?_modify a.store k f j

theorem get?_remove (a : Arena S α) (k j : Key) :
    (a.remove k).get? j = if j = k then none else a.get? j :=
  SlotMap.get?_remove a.store k j

@[simp] theorem get?_clear (a : Arena S α) (k : Key) : a.clear.get? k = none :=
  SlotMap.get?_clear a.store k

/-! ## Issued keys -/

theorem issued_of_get? {a : Arena S α} {k : Key} {v : α} (h : a.get? k = some v) : a.Issued k :=
  SlotMap.issued_of_get? h

/-- No key is issued twice. -/
@[simp] theorem not_issued_nextKey (a : Arena S α) : ¬ a.Issued a.nextKey :=
  SlotMap.not_issued_nextKey a.store

theorem get?_eq_none_of_not_issued {a : Arena S α} {k : Key} (h : ¬ a.Issued k) :
    a.get? k = none :=
  Option.eq_none_iff_forall_ne_some.2 fun _ found => h (issued_of_get? found)

@[simp] theorem get?_nextKey (a : Arena S α) : a.get? a.nextKey = none :=
  get?_eq_none_of_not_issued a.not_issued_nextKey

/-- A key issued before is not the next one. -/
theorem ne_nextKey {a : Arena S α} {k : Key} (h : a.Issued k) : k ≠ a.nextKey := by
  rintro rfl
  exact a.not_issued_nextKey h

@[simp] theorem not_issued_empty (k : Key) : ¬ (∅ : Arena S α).Issued k :=
  SlotMap.not_issued_empty k

@[simp] theorem issued_insert (a : Arena S α) (v : α) (k : Key) :
    (a.insert v).Issued k ↔ k = a.nextKey ∨ a.Issued k :=
  SlotMap.issued_insert a.store v k

@[simp] theorem issued_modify (a : Arena S α) (k : Key) (f : α → α) (j : Key) :
    (a.modify k f).Issued j ↔ a.Issued j :=
  SlotMap.issued_modify a.store k f j

@[simp] theorem issued_remove (a : Arena S α) (k j : Key) : (a.remove k).Issued j ↔ a.Issued j :=
  SlotMap.issued_remove a.store k j

@[simp] theorem issued_clear (a : Arena S α) (k : Key) : a.clear.Issued k ↔ a.Issued k :=
  SlotMap.issued_clear a.store k

/-! ## Number of values -/

theorem mem_keys {a : Arena S α} {k : Key} : k ∈ a.keys ↔ ∃ v, a.get? k = some v :=
  SlotMap.mem_keys.trans Option.isSome_iff_exists

theorem nodup_keys (a : Arena S α) : a.keys.Nodup := SlotMap.nodup_keys a.store

/-- The keys with a value, listed in any order. -/
theorem keys_perm {a : Arena S α} {ks : List Key} (nodup : ks.Nodup)
    (held : ∀ k, k ∈ ks ↔ ∃ v, a.get? k = some v) : a.keys.Perm ks :=
  (List.perm_ext_iff_of_nodup a.nodup_keys nodup).2 fun k => mem_keys.trans (held k).symm

theorem keys_insert_perm (a : Arena S α) (v : α) :
    (a.insert v).keys.Perm (a.nextKey :: a.keys) := by
  have fresh : a.nextKey ∉ a.keys := by simp [mem_keys]
  refine keys_perm (List.nodup_cons.2 ⟨fresh, a.nodup_keys⟩) fun k => ?_
  rw [List.mem_cons, mem_keys, get?_insert]
  by_cases same : k = a.nextKey <;> simp [same]

theorem keys_modify_perm (a : Arena S α) (k : Key) (f : α → α) :
    (a.modify k f).keys.Perm a.keys := by
  refine keys_perm a.nodup_keys fun j => ?_
  rw [mem_keys, ← Option.isSome_iff_exists, ← Option.isSome_iff_exists, get?_modify]
  split <;> simp

theorem keys_remove_perm (a : Arena S α) (k : Key) : (a.remove k).keys.Perm (a.keys.erase k) := by
  refine keys_perm (a.nodup_keys.erase k) fun j => ?_
  rw [a.nodup_keys.mem_erase_iff, mem_keys, get?_remove]
  by_cases same : j = k <;> simp [same]

/-- Where no key finds a value, there are no keys. -/
theorem keys_eq_nil {a : Arena S α} (none : ∀ k, a.get? k = none) : a.keys = [] :=
  List.eq_nil_iff_forall_not_mem.2 fun k => by simp [mem_keys, none]

/-- An arena holds as many values as there are keys with a value. -/
theorem size_eq_length {a : Arena S α} {ks : List Key} (nodup : ks.Nodup)
    (held : ∀ k, k ∈ ks ↔ ∃ v, a.get? k = some v) : a.size = ks.length :=
  (keys_perm nodup held).length_eq

/-- An arena holds at least as many values as there are keys with a value. -/
theorem length_le_size {a : Arena S α} {ks : List Key} (nodup : ks.Nodup)
    (held : ∀ k ∈ ks, ∃ v, a.get? k = some v) : ks.length ≤ a.size :=
  nodup.length_le_of_subset fun k mem => mem_keys.2 (held k mem)

/-- Removing a value leaves one value less. -/
theorem size_remove {a : Arena S α} {k : Key} {v : α} (h : a.get? k = some v) :
    (a.remove k).size + 1 = a.size := by
  have mem : k ∈ a.keys := mem_keys.2 ⟨v, h⟩
  rw [size, (a.keys_remove_perm k).length_eq, List.length_erase_of_mem mem]
  exact Nat.sub_add_cancel (List.length_pos_of_mem mem)

theorem size_remove_lt {a : Arena S α} {k : Key} {v : α} (h : a.get? k = some v) :
    (a.remove k).size < a.size := by
  have := size_remove h
  omega

end Arena

/-! ## Ascending keys -/

/-- One cell for every key issued so far, in ascending order; the cell of a removed key is empty. -/
structure Cells (α : Type) where
  cells : Array (Option α) := #[]
  deriving Repr, DecidableEq

namespace Cells

variable {α : Type}

/-- The value under a key. -/
def get? (c : Cells α) (k : Key) : Option α := c.cells[k]?.join

theorem lt_size_of_get? {c : Cells α} {k : Key} {v : α} (h : c.get? k = some v) :
    k < c.cells.size := by
  rcases Nat.lt_or_ge k c.cells.size with lt | ge
  · exact lt
  · simp [get?, Array.getElem?_eq_none ge] at h

instance : SlotMap Cells where
  empty := {}
  get? := get?
  keys c := (List.range c.cells.size).filter fun k => (c.get? k).isSome
  nextKey c := c.cells.size
  insert c v := ⟨c.cells.push (some v)⟩
  modify c k f := ⟨c.cells.modify k (Option.map f)⟩
  remove c k := ⟨c.cells.setIfInBounds k none⟩
  clear c := ⟨c.cells.map fun _ => none⟩
  Issued c k := k < c.cells.size
  get?_empty k := by simp [get?]
  get?_insert c v k := by
    simp only [get?, Array.getElem?_push]
    split <;> simp [*]
  get?_modify c k f j := by
    simp only [get?, Array.getElem?_modify]
    by_cases h : k = j
    · subst h
      rw [if_pos rfl, if_pos rfl]
      rcases c.cells[k]? with _ | _ | v <;> rfl
    · rw [if_neg h, if_neg (Ne.symm h)]
  get?_remove c k j := by
    simp only [get?, Array.getElem?_setIfInBounds]
    by_cases h : k = j
    · subst h
      rw [if_pos rfl, if_pos rfl]
      split <;> rfl
    · rw [if_neg h, if_neg (Ne.symm h)]
  get?_clear c k := by
    simp only [get?, Array.getElem?_map]
    cases c.cells[k]? <;> rfl
  not_issued_nextKey c := Nat.lt_irrefl _
  issued_of_get? := lt_size_of_get?
  not_issued_empty k := Nat.not_lt_zero k
  issued_insert c v k := by
    rw [Array.size_push, Nat.lt_succ_iff_lt_or_eq]
    exact or_comm
  issued_modify c k f j := by simp
  issued_remove c k j := by simp
  issued_clear c k := by simp
  mem_keys {_ c k} := by
    simp only [List.mem_filter, List.mem_range, and_iff_right_iff_imp]
    intro found
    obtain ⟨v, found⟩ := Option.isSome_iff_exists.1 found
    exact lt_size_of_get? found
  nodup_keys c := List.nodup_range.filter _

/-- The keys issued are those below the next one. -/
theorem issued_iff {a : Arena Cells α} {k : Key} : a.Issued k ↔ k < a.nextKey := Iff.rfl

end Cells

end Substrate
