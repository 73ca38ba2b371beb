import Std.Data.TreeMap

/-!
# Substrate.Proofs.Registers

Numbered registers. Each look-up after a change is told by one `if` (`getElem?_insert`,
`getElem?_erase`). As a list, a register that is filled is one entry beside those of the other
registers (`toList_insert`), and so is one that was filled before (`toList_of_getElem?`).
-/

namespace Substrate

namespace Registers

variable {β : Type} {m : Std.TreeMap Nat β} {k : Nat} {v : β}

theorem getElem?_insert (m : Std.TreeMap Nat β) (k j : Nat) (v : β) :
    (m.insert k v)[j]? = if j = k then some v else m[j]? := by
  rw [Std.TreeMap.getElem?_insert]
  simp only [Std.compare_eq_iff_eq, eq_comm (a := k)]

theorem getElem?_erase (m : Std.TreeMap Nat β) (k j : Nat) :
    (m.erase k)[j]? = if j = k then none else m[j]? := by
  rw [Std.TreeMap.getElem?_erase]
  simp only [Std.compare_eq_iff_eq, eq_comm (a := k)]

/-- Maps with the same look-ups have the same entries. -/
theorem toList_perm_of_getElem? {m m' : Std.TreeMap Nat β} (same : ∀ j : Nat, m[j]? = m'[j]?) :
    m.toList.Perm m'.toList :=
  Std.TreeMap.equiv_iff_toList_perm.1 (Std.TreeMap.Equiv.of_forall_constGet?_eq same)

/-- An empty register that is filled adds one entry. -/
theorem toList_insert_of_fresh (fresh : m[k]? = none) (v : β) :
    (m.insert k v).toList.Perm ((k, v) :: m.toList) := by
  refine Std.TreeMap.toList_insert_perm.trans (List.Perm.cons _ ?_)
  rw [List.filter_eq_self.2]
  rintro ⟨j, w⟩ mem
  rw [Std.TreeMap.mem_toList_iff_getElem?_eq_some] at mem
  have other : k ≠ j := by
    rintro rfl
    rw [fresh] at mem
    cases mem
  simp [other]

/-- A filled register is one entry beside those of the others. -/
theorem toList_insert (m : Std.TreeMap Nat β) (k : Nat) (v : β) :
    (m.insert k v).toList.Perm ((k, v) :: (m.erase k).toList) := by
  refine List.Perm.trans (toList_perm_of_getElem? fun j => ?_)
    (toList_insert_of_fresh (m := m.erase k) (by simp) v)
  rw [getElem?_insert, getElem?_insert, getElem?_erase]
  split <;> rfl

/-- A register that holds something is one entry beside those of the others. -/
theorem toList_of_getElem? (held : m[k]? = some v) :
    m.toList.Perm ((k, v) :: (m.erase k).toList) := by
  refine List.Perm.trans (toList_perm_of_getElem? fun j => ?_) (toList_insert m k v)
  rw [getElem?_insert]
  split
  · next same => rw [same, held]
  · rfl

/-- Erasing a key without a value takes no entry away. -/
theorem toList_erase_of_fresh (fresh : m[k]? = none) : (m.erase k).toList.Perm m.toList := by
  refine toList_perm_of_getElem? fun j => ?_
  rw [getElem?_erase]
  split
  · next same => rw [same, fresh]
  · rfl

end Registers

end Substrate
