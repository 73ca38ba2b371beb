import Mathlib.Algebra.Group.End
import Mathlib.Data.List.Forall2
import Substrate.Proofs.Shape.Alike
import Substrate.Proofs.Shape.Forking

/-!
# Substrate.Proofs.Shape.Renaming

Other names for the nodes of a shape. `rename` puts names through a map and leaves outline and
payloads alone. Shapes that are alike but for new names are renamings of each other, by a
permutation of names that keeps the old ones (`Shape.exists_rename_of_alike`).
-/

namespace Substrate

/-! ## Permutations -/

/-- The names are the same old one, or both are new. -/
def SameOrNew (Old : Nat → Prop) (m j : Nat) : Prop := Old m ∧ m = j ∨ ¬ Old m ∧ ¬ Old j

/-- A permutation that keeps what is old makes new out of new. -/
theorem not_apply_of_fixes {Old : Nat → Prop} {ρ : Equiv.Perm Nat} (fixes : ∀ k, Old k → ρ k = k)
    {m : Nat} (new : ¬ Old m) : ¬ Old (ρ m) := by
  intro old
  have same := ρ.injective (fixes (ρ m) old)
  exact new (same ▸ old)

/-- Lists without repetition that differ in new names alone are each other's images. -/
theorem exists_perm_map_eq {Old : Nat → Prop} {l l' : List Nat}
    (same : List.Forall₂ (SameOrNew Old) l l') (nodup : l.Nodup) (nodup' : l'.Nodup) :
    ∃ ρ : Equiv.Perm Nat, (∀ k, Old k → ρ k = k) ∧ l.map ρ = l' := by
  induction same with
  | nil => exact ⟨1, fun _ _ => rfl, rfl⟩
  | @cons a b l l' head tail ih =>
    rw [List.nodup_cons] at nodup nodup'
    obtain ⟨ρ, fixes, rfl⟩ := ih nodup.2 nodup'.2
    -- What `a` becomes changes places with what it is to become.
    refine ⟨Equiv.swap (ρ a) b * ρ, fun k old => ?_, ?_⟩
    · rw [Equiv.Perm.mul_apply, fixes k old]
      rcases head with ⟨oldA, rfl⟩ | ⟨newA, newB⟩
      · rw [fixes a oldA, Equiv.swap_self]
        rfl
      · have newA' := not_apply_of_fixes fixes newA
        refine Equiv.swap_apply_of_ne_of_ne ?_ ?_
        · rintro rfl
          exact newA' old
        · rintro rfl
          exact newB old
    · rw [List.map_cons, Equiv.Perm.mul_apply, Equiv.swap_apply_left]
      congr 1
      refine List.map_congr_left fun x mem => ?_
      rw [Equiv.Perm.mul_apply]
      refine Equiv.swap_apply_of_ne_of_ne (fun same => ?_) fun same => ?_
      · exact nodup.1 (ρ.injective same ▸ mem)
      · exact nodup'.1 (same ▸ List.mem_map_of_mem mem)

/-! ## Renamed shapes -/

namespace Shape

variable {κ κ' α : Type}

def rename (f : κ → κ') : Shape (κ × α) → Shape (κ' × α)
  | nil => nil
  | node x l r => node (f x.1, x.2) (l.rename f) (r.rename f)

@[simp] theorem topKey_rename (f : κ → κ') (s : Shape (κ × α)) :
    (s.rename f).topKey = s.topKey.map f := by
  cases s <;> rfl

@[simp] theorem keys_rename (f : κ → κ') (s : Shape (κ × α)) :
    (s.rename f).keys = s.keys.map f := by
  induction s with
  | nil => rfl
  | node x l r ihl ihr => simp [rename, ihl, ihr]

@[simp] theorem payloads_rename (f : κ → κ') (s : Shape (κ × α)) :
    (s.rename f).payloads = s.payloads := by
  induction s with
  | nil => rfl
  | node x l r ihl ihr => rw [rename, payloads, payloads, ihl, ihr]

theorem child_rename (f : κ → κ') (s : Shape (κ × α)) (side : Side) :
    (s.rename f).child side = (s.child side).rename f := by
  cases s <;> cases side <;> rfl

theorem rename_hang (f : κ → κ') (x : κ × α) (side : Side) (s other : Shape (κ × α)) :
    (hang x side s other).rename f = hang (f x.1, x.2) side (s.rename f) (other.rename f) := by
  cases side <;> rfl

/-- Only the names of the shape matter. -/
theorem rename_eq_self {f : κ → κ} {s : Shape (κ × α)} (fixes : ∀ k ∈ s.keys, f k = k) :
    s.rename f = s := by
  induction s with
  | nil => rfl
  | node x l r ihl ihr =>
    simp only [keys_node, List.mem_cons, List.mem_append] at fixes
    rw [rename, fixes x.1 (.inl rfl), ihl fun k mem => fixes k (.inr (.inl mem)),
      ihr fun k mem => fixes k (.inr (.inr mem))]

/-- Payloads and names make up a shape. -/
theorem eq_rename {f : κ → κ'} {s : Shape (κ × α)} {c : Shape (κ' × α)}
    (payloads : c.payloads = s.payloads) (keys : s.keys.map f = c.keys) : c = s.rename f := by
  induction s generalizing c with
  | nil =>
    cases c with
    | nil => rfl
    | node y l' r' => cases payloads
  | node x l r ihl ihr =>
    cases c with
    | nil => cases payloads
    | node y l' r' =>
      simp only [Shape.payloads, node.injEq] at payloads
      obtain ⟨data, sameL, sameR⟩ := payloads
      simp only [keys_node, List.map_cons, List.map_append, List.cons.injEq] at keys
      obtain ⟨name, below⟩ := keys
      have length : (l.keys.map f).length = l'.keys.length := by
        rw [List.length_map, length_keys, length_keys, ← size_payloads, ← size_payloads, sameL]
      obtain ⟨keysL, keysR⟩ := List.append_inj below length
      rw [rename, ← ihl sameL keysL, ← ihr sameR keysR, name, ← data]

/-- Alike shapes have corresponding names in pre-order. -/
theorem Alike.forall₂_keys {R : κ → κ' → Prop} {s : Shape (κ × α)} {c : Shape (κ' × α)}
    (h : Alike R s c) : List.Forall₂ R s.keys c.keys := by
  induction h with
  | nil => exact .nil
  | node name _ _ ihl ihr =>
    rw [keys_node, keys_node]
    exact .cons name (List.rel_append ihl ihr)

/-- A shape is like itself under a relation that its own names are in. -/
theorem alike_refl {R : κ → κ → Prop} {s : Shape (κ × α)} (refl : ∀ k ∈ s.keys, R k k) :
    Alike R s s := by
  induction s with
  | nil => exact .nil
  | node x l r ihl ihr =>
    simp only [keys_node, List.mem_cons, List.mem_append] at refl
    exact .node (refl x.1 (.inl rfl)) (ihl fun k mem => refl k (.inr (.inl mem)))
      (ihr fun k mem => refl k (.inr (.inr mem)))

/-- Shapes of the same payloads are alike if any two names of theirs correspond. -/
theorem alike_of_payloads {R : κ → κ' → Prop} {s : Shape (κ × α)} {c : Shape (κ' × α)}
    (same : s.payloads = c.payloads) (all : ∀ n ∈ s.keys, ∀ k ∈ c.keys, R n k) : Alike R s c := by
  induction s generalizing c with
  | nil =>
    cases c with
    | nil => exact .nil
    | node y l' r' => cases same
  | node x l r ihl ihr =>
    cases c with
    | nil => cases same
    | node y l' r' =>
      obtain ⟨k, v⟩ := y
      simp only [Shape.payloads, node.injEq] at same
      obtain ⟨rfl, sameL, sameR⟩ := same
      simp only [keys_node, List.mem_cons, List.mem_append] at all
      exact .node (all _ (.inl rfl) _ (.inl rfl))
        (ihl sameL fun n mem k mem' => all n (.inr (.inl mem)) k (.inr (.inl mem')))
        (ihr sameR fun n mem k mem' => all n (.inr (.inr mem)) k (.inr (.inr mem')))

/-- Pieces that are alike but for new names are renamings of each other, all of them by one
permutation that keeps the old names. -/
theorem exists_rename_of_alike {Old : Nat → Prop} {s c s' c' : Shape (Nat × α)}
    (alike : Alike (SameOrNew Old) s c) (alike' : Alike (SameOrNew Old) s' c')
    (nodup : (s.keys ++ s'.keys).Nodup) (nodup' : (c.keys ++ c'.keys).Nodup) :
    ∃ ρ : Equiv.Perm Nat, (∀ k, Old k → ρ k = k) ∧ c = s.rename ρ ∧ c' = s'.rename ρ := by
  have names := List.rel_append alike.forall₂_keys alike'.forall₂_keys
  obtain ⟨ρ, fixes, image⟩ := exists_perm_map_eq names nodup nodup'
  rw [List.map_append] at image
  have length : (s.keys.map ρ).length = c.keys.length := by
    rw [List.length_map, alike.forall₂_keys.length_eq]
  obtain ⟨first, second⟩ := List.append_inj image length
  exact ⟨ρ, fixes, eq_rename alike.payloads.symm first, eq_rename alike'.payloads.symm second⟩

end Shape

/-! ## Renamed contexts -/

namespace Context

variable {κ α : Type}

/-- A renaming that keeps the names around a place goes on in the place. -/
theorem rename_plug {f : κ → κ} {C : Context (κ × α)} (fixes : ∀ k ∈ keys C, f k = k)
    (s : Shape (κ × α)) : (plug C s).rename f = plug C (s.rename f) := by
  induction C generalizing s with
  | nil => rfl
  | cons e C ih =>
    simp only [keys_cons, List.mem_cons, List.mem_append] at fixes
    rw [plug, ih (fun k mem => fixes k (.inr (.inr mem))), Shape.rename_hang,
      fixes _ (.inl rfl), Shape.rename_eq_self fun k mem => fixes k (.inr (.inl mem)), plug]

end Context

namespace Fork

variable {κ α : Type}

/-- A renaming that keeps the names around two places goes on in the places. -/
theorem rename_plug {f : κ → κ} {F : Fork (κ × α)} (fixes : ∀ k ∈ F.keys, f k = k)
    (u w : Shape (κ × α)) : (F.plug u w).rename f = F.plug (u.rename f) (w.rename f) := by
  simp only [keys, List.mem_append, List.mem_cons] at fixes
  rw [plug, Context.rename_plug fun k mem => fixes k (.inr (.inr (.inr mem))), Shape.rename_hang,
    fixes _ (.inr (.inl rfl)), Context.rename_plug fun k mem => fixes k (.inl mem),
    Context.rename_plug fun k mem => fixes k (.inr (.inr (.inl mem))), plug]

end Fork

end Substrate
