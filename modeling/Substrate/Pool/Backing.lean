import Substrate.Pool.Layout

/-!
# Substrate.Pool.Backing

Where a pool gets its storage from. A backing may refuse any request; what it may not do is hand
out a slot that is in use, which `LawfulBacking` states through the view `allocated`.

`Rationed` is the concrete backing: it numbers the slots it hands out, and refuses the attempts it
is told to refuse and all attempts above a limit. With neither it is an endless supply.
-/

namespace Substrate

/-- A supply of slots. `allocated` lists the slots handed out and not given back. -/
class Backing (β : Type) where
  allocate : β → Layout → Except AllocationError Slot × β
  deallocate : β → Layout → Slot → β
  allocated : β → List Slot

/-- A supply that hands out only slots that are not in use, and hands out none when it refuses. -/
class LawfulBacking (β : Type) [Backing β] : Prop where
  /-- A slot that is handed out was free and is in use from then on. -/
  allocated_of_ok : ∀ {b b' : β} {l : Layout} {s : Slot},
    Backing.allocate b l = (.ok s, b') →
      s ∉ Backing.allocated b ∧ Backing.allocated b' = s :: Backing.allocated b
  /-- A refusal changes nothing about the slots in use. -/
  allocated_of_error : ∀ {b b' : β} {l : Layout} {e : AllocationError},
    Backing.allocate b l = (.error e, b') → Backing.allocated b' = Backing.allocated b
  /-- A slot in use that is given back is no longer in use. Nothing is said of other slots. -/
  allocated_deallocate : ∀ {b : β} {s : Slot} (l : Layout), s ∈ Backing.allocated b →
    Backing.allocated (Backing.deallocate b l s) = (Backing.allocated b).erase s

/-- A supply that numbers its slots 1, 2, 3, … and never hands one out again. The attempts in
`refused`, counted from one, fail, and so do all attempts while `limit` slots are in use. -/
structure Rationed where
  refused : List Nat := []
  limit : Option Nat := none
  attempts : Nat := 0
  issued : Nat := 0
  inUse : List Slot := []
  /-- The slots given back, the latest first. -/
  returned : List Slot := []
  inUse_le : ∀ s ∈ inUse, s ≤ issued := by simp

namespace Rationed

/-- The endless supply, of which nothing is in use. -/
def endless : Rationed := {}

/-- Does the next attempt fail? -/
def refuses (r : Rationed) : Bool :=
  r.refused.contains (r.attempts + 1) || r.limit.any (· ≤ r.inUse.length)

/-- The supply after an attempt that was refused. -/
def afterRefusal (r : Rationed) : Rationed := { r with attempts := r.attempts + 1 }

/-- The supply after it handed out slot `issued + 1`. -/
def afterIssue (r : Rationed) : Rationed :=
  { r with
    attempts := r.attempts + 1
    issued := r.issued + 1
    inUse := (r.issued + 1) :: r.inUse
    inUse_le := by
      intro s h
      rcases List.mem_cons.1 h with rfl | h
      · exact Nat.le_refl _
      · exact Nat.le_succ_of_le (r.inUse_le s h) }

/-- The supply after slot `s` came back. -/
def afterReturn (r : Rationed) (s : Slot) : Rationed :=
  { r with
    inUse := r.inUse.erase s
    returned := s :: r.returned
    inUse_le := fun t h => r.inUse_le t (List.mem_of_mem_erase h) }

/-- The slots that came back since the supply was `before`, in order. -/
def returnedSince (r before : Rationed) : List Slot :=
  (r.returned.take (r.returned.length - before.returned.length)).reverse

instance : Backing Rationed where
  allocate r l :=
    if r.refuses then (.error (.noMemory l), r.afterRefusal)
    else (.ok (r.issued + 1), r.afterIssue)
  deallocate r _ s := r.afterReturn s
  allocated := inUse

instance : LawfulBacking Rationed where
  allocated_of_ok := by
    intro b b' l s h
    simp only [Backing.allocate] at h
    split at h
    · simp at h
    · simp only [Prod.mk.injEq, Except.ok.injEq] at h
      obtain ⟨rfl, rfl⟩ := h
      exact ⟨fun mem => Nat.not_succ_le_self _ (b.inUse_le _ mem), rfl⟩
  allocated_of_error := by
    intro b b' l e h
    simp only [Backing.allocate] at h
    split at h
    · simp only [Prod.mk.injEq] at h
      rw [← h.2]
      rfl
    · simp at h
  allocated_deallocate := fun _ _ => rfl

end Rationed

end Substrate
