import Substrate.Collector.Basic

/-!
# Substrate.Proofs.Collector.Claims

What a collector that watches slots knows of each of them. Its books hold a slot as untracked,
pending or released (`Books.claim`), and `Claim.add` and `Claim.remove` say what an addition and a
removal make of that. The books do just this to the slot in question, and nothing to any other
(`Books.add_cases`, `Books.remove_cases`); where they refuse, they are the books they were, although
each set is written to before the refusal is known.

For a collector this says that adding a slot makes that slot pending (`Collector.add_eq`), removing
it ends that (`Collector.remove_eq`), neither touches another slot, and a sweep lists what is
pending, each slot once (`mem_sweep`, `nodup_sweep`). A released slot is known but not pending, so a
sweep passes it by, whatever its storage is used for by then.
-/

namespace Substrate

/-- Where a slot stands with a collector. -/
inductive Claim where
  | untracked
  | pending
  | released
  deriving Repr, DecidableEq

namespace Claim

/-- What an addition makes of a claim. -/
def add : Claim → Except CollectorError Claim
  | untracked | released => .ok pending
  | pending => .error .alreadyTracked

/-- What a removal makes of a claim. -/
def remove : Claim → Except CollectorError Claim
  | untracked => .error .notTracked
  | pending => .ok released
  | released => .error .alreadyReleased

end Claim

namespace Books

variable {b : Books} {s : Slot}

/-- Where slot `s` stands. -/
def claim (b : Books) (s : Slot) : Claim :=
  if s ∈ b.released then .released else if s ∈ b.watched then .pending else .untracked

@[simp] theorem claim_eq_pending : b.claim s = .pending ↔ s ∈ b.watched ∧ s ∉ b.released := by
  unfold claim
  split <;> rename_i out
  · simp [out]
  · split <;> simp_all

@[simp] theorem claim_eq_released : b.claim s = .released ↔ s ∈ b.released := by
  unfold claim
  split <;> rename_i out
  · simp [out]
  · split <;> simp_all

@[simp] theorem claim_eq_untracked : b.claim s = .untracked ↔ s ∉ b.watched := by
  unfold claim
  split <;> rename_i out
  · simp [b.released_subset out]
  · split <;> simp_all

/-- The claim on a slot is decided by its membership of the two sets. -/
theorem claim_congr {b' : Books} (out : s ∈ b'.released ↔ s ∈ b.released)
    (known : s ∈ b'.watched ↔ s ∈ b.watched) : b'.claim s = b.claim s := by
  simp only [claim, out, known]

/-! ## Writing what is written already -/

/-- Only a slot that was released is armed again. -/
theorem rearm_eq (unreleased : s ∉ b.released) : b.rearm s = b := by
  simp only [rearm, List.erase_of_not_mem unreleased]

theorem enter_eq (known : s ∈ b.watched) : b.enter s = b := by
  simp only [enter, List.insert_of_mem known, if_pos known]

theorem handOver_eq (out : s ∈ b.released) : b.handOver s (b.released_subset out) = b := by
  simp only [handOver, List.insert_of_mem out]

/-! ## Additions and removals -/

/-- Arming a slot again changes the claim on it alone. -/
theorem claim_rearm (out : s ∈ b.released) (r : Slot) :
    (b.rearm s).claim r = if r = s then .pending else b.claim r := by
  have known := b.released_subset out
  by_cases same : r = s
  · subst same
    simp [rearm, known, b.nodup_released.mem_erase_iff]
  · rw [if_neg same]
    exact claim_congr (by simp [rearm, same, b.nodup_released.mem_erase_iff]) Iff.rfl

/-- Entering a slot changes the claim on it alone. -/
theorem claim_enter (fresh : s ∉ b.watched) (r : Slot) :
    (b.enter s).claim r = if r = s then .pending else b.claim r := by
  have unreleased : s ∉ b.released := mt (@b.released_subset s) fresh
  by_cases same : r = s
  · subst same
    simp [enter, unreleased]
  · rw [if_neg same]
    exact claim_congr Iff.rfl (by simp [enter, same])

/-- Handing a slot over changes the claim on it alone. -/
theorem claim_handOver (known : s ∈ b.watched) (r : Slot) :
    (b.handOver s known).claim r = if r = s then .released else b.claim r := by
  by_cases same : r = s
  · subst same
    simp [handOver]
  · rw [if_neg same]
    exact claim_congr (by simp [handOver, same]) Iff.rfl

/-- An addition does to its slot what `Claim.add` says, and nothing else; it changes nothing where
that refuses. -/
theorem add_cases (b : Books) (s : Slot) :
    (∃ e, (b.claim s).add = .error e ∧ b.add s = (.error e, b)) ∨
      ∃ q b', (b.claim s).add = .ok q ∧ b.add s = (.ok (), b') ∧
        ∀ r, b'.claim r = if r = s then q else b.claim r := by
  unfold add
  by_cases out : s ∈ b.released
  · have standing : b.claim s = .released := claim_eq_released.2 out
    refine .inr ⟨.pending, b.rearm s, ?_, ?_, claim_rearm out⟩
    · rw [standing, Claim.add]
    · simp only [if_pos out]
  · rw [rearm_eq out]
    by_cases known : s ∈ b.watched
    · have standing : b.claim s = .pending := claim_eq_pending.2 ⟨known, out⟩
      refine .inl ⟨.alreadyTracked, ?_, ?_⟩
      · rw [standing, Claim.add]
      · simp only [if_neg out, if_pos known, enter_eq known]
    · have standing : b.claim s = .untracked := claim_eq_untracked.2 known
      refine .inr ⟨.pending, b.enter s, ?_, ?_, claim_enter known⟩
      · rw [standing, Claim.add]
      · simp only [if_neg out, if_neg known]

/-- A removal does to its slot what `Claim.remove` says, and nothing else; it changes nothing where
that refuses. -/
theorem remove_cases (b : Books) (s : Slot) :
    (∃ e, (b.claim s).remove = .error e ∧ b.remove s = (.error e, b)) ∨
      ∃ q b', (b.claim s).remove = .ok q ∧ b.remove s = (.ok (), b') ∧
        ∀ r, b'.claim r = if r = s then q else b.claim r := by
  unfold remove
  by_cases known : s ∈ b.watched
  · by_cases out : s ∈ b.released
    · have standing : b.claim s = .released := claim_eq_released.2 out
      refine .inl ⟨.alreadyReleased, ?_, ?_⟩
      · rw [standing, Claim.remove]
      · simp only [dif_pos known, if_pos out, handOver_eq out]
    · have standing : b.claim s = .pending := claim_eq_pending.2 ⟨known, out⟩
      refine .inr ⟨.released, b.handOver s known, ?_, ?_, claim_handOver known⟩
      · rw [standing, Claim.remove]
      · simp only [dif_pos known, if_neg out]
  · have standing : b.claim s = .untracked := claim_eq_untracked.2 known
    refine .inl ⟨.notTracked, ?_, ?_⟩
    · rw [standing, Claim.remove]
    · simp only [dif_neg known]

end Books

namespace Collector

/-- The collector watches slots. Its books know none of them twice. -/
def Distinct (c : Collector) : Prop := ∃ b, c = watching b

theorem isPending_watching (b : Books) (s : Slot) :
    (watching b).isPending s = decide (b.claim s = .pending) := by
  simp [isPending, Bool.decide_and]

theorem distinct_ofLayout {l : Layout} (sized : l.isZeroSized = false) :
    (ofLayout l).Distinct := by
  rw [ofLayout, sized]
  exact ⟨_, rfl⟩

theorem isPending_ofLayout {l : Layout} (sized : l.isZeroSized = false) (s : Slot) :
    (ofLayout l).isPending s = false := by
  rw [ofLayout, sized]
  rfl

theorem released_ofLayout (l : Layout) : (ofLayout l).released = 0 := by
  unfold ofLayout
  split <;> rfl

theorem sweep_ofLayout (l : Layout) : (ofLayout l).sweep = [] := by
  unfold ofLayout
  split <;> rfl

variable {c : Collector} {s : Slot}

/-- A slot is refused only while it is pending, and is pending once it was added. -/
theorem add_eq (distinct : c.Distinct) (s : Slot) :
    (c.isPending s = true ∧ c.add s = .error .alreadyTracked) ∨
      (c.isPending s = false ∧ ∃ c', c.add s = .ok c' ∧ c'.Distinct ∧
        ∀ r, c'.isPending r = (decide (r = s) || c.isPending r)) := by
  obtain ⟨b, rfl⟩ := distinct
  rw [isPending_watching, add, tryAdd]
  rcases b.add_cases s with ⟨e, refused, same⟩ | ⟨q, b', done, next, after⟩
  · cases standing : b.claim s <;> rw [standing, Claim.add] at refused <;> cases refused
    rw [same]
    exact .inl ⟨rfl, rfl⟩
  · have free : b.claim s ≠ .pending := by
      intro standing
      rw [standing, Claim.add] at done
      cases done
    have armed : q = .pending := by
      cases standing : b.claim s <;> rw [standing, Claim.add] at done <;> cases done <;> rfl
    rw [next]
    refine .inr ⟨decide_eq_false free, _, rfl, ⟨b', rfl⟩, fun r => ?_⟩
    rw [isPending_watching, isPending_watching, after r, armed]
    by_cases same : r = s <;> simp [same]

/-- Only a pending slot can be removed, and it is no longer pending then. -/
theorem remove_eq (distinct : c.Distinct) (s : Slot) :
    (c.isPending s = false ∧ ∃ e, c.remove s = .error e) ∨
      (c.isPending s = true ∧ ∃ c', c.remove s = .ok c' ∧ c'.Distinct ∧
        ∀ r, c'.isPending r = (!decide (r = s) && c.isPending r)) := by
  obtain ⟨b, rfl⟩ := distinct
  rw [isPending_watching, remove, tryRemove]
  rcases b.remove_cases s with ⟨e, refused, same⟩ | ⟨q, b', done, next, after⟩
  · have free : b.claim s ≠ .pending := by
      intro standing
      rw [standing, Claim.remove] at refused
      cases refused
    rw [same]
    exact .inl ⟨decide_eq_false free, e, rfl⟩
  · cases standing : b.claim s <;> rw [standing, Claim.remove] at done <;> cases done
    rw [next]
    refine .inr ⟨rfl, _, rfl, ⟨b', rfl⟩, fun r => ?_⟩
    rw [isPending_watching, isPending_watching, after r]
    by_cases same : r = s <;> simp [same]

/-! ## Sweeps -/

/-- A sweep lists exactly what is pending. -/
theorem mem_sweep (distinct : c.Distinct) (s : Slot) : s ∈ c.sweep ↔ c.isPending s = true := by
  obtain ⟨b, rfl⟩ := distinct
  simp [sweep, isPending_watching, b.mem_watched]

/-- Where no slot was handed to an owner yet, a new slot is swept first. -/
theorem sweep_add (distinct : c.Distinct) (unreleased : c.released = 0) {c' : Collector}
    (added : c.add s = .ok c') : c'.released = 0 ∧ c'.sweep = s :: c.sweep := by
  obtain ⟨b, rfl⟩ := distinct
  have none : b.released = [] := List.length_eq_zero_iff.1 unreleased
  have out : s ∉ b.released := by simp [none]
  rw [add, tryAdd, Books.add, if_neg out, Books.rearm_eq out] at added
  split at added
  · cases added
  · next fresh =>
    cases added
    have unlisted : ∀ l : List Slot, l.filter (fun r => !b.released.contains r) = l := by
      simp [none]
    refine ⟨unreleased, ?_⟩
    simp only [sweep, Books.enter, if_neg fresh, unlisted]

/-- No sweep lists a slot twice. -/
theorem nodup_sweep (distinct : c.Distinct) : c.sweep.Nodup := by
  obtain ⟨b, rfl⟩ := distinct
  exact b.nodup_tracked.sublist List.filter_sublist

end Collector

end Substrate
