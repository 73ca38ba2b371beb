import Substrate.Pool.Layout

/-!
# Substrate.Collector.Basic

A guard for objects that have no owner yet. An object is added when it is made and removed when it
finds its owner; what is still pending when the collector goes out of use is reclaimed.

A collector knows objects by their slot alone. A slot is unknown to it, pending or released: `add`
makes it pending, `remove` makes a pending one released, and a released slot may be added again,
since its storage may hold a new object by then. Objects without bytes share one slot and are
counted instead.

What is known of slots is kept in `Books`: their order, and the set of those that were added, which
includes the set of those that were released. So the number of pending slots is a difference.
-/

namespace Substrate

/-- Why a collector refuses a slot. -/
inductive CollectorError where
  | notTracked
  | alreadyTracked
  | alreadyReleased
  deriving Repr, DecidableEq

/-- What a collector knows of slots: the order they were registered in, and two sets, kept as lists
without repetition. -/
structure Books where
  /-- The slots that were added, the latest registration first. -/
  tracked : List Slot := []
  /-- The set of these slots. -/
  watched : List Slot := []
  /-- The set of those that were handed to an owner. -/
  released : List Slot := []
  nodup_tracked : tracked.Nodup := by simp
  watched_perm : watched.Perm tracked := by simp
  nodup_released : released.Nodup := by simp
  released_subset : released ⊆ watched := by simp
  deriving Repr, DecidableEq

namespace Books

theorem mem_watched (b : Books) {s : Slot} : s ∈ b.watched ↔ s ∈ b.tracked := b.watched_perm.mem_iff

theorem nodup_watched (b : Books) : b.watched.Nodup := b.watched_perm.nodup_iff.2 b.nodup_tracked

/-- Strikes a slot off the released ones. -/
def rearm (b : Books) (s : Slot) : Books :=
  { b with
    released := b.released.erase s
    nodup_released := b.nodup_released.erase s
    released_subset := fun _ mem => b.released_subset (List.mem_of_mem_erase mem) }

/-- Enters a slot into the set of those that were added, and registers it if it is new there. -/
def enter (b : Books) (s : Slot) : Books :=
  { b with
    tracked := if s ∈ b.watched then b.tracked else s :: b.tracked
    watched := b.watched.insert s
    nodup_tracked := by
      split
      · exact b.nodup_tracked
      · next fresh => exact List.nodup_cons.2 ⟨mt b.mem_watched.2 fresh, b.nodup_tracked⟩
    watched_perm := by
      split
      · next known => rw [List.insert_of_mem known]; exact b.watched_perm
      · next fresh => rw [List.insert_of_not_mem fresh]; exact b.watched_perm.cons s
    released_subset := fun _ mem => List.mem_insert_of_mem (b.released_subset mem) }

/-- Enters a slot that was added into the set of the released ones. -/
def handOver (b : Books) (s : Slot) (known : s ∈ b.watched) : Books :=
  { b with
    released := b.released.insert s
    nodup_released := by
      by_cases old : s ∈ b.released
      · rw [List.insert_of_mem old]
        exact b.nodup_released
      · rw [List.insert_of_not_mem old]
        exact List.nodup_cons.2 ⟨old, b.nodup_released⟩
    released_subset := fun _ mem => by
      cases List.mem_insert_iff.1 mem with
      | inl same => exact same ▸ known
      | inr old => exact b.released_subset old }

/-- Starts watching slot `s`: the answer, and the books after it. A released slot is pending again,
at the place of its first registration. -/
def add (b : Books) (s : Slot) : Except CollectorError Unit × Books :=
  let armed := b.rearm s
  if s ∈ b.released then (.ok (), armed)
  else if s ∈ armed.watched then (.error .alreadyTracked, armed.enter s)
  else (.ok (), armed.enter s)

/-- Withdraws the claim on slot `s`: the answer, and the books after it. -/
def remove (b : Books) (s : Slot) : Except CollectorError Unit × Books :=
  if known : s ∈ b.watched then
    if s ∈ b.released then (.error .alreadyReleased, b.handOver s known)
    else (.ok (), b.handOver s known)
  else (.error .notTracked, b)

end Books

/-- Either what is known of slots, or the counts of objects without bytes. -/
inductive Collector where
  | watching (books : Books)
  | counting (pending released : Nat)
  deriving Repr, DecidableEq

namespace Collector

/-- A new collector for objects of the given layout. -/
def ofLayout (l : Layout) : Collector := if l.isZeroSized then counting 0 0 else watching {}

/-- Starts watching the object in slot `s`: the answer, and the collector after it. -/
def tryAdd : Collector → Slot → Except CollectorError Unit × Collector
  | counting p r, _ => (.ok (), counting (p + 1) r)
  | watching b, s => ((b.add s).1, watching (b.add s).2)

/-- Withdraws the claim on slot `s`: the answer, and the collector after it. Nothing is
destroyed. -/
def tryRemove : Collector → Slot → Except CollectorError Unit × Collector
  | counting 0 r, _ => (.error .notTracked, counting 0 r)
  | counting (p + 1) r, _ => (.ok (), counting p (r + 1))
  | watching b, s => ((b.remove s).1, watching (b.remove s).2)

/-- The collector that an attempt leaves, or its refusal. -/
def ofAttempt (attempt : Except CollectorError Unit × Collector) :
    Except CollectorError Collector :=
  attempt.1.map fun _ => attempt.2

/-- The collector that watches the object in slot `s` too, unless it refuses. -/
def add (c : Collector) (s : Slot) : Except CollectorError Collector := ofAttempt (c.tryAdd s)

/-- The collector without its claim on slot `s`, unless it refuses. -/
def remove (c : Collector) (s : Slot) : Except CollectorError Collector :=
  ofAttempt (c.tryRemove s)

/-- Would the object in slot `s` be reclaimed if the collector went out of use now? -/
def isPending : Collector → Slot → Bool
  | counting p _, _ => 0 < p
  | watching b, s => b.watched.contains s && !b.released.contains s

/-- How many objects would be reclaimed. -/
def pending : Collector → Nat
  | counting p _ => p
  | watching b => b.watched.length - b.released.length

/-- How many objects were handed to an owner. -/
def released : Collector → Nat
  | counting _ r => r
  | watching b => b.released.length

/-- The slots to reclaim when the collector goes out of use, in that order: the pending ones, the
latest registration first. -/
def sweep : Collector → List Slot
  | counting p _ => List.replicate p .dangling
  | watching b => b.tracked.filter fun s => !b.released.contains s

end Collector

/-! ## Counts -/

namespace Books

/-- The released slots are those registrations that are not reclaimed. -/
theorem released_perm (b : Books) :
    b.released.Perm (b.tracked.filter fun s => b.released.contains s) := by
  refine (List.perm_ext_iff_of_nodup b.nodup_released (b.nodup_tracked.filter _)).2 fun s => ?_
  rw [List.mem_filter, List.contains_iff_mem]
  constructor
  · exact fun mem => ⟨b.mem_watched.1 (b.released_subset mem), mem⟩
  · exact And.right

end Books

namespace Collector

/-- A sweep reclaims as many objects as are pending. -/
theorem length_sweep (c : Collector) : c.sweep.length = c.pending := by
  cases c with
  | watching b =>
    have split := List.length_eq_countP_add_countP (fun s => b.released.contains s) (l := b.tracked)
    rw [sweep, pending, b.watched_perm.length_eq, b.released_perm.length_eq]
    simp only [List.countP_eq_length_filter, Bool.not_eq_true, Bool.decide_eq_false] at split
    omega
  | counting p r => simp [sweep, pending]

end Collector

namespace CollectorError

/-- The text for a reader. -/
def message : CollectorError → String
  | notTracked => "pointer is not tracked by this collector"
  | alreadyTracked => "pointer is already tracked by this collector"
  | alreadyReleased => "pointer was already released"

/-- The name of the cause. -/
def rendering : CollectorError → Text.Rendering
  | notTracked => .record "NotTracked" []
  | alreadyTracked => .record "AlreadyTracked" []
  | alreadyReleased => .record "AlreadyReleased" []

end CollectorError

end Substrate
