import Mathlib.Data.List.Dedup
import Mathlib.Data.List.Pairwise
import Mathlib.Data.List.Sort
import Substrate.Proofs.Collector.Calls

/-!
# Substrate.Proofs.Collector.Order

The order in which a sweep reclaims. An addition registers its slot in front of all others, but only
the first time: a released slot that is added again stays where it is. So the registrations after a
run are the slots that were added, each at the place of its first addition (`exists_tracked_run`).

The main result is `sweepOrder_of_run`. Where no slot is added twice, a sweep begins with what was
added last. In general it does so exactly if the slots that are pending were added for the last time
in the order they were added for the first time.
-/

namespace Substrate

/-! ## The places of repeated elements -/

section Places

variable {α : Type} [DecidableEq α]

/-- Where each element is kept at its last place only, these places are in order. -/
theorem pairwise_dedup (l : List α) :
    l.dedup.Pairwise fun a b => l.reverse.idxOf b < l.reverse.idxOf a := by
  induction l with
  | nil => exact .nil
  | cons x l ih =>
    have old : ∀ a ∈ l, (x :: l).reverse.idxOf a = l.reverse.idxOf a := by
      intro a mem
      rw [List.reverse_cons, List.idxOf_append_of_mem (List.mem_reverse.2 mem)]
    have kept : l.dedup.Pairwise fun a b =>
        (x :: l).reverse.idxOf b < (x :: l).reverse.idxOf a := by
      refine ih.imp_of_mem fun {a b} memA memB before => ?_
      rwa [old a (List.mem_dedup.1 memA), old b (List.mem_dedup.1 memB)]
    by_cases again : x ∈ l
    · rwa [List.dedup_cons_of_mem again]
    · rw [List.dedup_cons_of_notMem again]
      refine kept.cons fun b memB => ?_
      have mem := List.mem_reverse.2 (List.mem_dedup.1 memB)
      have last : (x :: l).reverse.idxOf x = l.reverse.length := by
        rw [List.reverse_cons, List.idxOf_append_of_notMem (mt List.mem_reverse.1 again),
          List.idxOf_cons_self, Nat.add_zero]
      rw [last, old b (List.mem_dedup.1 memB)]
      exact List.idxOf_lt_length_of_mem mem

/-- First places in reverse and last places in reverse agree on some elements exactly if these have
their last places in the order of their first. -/
theorem filter_dedup_eq_iff (l : List α) (p : α → Bool) :
    l.reverse.dedup.filter p = l.dedup.reverse.filter p ↔
      ∀ a b, a ∈ l → b ∈ l → p a → p b → l.idxOf a < l.idxOf b →
        l.reverse.idxOf b < l.reverse.idxOf a := by
  have byFirst : (l.reverse.dedup.filter p).Pairwise fun a b => l.idxOf b < l.idxOf a := by
    have sorted := (pairwise_dedup l.reverse).filter p
    rwa [List.reverse_reverse] at sorted
  have byLast : (l.dedup.reverse.filter p).Pairwise fun a b =>
      l.reverse.idxOf a < l.reverse.idxOf b :=
    (List.pairwise_reverse.2 (pairwise_dedup l)).filter p
  constructor
  · intro same a b memA memB keptA keptB before
    -- One list is in both orders, so these are one order on its elements.
    have listed : ∀ c, c ∈ l → p c → c ∈ l.dedup.reverse.filter p := by
      intro c mem kept
      simpa using And.intro mem kept
    refine List.Pairwise.forall_of_forall_of_flip
      (R := fun a b => l.idxOf a < l.idxOf b → l.reverse.idxOf b < l.reverse.idxOf a)
      (fun c _ before => absurd before (Nat.lt_irrefl _)) ?_ ?_
      (listed a memA keptA) (listed b memB keptB) before
    · exact (same ▸ byFirst).imp fun after before => absurd before (Nat.lt_asymm after)
    · refine byLast.imp ?_
      exact fun after _ => after
  · intro agree
    have perm : (l.reverse.dedup.filter p).Perm (l.dedup.reverse.filter p) := by
      refine List.Perm.filter p ?_
      refine (List.perm_ext_iff_of_nodup (List.nodup_dedup _)
        (List.nodup_reverse.2 (List.nodup_dedup _))).2 fun a => ?_
      simp
    have sorted : (l.reverse.dedup.filter p).Pairwise fun a b =>
        l.reverse.idxOf a < l.reverse.idxOf b := by
      refine byFirst.imp_of_mem fun {a b} memA memB before => ?_
      simp only [List.mem_filter, List.mem_dedup, List.mem_reverse] at memA memB
      exact agree b a memB.1 memA.1 memB.2 memA.2 before
    exact perm.eq_of_pairwise (fun a b _ _ ab ba => absurd ba (Nat.lt_asymm ab)) sorted byLast

end Places

namespace Books

/-- Only a slot that is not registered yet is put in front. -/
theorem tracked_add (b : Books) (s : Slot) : (b.add s).2.tracked = (s :: b.tracked).dedup := by
  by_cases known : s ∈ b.watched
  · have same : (b.add s).2.tracked = b.tracked := by
      unfold add
      split
      · rfl
      · next unreleased =>
        rw [rearm_eq unreleased, if_pos known, enter_eq known]
    rw [same, List.dedup_cons_of_mem (b.mem_watched.1 known), b.nodup_tracked.dedup]
  · have unreleased : s ∉ b.released := mt (@b.released_subset s) known
    have fresh : s ∉ b.tracked := mt b.mem_watched.2 known
    have registered : (b.add s).2.tracked = s :: b.tracked := by
      unfold add
      rw [if_neg unreleased, rearm_eq unreleased, if_neg known]
      exact if_neg known
    rw [registered, List.dedup_cons_of_notMem fresh, b.nodup_tracked.dedup]

/-- Removing a slot leaves it in the list of tracked ones. -/
theorem tracked_remove (b : Books) (s : Slot) : (b.remove s).2.tracked = b.tracked := by
  unfold remove
  split
  · split <;> rfl
  · rfl

end Books

namespace Call

def added : Call → Option Slot
  | add s => some s
  | remove _ => none

end Call

namespace Collector

/-- The slots that a run adds, in order. An addition that is refused does not count. -/
def additions (c : Collector) (calls : List Call) : List Slot :=
  (c.granted calls).filterMap Call.added

/-- An accepted attempt leaves the collector that it answers with. -/
theorem eq_of_ofAttempt {answer : Except CollectorError Unit} {after next : Collector}
    (done : ofAttempt (answer, after) = .ok next) : next = after := by
  cases answer with
  | error e => cases done
  | ok _ => exact (Except.ok.inj done).symm

/-- A slot that is added goes to the front, unless it is tracked already. -/
theorem tracked_of_call {b : Books} {x : Call} {next : Collector}
    (done : (watching b).call x = .ok next) :
    ∃ b', next = watching b' ∧ b'.tracked = (x.added.toList ++ b.tracked).dedup := by
  cases x with
  | add s => exact ⟨(b.add s).2, eq_of_ofAttempt done, b.tracked_add s⟩
  | remove s =>
    refine ⟨(b.remove s).2, eq_of_ofAttempt done, ?_⟩
    exact (b.tracked_remove s).trans b.nodup_tracked.dedup.symm

/-- The registrations after a run: what it adds stands before what was there, each slot at the
place of its first addition. -/
theorem exists_tracked_run (b : Books) (calls : List Call) :
    ∃ b', (watching b).run calls = watching b' ∧
      b'.tracked = (((watching b).additions calls).reverse ++ b.tracked).dedup := by
  induction calls generalizing b with
  | nil => exact ⟨b, rfl, b.nodup_tracked.dedup.symm⟩
  | cons x rest ih =>
    rw [run, additions, granted]
    cases done : (watching b).call x with
    | error e => exact ih b
    | ok next =>
      obtain ⟨b₁, rfl, tracked⟩ := tracked_of_call done
      obtain ⟨b', reached, tracked'⟩ := ih b₁
      refine ⟨b', reached, ?_⟩
      have split : ((x :: (watching b₁).granted rest).filterMap Call.added).reverse =
          ((watching b₁).additions rest).reverse ++ x.added.toList := by
        rw [List.filterMap_cons, additions]
        cases x.added <;> simp
      rw [tracked', tracked, split, List.append_assoc, List.dedup_append, List.dedup_idem,
        ← List.dedup_append]

/-- The sweep is the list of tracked slots without those that are not pending. -/
theorem sweep_watching (b : Books) :
    (watching b).sweep = b.tracked.filter (watching b).isPending := by
  refine List.filter_congr fun s mem => ?_
  simp [isPending, b.mem_watched, mem]

/-- In which order a collector reclaims when it goes out of use after some calls. -/
structure SweepOrder (start : Collector) (calls : List Call) : Prop where
  /-- The slot whose first addition is the latest goes first. -/
  byFirst : (start.run calls).sweep =
    (start.additions calls).reverse.dedup.filter (start.run calls).isPending
  /-- Where no slot is added twice, the latest addition goes first. -/
  latest : (start.additions calls).Nodup →
    (start.run calls).sweep = (start.additions calls).reverse.filter (start.run calls).isPending
  /-- The slot whose last addition is the latest goes first just where the pending slots have their
  last additions in the order of their first. -/
  latest_iff : (start.run calls).sweep =
      (start.additions calls).dedup.reverse.filter (start.run calls).isPending ↔
    ∀ r s, (start.run calls).isPending r → (start.run calls).isPending s →
      (start.additions calls).idxOf r < (start.additions calls).idxOf s →
      (start.additions calls).reverse.idxOf s < (start.additions calls).reverse.idxOf r

/-- After any additions and removals, granted or refused, a sweep keeps to the order of the first
additions. -/
theorem sweepOrder_of_run {l : Layout} (sized : l.isZeroSized = false) (calls : List Call) :
    SweepOrder (ofLayout l) calls := by
  have start : ofLayout l = watching {} := by rw [ofLayout, sized]; rfl
  rw [start]
  obtain ⟨b, reached, tracked⟩ := exists_tracked_run {} calls
  have byFirst : ((watching {}).run calls).sweep =
      ((watching {}).additions calls).reverse.dedup.filter ((watching {}).run calls).isPending := by
    rw [reached, sweep_watching, tracked, List.append_nil]
  -- What is pending was registered, and so it was added.
  have added : ∀ s, ((watching {}).run calls).isPending s →
      s ∈ (watching {}).additions calls := by
    intro s pending
    have swept := (mem_sweep (distinct_run ⟨_, rfl⟩ calls) s).2 pending
    rw [byFirst] at swept
    exact List.mem_reverse.1 (List.mem_dedup.1 (List.mem_of_mem_filter swept))
  refine ⟨byFirst, fun once => ?_, ?_⟩
  · rw [byFirst, (List.nodup_reverse.2 once).dedup]
  · rw [byFirst, filter_dedup_eq_iff]
    exact ⟨fun agree r s pendingR pendingS =>
        agree r s (added r pendingR) (added s pendingS) pendingR pendingS,
      fun agree r s _ _ => agree r s⟩

/-- Slot 1 is registered before slot 2 and handed over, and then its storage holds a new object that
is added again: the sweep still begins with slot 2. -/
theorem sweepOrder_of_reused_slot :
    let calls : List Call := [.add 1, .add 2, .remove 1, .add 1]
    (Layout.word 8).isZeroSized = false ∧
      (ofLayout (.word 8)).additions calls = [1, 2, 1] ∧
      ((ofLayout (.word 8)).run calls).sweep = [2, 1] ∧ SweepOrder (ofLayout (.word 8)) calls :=
  ⟨rfl, rfl, rfl, sweepOrder_of_run rfl _⟩

/-- A sweep does not always begin with the latest addition. -/
theorem sweep_ne_latest_first :
    ¬ ∀ calls : List Call, ((ofLayout (.word 8)).run calls).sweep =
      ((ofLayout (.word 8)).additions calls).dedup.reverse.filter
        ((ofLayout (.word 8)).run calls).isPending := by
  intro latestFirst
  have swept := latestFirst [.add 1, .add 2, .remove 1, .add 1]
  revert swept
  decide

end Collector

end Substrate
