import Substrate.Proofs.Collector.Claims

/-!
# Substrate.Proofs.Collector.Calls

Runs of additions and removals on one collector. Whether a call is granted depends on the standing
of its slot, and a granted call changes the standing of no other slot (`call_cases`). So a slot is
pending exactly while it was added once more than it was removed, counting the calls that were
granted (`count_granted`).

The main result is `sweeps_of_run`: after any run, a sweep reclaims what is pending, each slot once,
and nothing else.
-/

namespace Substrate

/-- A use of a collector. -/
inductive Call where
  | add (s : Slot)
  | remove (s : Slot)
  deriving Repr, DecidableEq

namespace Call

def slot : Call → Slot
  | add s | remove s => s

def isAdd : Call → Bool
  | add _ => true
  | remove _ => false

end Call

namespace Collector

/-! ## Runs -/

def call (c : Collector) : Call → Except CollectorError Collector
  | .add s => c.add s
  | .remove s => c.remove s

/-- The collector after some calls. A call that is refused leaves it as it was. -/
def run (c : Collector) : List Call → Collector
  | [] => c
  | x :: rest =>
    match c.call x with
    | .error _ => c.run rest
    | .ok next => next.run rest

/-- The calls of a run that are granted, in order. -/
def granted (c : Collector) : List Call → List Call
  | [] => []
  | x :: rest =>
    match c.call x with
    | .error _ => c.granted rest
    | .ok next => x :: next.granted rest

variable {c : Collector}

theorem run_append (c : Collector) (past future : List Call) :
    c.run (past ++ future) = (c.run past).run future := by
  induction past generalizing c with
  | nil => rfl
  | cons x past ih =>
    simp only [List.cons_append, run]
    cases c.call x with
    | error e => exact ih c
    | ok next => exact ih next

/-- A call is refused where the slot already stands as it asks, or is granted and decides the
standing of its slot alone. -/
theorem call_cases (distinct : c.Distinct) (x : Call) :
    (c.isPending x.slot = x.isAdd ∧ ∃ e, c.call x = .error e) ∨
      (c.isPending x.slot = !x.isAdd ∧ ∃ next, c.call x = .ok next ∧ next.Distinct ∧
        ∀ s, next.isPending s = if s = x.slot then x.isAdd else c.isPending s) := by
  cases x with
  | add s =>
    rcases add_eq distinct s with ⟨pending, refused⟩ | ⟨free, next, added, distinct', after⟩
    · exact .inl ⟨pending, _, refused⟩
    · refine .inr ⟨free, next, added, distinct', fun r => ?_⟩
      rw [after r]
      by_cases same : r = s <;> simp [same, Call.slot, Call.isAdd]
  | remove s =>
    rcases remove_eq distinct s with ⟨free, refused⟩ | ⟨pending, next, removed, distinct', after⟩
    · exact .inl ⟨free, refused⟩
    · refine .inr ⟨pending, next, removed, distinct', fun r => ?_⟩
      rw [after r]
      by_cases same : r = s <;> simp [same, Call.slot, Call.isAdd]

/-- No run of calls makes a collector list a slot twice. -/
theorem distinct_run (distinct : c.Distinct) (calls : List Call) : (c.run calls).Distinct := by
  induction calls generalizing c with
  | nil => exact distinct
  | cons x rest ih =>
    rw [run]
    rcases call_cases distinct x with ⟨-, e, refused⟩ | ⟨-, next, done, distinct', -⟩
    · rw [refused]
      exact ih distinct
    · rw [done]
      exact ih distinct'

/-- A slot that is not pending stays so for as long as it is not added. -/
theorem isPending_run_of_not_mem (distinct : c.Distinct) {s : Slot}
    (free : c.isPending s = false) {calls : List Call} (notAdded : .add s ∉ calls) :
    (c.run calls).isPending s = false := by
  induction calls generalizing c with
  | nil => exact free
  | cons x rest ih =>
    have other : x ≠ .add s := fun same => notAdded (same ▸ List.mem_cons_self)
    have later : .add s ∉ rest := fun mem => notAdded (List.mem_cons_of_mem _ mem)
    rw [run]
    rcases call_cases distinct x with ⟨-, e, refused⟩ | ⟨-, next, done, distinct', after⟩
    · rw [refused]
      exact ih distinct free later
    · rw [done]
      refine ih distinct' ?_ later
      rw [after s]
      split
      · next here =>
        cases x with
        | add r => exact absurd (congrArg Call.add here.symm) other
        | remove r => rfl
      · exact free

/-- Over a run, the granted additions of a slot and its standing before balance its granted
removals and its standing after. -/
theorem count_granted (distinct : c.Distinct) (calls : List Call) (s : Slot) :
    (c.granted calls).count (.add s) + (c.isPending s).toNat =
      (c.granted calls).count (.remove s) + ((c.run calls).isPending s).toNat := by
  induction calls generalizing c with
  | nil => simp [granted, run]
  | cons x rest ih =>
    rw [granted, run]
    rcases call_cases distinct x with ⟨-, e, refused⟩ | ⟨before, next, done, distinct', after⟩
    · rw [refused]
      exact ih distinct
    · have balance := ih distinct'
      rw [after s] at balance
      rw [done]
      by_cases here : s = x.slot
      · -- The call itself is one of those counted, and turns the standing of the slot round.
        subst here
        rw [if_pos rfl] at balance
        cases x with
        | add s => simp_all [Call.slot, Call.isAdd]
        | remove s =>
          simp_all [Call.slot, Call.isAdd]
          omega
      · rw [if_neg here] at balance
        have notAdd : x ≠ .add s := fun same => here (same ▸ rfl)
        have notRemove : x ≠ .remove s := fun same => here (same ▸ rfl)
        simpa [List.count_cons, notAdd, notRemove] using balance

/-! ## Sweeps after runs -/

/-- A slot is swept once if it is pending, and else never. -/
theorem count_sweep (distinct : c.Distinct) (s : Slot) :
    c.sweep.count s = (c.isPending s).toNat := by
  rw [(nodup_sweep distinct).count]
  cases pending : c.isPending s with
  | true => simp [mem_sweep distinct, pending]
  | false => simp [mem_sweep distinct, pending]

/-- What a collector reclaims when it goes out of use after some calls. -/
structure Sweeps (start : Collector) (calls : List Call) : Prop where
  /-- A slot is reclaimed once if it is pending, and not at all otherwise. -/
  once : ∀ s, (start.run calls).sweep.count s = if (start.run calls).isPending s then 1 else 0
  /-- So many reclaims are made as are announced. -/
  length : (start.run calls).sweep.length = (start.run calls).pending
  /-- A slot is reclaimed exactly if more additions of it than removals were granted. -/
  mem_iff : ∀ s, s ∈ (start.run calls).sweep ↔
    (start.granted calls).count (.remove s) < (start.granted calls).count (.add s)
  /-- A slot that was withdrawn is not reclaimed, unless it is added again. -/
  withdrawn : ∀ past s future, calls = past ++ .remove s :: future →
    (∃ next, (start.run past).remove s = .ok next) → .add s ∉ future →
    s ∉ (start.run calls).sweep
  /-- A slot that was never added is not reclaimed. -/
  neverAdded : ∀ s, .add s ∉ calls → s ∉ (start.run calls).sweep

/-- After any additions and removals, granted or refused, a collector reclaims what is pending, each
slot once, and nothing else. -/
theorem sweeps_of_run {l : Layout} (sized : l.isZeroSized = false) (calls : List Call) :
    Sweeps (ofLayout l) calls := by
  have start := distinct_ofLayout sized
  have idle := isPending_ofLayout sized
  have distinct := distinct_run start calls
  refine ⟨fun s => ?_, length_sweep _, fun s => ?_, fun past s future split removed notAdded => ?_,
    fun s notAdded => ?_⟩
  · rw [count_sweep distinct]
    cases ((ofLayout l).run calls).isPending s <;> rfl
  · have balance := count_granted start calls s
    rw [idle s] at balance
    rw [mem_sweep distinct]
    cases pending : ((ofLayout l).run calls).isPending s <;> rw [pending] at balance <;> simp_all
  · have reached := distinct_run start past
    obtain ⟨next, removed⟩ := removed
    have done : ((ofLayout l).run past).call (.remove s) = .ok next := removed
    rcases call_cases reached (.remove s) with ⟨-, e, refused⟩ | ⟨-, next', done', distinct', after⟩
    · rw [refused] at done
      cases done
    · rw [mem_sweep distinct, split, run_append, run, done']
      have free : next'.isPending s = false := by rw [after s]; simp [Call.slot, Call.isAdd]
      simp [isPending_run_of_not_mem distinct' free notAdded]
  · rw [mem_sweep distinct, isPending_run_of_not_mem start (idle s) notAdded]
    simp

/-- Slot 1 is withdrawn and added again, slot 2 is withdrawn twice, and slot 3 was never added. -/
theorem sweeps_of_readded_slot :
    let calls : List Call :=
      [.add 1, .add 2, .remove 1, .add 1, .add 1, .remove 2, .remove 2, .remove 3]
    (Layout.word 8).isZeroSized = false ∧ ((ofLayout (.word 8)).run calls).sweep = [1] ∧
      Sweeps (ofLayout (.word 8)) calls :=
  ⟨rfl, rfl, sweeps_of_run rfl _⟩

end Collector

end Substrate
