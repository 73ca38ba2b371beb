import Mathlib.Data.Set.Card
import Substrate.Proofs.Collector.Calls

/-!
# Substrate.Proofs.Collector.Automaton

A collector that watches slots is a family of automata, one for each slot. The automaton of a slot
has three states, the claims of `Claim`, and `Claim.attempt` is what a call on the slot does to it.
One call moves the automaton of its slot and no other (`attempt_watching`), so by induction on the
run every slot stands where its own calls have brought it (`claim_after`), and these are answered as
if there were no others (`answers_watching`).

The numbers of a collector count automata by their state. The released slots are among those that
were added, so `Collector.pending`, which is a difference, loses nothing.

The main result is `automata_of_run`.
-/

namespace Substrate

namespace Call

/-! ## Runs of attempts -/

variable {σ : Type}

/-- The state after some calls, each of which leaves its answer and the next state. -/
def after (attempt : σ → Call → Except CollectorError Unit × σ) (q : σ) : List Call → σ
  | [] => q
  | x :: rest => after attempt (attempt q x).2 rest

/-- Some calls with their answers, in order. -/
def answers (attempt : σ → Call → Except CollectorError Unit × σ) (q : σ) :
    List Call → List (Call × Except CollectorError Unit)
  | [] => []
  | x :: rest => (x, (attempt q x).1) :: answers attempt (attempt q x).2 rest

/-- The calls about slot `s`. -/
def about (s : Slot) (calls : List Call) : List Call := calls.filter (·.slot = s)

theorem after_append (attempt : σ → Call → Except CollectorError Unit × σ) (q : σ)
    (past future : List Call) :
    after attempt q (past ++ future) = after attempt (after attempt q past) future := by
  induction past generalizing q with
  | nil => rfl
  | cons x past ih => exact ih _

theorem about_cons (s : Slot) (x : Call) (calls : List Call) :
    about s (x :: calls) = if x.slot = s then x :: about s calls else about s calls := by
  unfold about
  rw [List.filter_cons]
  simp only [decide_eq_true_eq]

/-- Calls about a slot are picked part by part. -/
theorem about_append (s : Slot) (past future : List Call) :
    about s (past ++ future) = about s past ++ about s future := List.filter_append _ _

/-- Each slot has the calls about it in one order, whichever of two others comes first. -/
theorem about_swap {x y : Call} (apart : x.slot ≠ y.slot) (s : Slot) (calls : List Call) :
    about s (calls ++ [y, x]) = about s (calls ++ [x, y]) := by
  rw [about_append, about_append]
  by_cases here : x.slot = s
  · have there : y.slot ≠ s := fun same => apart (here.trans same.symm)
    simp [about_cons, here, there]
  · simp [about_cons, here]

end Call

namespace Claim

/-- The automaton of a slot: what a call on the slot makes of its claim. -/
def step (q : Claim) : Call → Except CollectorError Claim
  | .add _ => q.add
  | .remove _ => q.remove

/-- One call on a slot that stands at claim `q`: the answer, and where the slot stands then. -/
def attempt (q : Claim) (x : Call) : Except CollectorError Unit × Claim :=
  match q.step x with
  | .error e => (.error e, q)
  | .ok next => (.ok (), next)

/-- Where slot `s` stands after some calls, of which only those about `s` matter. -/
def ofCalls (s : Slot) (calls : List Call) : Claim :=
  Call.after attempt .untracked (Call.about s calls)

/-- A slot is untracked until it is added, and never again. -/
theorem after_eq_untracked {q : Claim} {calls : List Call} :
    Call.after attempt q calls = .untracked ↔ q = .untracked ∧ ∀ x ∈ calls, x.isAdd = false := by
  induction calls generalizing q with
  | nil => simp [Call.after]
  | cons x rest ih =>
    rw [Call.after, ih, List.forall_mem_cons]
    cases q <;> cases x <;> simp [attempt, step, add, remove, Call.isAdd]

/-- A slot is untracked until it is added. -/
theorem ofCalls_eq_untracked {s : Slot} {calls : List Call} :
    ofCalls s calls = .untracked ↔ .add s ∉ calls := by
  rw [ofCalls, after_eq_untracked]
  simp only [Call.about, List.mem_filter, decide_eq_true_eq, true_and, and_imp]
  constructor
  · intro none mem
    have := none _ mem rfl
    cases this
  · intro notAdded x mem here
    cases x with
    | add r => exact absurd (here ▸ mem) notAdded
    | remove r => rfl

end Claim

namespace Collector

/-- Makes one call: the answer, and the collector after it. -/
def attempt (c : Collector) : Call → Except CollectorError Unit × Collector
  | .add s => c.tryAdd s
  | .remove s => c.tryRemove s

end Collector

/-! ## One call -/

/-- A call moves its slot as the automaton of that slot says, and no other; where it is refused, the
books are what they were. -/
theorem Books.attempt_cases (b : Books) (x : Call) :
    (∃ e, (b.claim x.slot).step x = .error e ∧
      (Collector.watching b).attempt x = (.error e, .watching b)) ∨
    ∃ q b', (b.claim x.slot).step x = .ok q ∧
      (Collector.watching b).attempt x = (.ok (), .watching b') ∧
      ∀ r, b'.claim r = if r = x.slot then q else b.claim r := by
  cases x with
  | add s =>
    simp only [Collector.attempt, Collector.tryAdd, Claim.step]
    rcases b.add_cases s with ⟨e, refused, same⟩ | ⟨q, b', granted, next, after⟩
    · exact .inl ⟨e, refused, by rw [same]⟩
    · exact .inr ⟨q, b', granted, by rw [next], after⟩
  | remove s =>
    simp only [Collector.attempt, Collector.tryRemove, Claim.step]
    rcases b.remove_cases s with ⟨e, refused, same⟩ | ⟨q, b', granted, next, after⟩
    · exact .inl ⟨e, refused, by rw [same]⟩
    · exact .inr ⟨q, b', granted, by rw [next], after⟩

namespace Collector

variable {c : Collector}

/-- A call is answered by the automaton of its slot, and leaves every slot where the automata
say. -/
theorem attempt_watching (b : Books) (x : Call) :
    ∃ b', (watching b).attempt x = (((b.claim x.slot).attempt x).1, watching b') ∧
      ∀ s, b'.claim s = if x.slot = s then ((b.claim s).attempt x).2 else b.claim s := by
  rcases b.attempt_cases x with ⟨e, refused, same⟩ | ⟨q, b', granted, next, after⟩
  · refine ⟨b, by rw [same, Claim.attempt, refused], fun s => ?_⟩
    split
    · next here => rw [← here, Claim.attempt, refused]
    · rfl
  · refine ⟨b', by rw [next, Claim.attempt, granted], fun s => ?_⟩
    rw [after s]
    by_cases here : x.slot = s
    · subst here
      rw [if_pos rfl, if_pos rfl, Claim.attempt, granted]
    · rw [if_neg here, if_neg (Ne.symm here)]

/-- A refused call leaves the collector as it was, the order of its sweep included. -/
theorem attempt_of_refused (distinct : c.Distinct) {x : Call} {e : CollectorError}
    (refused : (c.attempt x).1 = .error e) : (c.attempt x).2 = c := by
  obtain ⟨b, rfl⟩ := distinct
  rcases b.attempt_cases x with ⟨e', -, same⟩ | ⟨q, b', -, next, -⟩
  · rw [same]
  · rw [next] at refused
    cases refused

/-! ## Runs -/

/-- After some calls every slot stands where the calls about it have brought it. -/
theorem claim_after (b : Books) (calls : List Call) :
    ∃ b', Call.after attempt (watching b) calls = watching b' ∧
      ∀ s, b'.claim s = Call.after Claim.attempt (b.claim s) (Call.about s calls) := by
  induction calls generalizing b with
  | nil => exact ⟨b, rfl, fun s => rfl⟩
  | cons x rest ih =>
    obtain ⟨b₁, next, first⟩ := attempt_watching b x
    obtain ⟨b₂, reached, others⟩ := ih b₁
    refine ⟨b₂, ?_, fun s => ?_⟩
    · rw [Call.after, next]
      exact reached
    · rw [others s, first s, Call.about_cons]
      split <;> rfl

/-- The calls about a slot are answered as its automaton answers them alone. -/
theorem answers_watching (b : Books) (calls : List Call) (s : Slot) :
    (Call.answers attempt (watching b) calls).filter (·.1.slot = s) =
      Call.answers Claim.attempt (b.claim s) (Call.about s calls) := by
  induction calls generalizing b with
  | nil => rfl
  | cons x rest ih =>
    obtain ⟨b₁, next, first⟩ := attempt_watching b x
    rw [Call.answers, next, List.filter_cons, ih b₁, first s, Call.about_cons]
    by_cases here : x.slot = s
    · subst here
      simp [Call.answers]
    · simp [here]

/-- Dropping the state that a refused call leaves makes no difference to a run. -/
theorem after_eq_run (distinct : c.Distinct) (calls : List Call) :
    Call.after attempt c calls = c.run calls := by
  induction calls generalizing c with
  | nil => rfl
  | cons x rest ih =>
    have known : c.call x = ofAttempt (c.attempt x) := by cases x <;> rfl
    obtain ⟨b, rfl⟩ := distinct
    rw [Call.after, run, known]
    rcases b.attempt_cases x with ⟨e, -, same⟩ | ⟨q, b', -, next, -⟩
    · rw [same]
      exact ih ⟨b, rfl⟩
    · rw [next]
      exact ih ⟨b', rfl⟩

/-! ## Numbers -/

/-- Slots that are listed once each are as many as the list is long. -/
theorem encard_eq_length {P : Slot → Prop} {slots : List Slot} (nodup : slots.Nodup)
    (mem : ∀ s, s ∈ slots ↔ P s) : {s | P s}.encard = slots.length := by
  have same : {s | P s} = (slots.toFinset : Set Slot) := by
    ext s
    simp [mem s]
  rw [same, Set.encard_coe_eq_coe_finsetCard, List.toFinset_card_of_nodup nodup]

/-- The collector counts its pending slots right. -/
theorem encard_pending (b : Books) :
    {s | b.claim s = .pending}.encard = (watching b).pending := by
  have listed := mem_sweep (c := watching b) ⟨b, rfl⟩
  rw [← length_sweep]
  refine encard_eq_length (nodup_sweep ⟨b, rfl⟩) fun s => ?_
  rw [listed s, isPending_watching, decide_eq_true_eq]

theorem encard_released (b : Books) :
    {s | b.claim s = .released}.encard = (watching b).released :=
  encard_eq_length b.nodup_released fun _ => Books.claim_eq_released.symm

theorem encard_tracked (b : Books) :
    {s | b.claim s ≠ .untracked}.encard = b.watched.length := by
  refine encard_eq_length b.nodup_watched fun s => ?_
  rw [ne_eq, Books.claim_eq_untracked, Decidable.not_not]

/-- No more slots are released than were added. -/
theorem length_released_le (b : Books) : b.released.length ≤ b.watched.length := by
  rw [b.released_perm.length_eq, b.watched_perm.length_eq]
  exact List.length_filter_le ..

/-! ## The family of automata -/

/-- No call and no question tells the two collectors apart. -/
structure Alike (c d : Collector) : Prop where
  answer : ∀ x, (c.attempt x).1 = (d.attempt x).1
  isPending : ∀ s, c.isPending s = d.isPending s
  pending : c.pending = d.pending
  released : c.released = d.released

/-- Only the claims on the slots matter, not the order they came in. -/
theorem alike_of_claim {b d : Books} (same : ∀ s, b.claim s = d.claim s) :
    Alike (watching b) (watching d) := by
  have pending := encard_pending b
  have released := encard_released b
  simp only [same] at pending released
  refine ⟨fun x => ?_, fun s => ?_, ?_, ?_⟩
  · obtain ⟨_, here, -⟩ := attempt_watching b x
    obtain ⟨_, there, -⟩ := attempt_watching d x
    rw [here, there, same]
  · rw [isPending_watching, isPending_watching, same]
  · exact Nat.cast_inj.1 (pending.symm.trans (encard_pending d))
  · exact Nat.cast_inj.1 (released.symm.trans (encard_released d))

/-- Runs that agree on the calls about each slot cannot be told apart by what they lead to. -/
theorem alike_after (b : Books) {calls other : List Call}
    (mixed : ∀ s, Call.about s other = Call.about s calls) :
    Alike (Call.after attempt (watching b) calls) (Call.after attempt (watching b) other) := by
  obtain ⟨here, reached, claims⟩ := claim_after b calls
  obtain ⟨there, reached', claims'⟩ := claim_after b other
  rw [reached, reached']
  exact alike_of_claim fun s => by rw [claims s, claims' s, mixed s]

/-- A call does not affect the answer to a call about another slot. -/
theorem answer_of_other (b : Books) {x y : Call} (apart : x.slot ≠ y.slot) :
    (((watching b).attempt x).2.attempt y).1 = ((watching b).attempt y).1 := by
  obtain ⟨b', next, moved⟩ := attempt_watching b x
  obtain ⟨_, later, -⟩ := attempt_watching b' y
  obtain ⟨_, sooner, -⟩ := attempt_watching b y
  rw [next, later, sooner, moved, if_neg apart]

/-- What a collector is to its slots after some calls: one automaton for each of them. -/
structure Automata (start : Collector) (calls : List Call) : Prop where
  /-- The calls about a slot were answered as its automaton answers them, were there no others. -/
  answers : ∀ s, (Call.answers attempt start calls).filter (·.1.slot = s) =
    Call.answers Claim.attempt .untracked (Call.about s calls)
  /-- So is the next call. -/
  answer : ∀ x, ((Call.after attempt start calls).attempt x).1 =
    ((Claim.ofCalls x.slot calls).attempt x).1
  isPending : ∀ s, (Call.after attempt start calls).isPending s =
    decide (Claim.ofCalls s calls = .pending)
  /-- A call that is refused leaves the whole collector as it was. -/
  refused : ∀ x e, ((Call.after attempt start calls).attempt x).1 = .error e →
    ((Call.after attempt start calls).attempt x).2 = Call.after attempt start calls
  /-- The numbers are those of the slots that are pending, that are released, and that were ever
  added. -/
  pending : {s | Claim.ofCalls s calls = .pending}.encard =
    (Call.after attempt start calls).pending
  released : {s | Claim.ofCalls s calls = .released}.encard =
    (Call.after attempt start calls).released
  added : {s | .add s ∈ calls}.encard =
    ((Call.after attempt start calls).pending + (Call.after attempt start calls).released : Nat)
  /-- The pending slots are counted by a difference that never falls below zero. -/
  difference : ∃ b, Call.after attempt start calls = .watching b ∧
    b.released.length ≤ b.watched.length ∧
    {s | .add s ∈ calls}.encard = b.watched.length
  /-- Runs that agree on the calls about each slot lead to the same, however these are mixed. -/
  interleaved : ∀ other, (∀ s, Call.about s other = Call.about s calls) →
    Alike (Call.after attempt start calls) (Call.after attempt start other)
  /-- Two calls about different slots are answered alike in either order, and lead to the same. -/
  commute : ∀ x y, x.slot ≠ y.slot →
    let c := Call.after attempt start calls
    ((c.attempt x).2.attempt y).1 = (c.attempt y).1 ∧
    ((c.attempt y).2.attempt x).1 = (c.attempt x).1 ∧
    Alike ((c.attempt x).2.attempt y).2 ((c.attempt y).2.attempt x).2

/-- After any additions and removals, granted or refused, every slot stands where the calls about it
alone have brought its automaton. -/
theorem automata_of_run {l : Layout} (sized : l.isZeroSized = false) (calls : List Call) :
    Automata (ofLayout l) calls := by
  have start : ofLayout l = watching {} := by
    rw [ofLayout, sized]
    rfl
  rw [start]
  obtain ⟨b, now, claims⟩ := claim_after {} calls
  replace claims : ∀ s, b.claim s = Claim.ofCalls s calls := claims
  have pending := encard_pending b
  have released := encard_released b
  have tracked := encard_tracked b
  have within := length_released_le b
  simp only [claims, ne_eq, Claim.ofCalls_eq_untracked, Decidable.not_not]
    at pending released tracked
  refine ⟨answers_watching {} calls, fun x => ?_, fun s => ?_, fun x e => ?_, now ▸ pending,
    now ▸ released, ?_, ⟨b, now, within, tracked⟩, fun other => alike_after {},
    fun x y apart => ?_⟩
  · obtain ⟨_, next, -⟩ := attempt_watching b x
    rw [now, next, claims]
  · rw [now, isPending_watching, claims s]
  · rw [now]
    exact attempt_of_refused ⟨b, rfl⟩
  · rw [now, tracked, Nat.cast_inj]
    simp only [Collector.pending, Collector.released]
    omega
  · have both := alike_after {} (Call.about_swap apart · calls)
    rw [Call.after_append, Call.after_append, now] at both
    rw [now]
    exact ⟨answer_of_other b apart, answer_of_other b apart.symm, both⟩

/-- Slots 1 and 2 in turn: slot 1 is withdrawn and armed again, slot 2 is withdrawn twice, and a
slot that was never added is not known. -/
theorem automata_of_two_slots :
    let calls : List Call :=
      [.add 1, .add 2, .remove 1, .add 1, .add 1, .remove 2, .remove 2, .remove 3]
    (Layout.word 8).isZeroSized = false ∧
      (Call.answers attempt (ofLayout (.word 8)) calls).map Prod.snd =
        [.ok (), .ok (), .ok (), .ok (), .error .alreadyTracked, .ok (), .error .alreadyReleased,
          .error .notTracked] ∧
      Automata (ofLayout (.word 8)) calls :=
  ⟨rfl, rfl, automata_of_run rfl _⟩

end Collector

end Substrate
