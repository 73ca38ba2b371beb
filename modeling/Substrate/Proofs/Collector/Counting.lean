import Substrate.Proofs.Collector.Accounts
import Substrate.Proofs.Collector.Calls
import Substrate.Proofs.Collector.Safety
import Substrate.Proofs.Pool.Trips

/-!
# Substrate.Proofs.Collector.Counting

Objects without bytes. They all stand in one slot, so what pool and collectors know of them are
numbers. A pool has so many times this slot at hand (`Pool.Bare`), and its supply is never used. A
collector that has so many objects pending was told of as many more than it gave up the claim on
(`Collector.Counts`), whichever slots it was asked about.

`Custody.Weightless` couples the two to the log of a run, which keeps every command with its reply:
`tally` is what the log tells of one collector since it was taken into use. Each command changes the
number of slots at hand as `pooledAfter` says, and what is tallied as its reply says
(`weightless_step`).

The main result is `counted_of_run`.
-/

namespace Substrate

variable {α β : Type}

/-! ## Collectors that count -/

namespace Collector

/-- The collector was told of `added` objects and gave up its claim on `removed` ones, whichever
they are. -/
structure Counts (c : Collector) (added removed : Nat) : Prop where
  pending : c.pending + removed = added
  released : c.released = removed
  /-- Any slot is pending while anything is. -/
  isPending : ∀ s, c.isPending s = decide (0 < c.pending)
  /-- No addition is refused. -/
  add : ∀ s, ∃ c', c.add s = .ok c'
  /-- A removal is refused for the one reason that nothing is pending. -/
  remove : ∀ s e, c.remove s = .error e ↔ e = .notTracked ∧ c.pending = 0
  /-- A sweep reclaims as many objects as are pending. -/
  sweep : c.sweep = List.replicate c.pending .dangling

variable {c c' : Collector} {p r : Nat} {s : Slot}

/-- A collector of counters answers by its counters. -/
theorem counts_counting (p r : Nat) : (counting p r).Counts (p + r) r where
  pending := rfl
  released := rfl
  isPending := fun _ => rfl
  add := fun _ => ⟨_, rfl⟩
  remove := fun s e => by
    cases p with
    | zero =>
      change Except.error CollectorError.notTracked = Except.error e ↔ e = .notTracked ∧ 0 = 0
      simp [eq_comm]
    | succ q =>
      change Except.ok (counting q (r + 1)) = Except.error e ↔ e = .notTracked ∧ q + 1 = 0
      simp
  sweep := rfl

/-- A new collector of payloads without bytes counts from nothing. -/
theorem ofLayout_of_empty {l : Layout} (empty : l.isZeroSized = true) :
    ofLayout l = counting 0 0 := by
  rw [ofLayout, if_pos empty]

/-- Adding counts one more object, whichever it is. -/
theorem add_counting (p r : Nat) (s : Slot) : (counting p r).add s = .ok (counting (p + 1) r) := rfl

/-- A removal is granted as long as something is pending. -/
theorem remove_counting (p r : Nat) (s : Slot) :
    (p = 0 ∧ (counting p r).remove s = .error .notTracked) ∨
      ∃ q, p = q + 1 ∧ (counting p r).remove s = .ok (counting q (r + 1)) := by
  cases p with
  | zero => exact .inl ⟨rfl, rfl⟩
  | succ q => exact .inr ⟨q, rfl, rfl⟩

/-- After any calls, those that were granted are counted. -/
theorem exists_counting_run (p r : Nat) (calls : List Call) :
    ∃ p' r', (counting p r).run calls = counting p' r' ∧
      p' + r' = p + r + ((counting p r).granted calls).countP Call.isAdd ∧
      r' = r + ((counting p r).granted calls).countP (!·.isAdd) := by
  induction calls generalizing p r with
  | nil => exact ⟨p, r, rfl, rfl, rfl⟩
  | cons x calls ih =>
    cases x with
    | add s =>
      have granted : (counting p r).call (.add s) = .ok (counting (p + 1) r) := rfl
      obtain ⟨p', r', is, added, removed⟩ := ih (p + 1) r
      refine ⟨p', r', ?_, ?_, ?_⟩ <;> simp only [run, Collector.granted, granted]
      · exact is
      · rw [List.countP_cons_of_pos (by rfl), added]
        omega
      · rw [List.countP_cons_of_neg (by simp [Call.isAdd]), removed]
    | remove s =>
      rcases remove_counting p r s with ⟨-, refused⟩ | ⟨q, rfl, granted⟩
      · obtain ⟨p', r', is, added, removed⟩ := ih p r
        have call : (counting p r).call (.remove s) = .error .notTracked := refused
        refine ⟨p', r', ?_, ?_, ?_⟩ <;> simp only [run, Collector.granted, call]
        · exact is
        · exact added
        · exact removed
      · obtain ⟨p', r', is, added, removed⟩ := ih q (r + 1)
        have call : (counting (q + 1) r).call (.remove s) = .ok (counting q (r + 1)) := granted
        refine ⟨p', r', ?_, ?_, ?_⟩ <;> simp only [run, Collector.granted, call]
        · exact is
        · rw [List.countP_cons_of_neg (by simp [Call.isAdd]), added]
          omega
        · rw [List.countP_cons_of_pos (by rfl), removed]
          omega

end Collector

/-! ## Pools of one slot -/

namespace Pool

variable {layout : Layout} {capacity n : Nat} {backing : β} {p : Pool α β}

/-- The pool is for objects without bytes and has `n` times their slot at hand. Its supply is
`backing`. -/
structure Bare (p : Pool α β) (capacity n : Nat) (backing : β) : Prop where
  empty : p.layout.isZeroSized = true
  capacity_eq : p.capacity = capacity
  pooled : p.pooled = List.replicate n .dangling
  le : n ≤ capacity
  backing_eq : p.backing = backing

theorem Bare.length (h : p.Bare capacity n backing) : p.pooled.length = n := by
  rw [h.pooled, List.length_replicate]

theorem Bare.write (h : p.Bare capacity n backing) (s : Slot) (v : α) :
    (p.write s v).state.Bare capacity n backing :=
  ⟨h.empty, h.capacity_eq, h.pooled, h.le, h.backing_eq⟩

variable [Backing β]

theorem freshSlot_of_empty (empty : p.layout.isZeroSized = true) :
    p.freshSlot = (.ok .dangling, p) := by
  rw [freshSlot, if_pos empty]

theorem foldl_release_of_empty (empty : layout.isZeroSized = true) (b : β) (ss : List Slot) :
    ss.foldl (release layout) b = b := by
  induction ss with
  | nil => rfl
  | cons s ss ih =>
    rw [List.foldl_cons, release, if_pos empty]
    exact ih

/-- Filling a pool of payloads without bytes asks the supply for nothing. -/
theorem prefill_of_empty (empty : p.layout.isZeroSized = true) (m : Nat) :
    p.prefill m = (.ok (), { p with pooled := List.replicate m .dangling ++ p.pooled }) := by
  induction m generalizing p with
  | zero => rfl
  | succ m ih =>
    rw [prefill, freshSlot_of_empty empty]
    refine (ih (p := { p with pooled := .dangling :: p.pooled }) empty).trans ?_
    rw [List.replicate_succ', List.append_assoc]
    rfl

/-- A new pool is not refused, and has half of its capacity at hand. -/
theorem bare_create (α : Type) (empty : layout.isZeroSized = true) (capacity : Nat) (backing : β) :
    ∃ p, create α layout capacity backing = .ok p ∧
      p.Bare capacity ((capacity + 1) / 2) backing := by
  have filled := prefill_of_empty (p := (⟨layout, capacity, [], backing, ∅⟩ : Pool α β)) empty
    ((capacity + 1) / 2)
  refine ⟨_, by rw [create, filled], empty, rfl, List.append_nil _, ?_, rfl⟩
  omega

/-- An object is never refused. -/
theorem Bare.alloc (h : p.Bare capacity n backing) (v : α) :
    ∃ p', p.alloc v = .keeping (.ok .dangling) p' ∧ p'.Bare capacity (n - 1) backing ∧
      p'.read .dangling = some v := by
  have read : ∀ contents : Std.TreeMap Slot α,
      (contents.insert Slot.dangling v)[Slot.dangling]? = some v := fun contents =>
    (getElem?_contents_insert ..).trans (if_pos rfl)
  have pooled := h.pooled
  cases n with
  | zero =>
    refine ⟨_, alloc_of_fresh pooled (freshSlot_of_empty h.empty) v, ?_, read _⟩
    exact ⟨h.empty, h.capacity_eq, pooled, h.le, h.backing_eq⟩
  | succ n =>
    refine ⟨_, alloc_of_pooled pooled v, ?_, read _⟩
    exact ⟨h.empty, h.capacity_eq, rfl, Nat.le_of_succ_le h.le, h.backing_eq⟩

/-- Whether there is room or not, nothing goes back to the supply. -/
theorem Bare.freeAll (h : p.Bare capacity n backing) (m : Nat) :
    (p.freeAll (List.replicate m .dangling)).state.Bare capacity (min capacity (n + m))
      backing := by
  have room : p.room = capacity - n := by rw [Pool.room, h.capacity_eq, h.length]
  have le := h.le
  rw [freeAll_eq]
  refine ⟨h.empty, h.capacity_eq, ?_, Nat.min_le_left .., ?_⟩
  · have count : min (capacity - n) m + n = min capacity (n + m) := by omega
    rw [room, h.pooled, List.take_replicate, List.reverse_replicate,
      List.replicate_append_replicate, count]
  · exact (foldl_release_of_empty h.empty ..).trans h.backing_eq

/-- Freeing adds a slot where there is room. -/
theorem Bare.free (h : p.Bare capacity n backing) :
    (p.free .dangling).state.Bare capacity (min capacity (n + 1)) backing := by
  rw [free_eq]
  exact h.freeAll 1

theorem Bare.dispose (h : p.Bare capacity n backing) : p.dispose = backing :=
  (foldl_release_of_empty h.empty ..).trans h.backing_eq

end Pool

namespace Custody

/-! ## Logs -/

/-- What a collector was told, by numbers. -/
structure Tally where
  /-- Objects that it took up. -/
  added : Nat
  /-- Objects that it gave up its claim on. -/
  removed : Nat
  deriving Repr, DecidableEq

/-- The tally of collector `c` after one more command and its reply. A collector that is taken into
use starts anew, and what is refused or skipped does not count. -/
def Tally.note (c : Nat) (t : Tally) : Command α × Reply α → Tally
  | (.openCollector c', _) => if c = c' then ⟨0, 0⟩ else t
  | (.track c' _, .done) | (.add c' _, .done) => if c = c' then ⟨t.added + 1, t.removed⟩ else t
  | (.remove c' _, .done) | (.removeSlot c' _, .done) =>
    if c = c' then ⟨t.added, t.removed + 1⟩ else t
  | _ => t

/-- What a log tells of collector `c`. -/
def tally (c : Nat) (log : List (Command α × Reply α)) : Tally := log.foldl (Tally.note c) ⟨0, 0⟩

variable [Backing β]

/-- The commands, numbered from `n`, each with its reply. -/
def log (k : Custody α β) (n : Nat) : List (Command α) → List (Command α × Reply α)
  | [] => []
  | c :: cs => (c, (k.step n c).reply) :: (k.step n c).state.log (n + 1) cs

/-- How many slots are at hand after a command. -/
def pooledAfter (k : Custody α β) : Command α → Nat
  | .alloc _ => k.pool.pooled.length - 1
  | .track c _ => k.pool.pooled.length - if k.collectors[c]?.isSome then 1 else 0
  | .free o => min k.pool.capacity (k.pool.pooled.length + if (k.live? o).isSome then 1 else 0)
  | .openCollector c | .closeCollector c =>
    min k.pool.capacity (k.pool.pooled.length + (k.collectors[c]?.map Collector.pending).getD 0)
  | .read _ | .write .. | .add .. | .remove .. | .removeSlot .. | .isPending .. | .info =>
    k.pool.pooled.length

/-! ## What is kept -/

/-- The collector is as its tally says, and where something is pending there is something stored. -/
def Tally.Tells (t : Tally) (pool : Pool α β) (collector : Collector) : Prop :=
  ∃ p, collector = .counting p t.removed ∧ p + t.removed = t.added ∧
    (0 < p → ∃ v, pool.read .dangling = some v)

/-- The pool has `n` slots at hand, all objects are in that one slot, and the collectors count what
they were told. -/
structure Weightless (k : Custody α β) (capacity n : Nat) (backing : β) (tallies : Nat → Tally) :
    Prop where
  pool : k.pool.Bare capacity n backing
  objects : ∀ (m : Nat) (o : Object), k.objects[m]? = some o →
    o.slot = .dangling ∧ ∃ v, k.pool.read .dangling = some v
  collectors : ∀ (c : Nat) (collector : Collector), k.collectors[c]? = some collector →
    (tallies c).Tells k.pool collector

variable {k : Custody α β} {capacity n m c : Nat} {backing : β} {tallies : Nat → Tally}
  {collector : Collector} {s : Slot}

omit [Backing β] in
/-- Another pool will do if something is still stored. -/
theorem Weightless.withPool (h : k.Weightless capacity n backing tallies) {p' : Pool α β} {n' : Nat}
    (bare : p'.Bare capacity n' backing)
    (stored : (∃ v, k.pool.read .dangling = some v) → ∃ v, p'.read .dangling = some v) :
    Weightless { k with pool := p' } capacity n' backing tallies where
  pool := bare
  objects := fun m o found => ⟨(h.objects m o found).1, stored (h.objects m o found).2⟩
  collectors := fun c collector found =>
    let ⟨p, is, count, pays⟩ := h.collectors c collector found
    ⟨p, is, count, stored ∘ pays⟩

omit [Backing β] in
theorem Weightless.insertObject (h : k.Weightless capacity n backing tallies) (o : Object)
    (weightless : o.slot = .dangling) (stored : ∃ v, k.pool.read .dangling = some v) (m : Nat) :
    Weightless { k with objects := k.objects.insert m o } capacity n backing tallies where
  pool := h.pool
  objects := fun j o' found => by
    rw [Registers.getElem?_insert] at found
    split at found
    · cases found
      exact ⟨weightless, stored⟩
    · exact h.objects j o' found
  collectors := h.collectors

omit [Backing β] in
/-- A collector may be put into use, or changed, when its tally says so. -/
theorem Weightless.insertCollector (h : k.Weightless capacity n backing tallies)
    {t : Tally} (tells : t.Tells k.pool collector) {tallies' : Nat → Tally} (told : tallies' c = t)
    (others : ∀ c' ≠ c, tallies' c' = tallies c') :
    Weightless { k with collectors := k.collectors.insert c collector } capacity n backing
      tallies' where
  pool := h.pool
  objects := h.objects
  collectors := fun c' collector' found => by
    rw [Registers.getElem?_insert] at found
    split at found
    · next same =>
      cases found
      rw [same, told]
      exact tells
    · next other =>
      rw [others c' other]
      exact h.collectors c' collector' found

/-! ## Single uses -/

/-- An object in no storage is always made. -/
theorem Weightless.make (h : k.Weightless capacity n backing tallies) (m : Nat) (v : α) :
    ∃ p', k.make m v = .keeping (.ok .dangling)
        { k with pool := p', objects := k.objects.insert m ⟨.dangling, .live⟩ } ∧
      (∃ v, p'.read .dangling = some v) ∧
      Weightless { k with pool := p', objects := k.objects.insert m ⟨.dangling, .live⟩ } capacity
        (n - 1) backing tallies := by
  obtain ⟨p', made, bare, read⟩ := h.pool.alloc v
  have stored : ∃ v, p'.read .dangling = some v := ⟨v, read⟩
  refine ⟨p', by rw [Custody.make, made]; rfl, stored, ?_⟩
  exact (h.withPool bare fun _ => stored).insertObject ⟨.dangling, .live⟩ rfl stored m

/-- Freeing an object in no storage leaves the tallies alone. -/
theorem Weightless.release (h : k.Weightless capacity n backing tallies)
    (found : k.objects[m]? = some ⟨s, .live⟩) :
    (k.release m s).state.Weightless capacity (min capacity (n + 1)) backing tallies := by
  obtain ⟨rfl, v, read⟩ := h.objects m _ found
  have stored : ∃ v, (k.pool.free .dangling).state.read .dangling = some v :=
    ⟨v, (k.pool.read_free ..).trans read⟩
  exact (h.withPool h.pool.free fun _ => stored).insertObject ⟨.dangling, .freed⟩ rfl stored m

/-- A sweep frees as many objects as are pending. -/
theorem Weightless.close (h : k.Weightless capacity n backing tallies)
    (found : k.collectors[c]? = some collector) :
    (k.close c collector).state.Weightless capacity (min capacity (n + collector.pending)) backing
        tallies ∧
      (k.close c collector).destroyed.length = collector.pending := by
  obtain ⟨p, rfl, -, pays⟩ := h.collectors c _ found
  have kept : k.close c (.counting p (tallies c).removed) =
      ⟨(), ⟨(k.pool.freeAll (List.replicate p .dangling)).state, k.objects, k.collectors.erase c⟩,
        (k.pool.freeAll (List.replicate p .dangling)).destroyed⟩ := by
    rw [Custody.close, isZeroSized, h.pool.empty]
    rfl
  have closed := h.withPool (h.pool.freeAll p) (Exists.imp fun v read =>
    (k.pool.read_freeAll ..).trans read)
  rw [kept]
  refine ⟨⟨closed.pool, closed.objects, fun c' collector' found' => ?_⟩, ?_⟩
  · rw [Registers.getElem?_erase] at found'
    split at found'
    · cases found'
    · exact closed.collectors c' collector' found'
  · rw [Pool.destroyed_freeAll]
    cases p with
    | zero => rfl
    | succ p =>
      obtain ⟨v, read⟩ := pays (Nat.succ_pos p)
      rw [List.filterMap_replicate, read]
      exact List.length_replicate

/-! ## Commands -/

omit [Backing β] in
/-- Adding an object adds one to the tally. -/
theorem Tally.Tells.add {t : Tally} {pool : Pool α β} (h : t.Tells pool collector)
    (stored : ∃ v, pool.read .dangling = some v) (s : Slot) :
    ∃ collector', collector.add s = .ok collector' ∧
      Tells ⟨t.added + 1, t.removed⟩ pool collector' := by
  obtain ⟨p, rfl, count, -⟩ := h
  refine ⟨_, Collector.add_counting p t.removed s, p + 1, rfl, ?_, fun _ => stored⟩
  rw [Nat.add_right_comm, count]

omit [Backing β] in
/-- Removing an object is refused or adds one to the tally. -/
theorem Tally.Tells.remove {t : Tally} {pool : Pool α β} (h : t.Tells pool collector) (s : Slot) :
    collector.remove s = .error .notTracked ∨
      ∃ collector', collector.remove s = .ok collector' ∧
        Tells ⟨t.added, t.removed + 1⟩ pool collector' := by
  obtain ⟨p, rfl, count, pays⟩ := h
  rcases Collector.remove_counting p t.removed s with ⟨-, refused⟩ | ⟨q, rfl, granted⟩
  · exact .inl refused
  · refine .inr ⟨_, granted, q, rfl, ?_, fun _ => pays (Nat.succ_pos q)⟩
    rw [← count]
    exact (Nat.succ_add_eq_add_succ ..).symm

omit [Backing β] in
/-- A removal counts if it is granted, by whichever command it is asked for. -/
theorem Weightless.settle_remove (h : k.Weightless capacity n backing tallies)
    (found : k.collectors[c]? = some collector) (s : Slot) {command : Command α}
    (counted : ∀ (c' : Nat) (t : Tally),
      t.note c' (command, .done) = if c' = c then ⟨t.added, t.removed + 1⟩ else t)
    (ignored : ∀ (c' : Nat) (t : Tally) (e : CollectorError),
      t.note c' (command, .refused e) = t) :
    (k.settle c (collector.remove s)).state.Weightless capacity n backing
      fun c' => (tallies c').note c' (command, (k.settle c (collector.remove s)).reply) := by
  rcases (h.collectors c collector found).remove s with refused | ⟨collector', granted, tells⟩
  · rw [refused]
    simp only [settle, Outcome.reply_keeping, ignored]
    exact h
  · rw [granted]
    simp only [settle, Outcome.reply_keeping, counted]
    exact h.insertCollector tells (if_pos rfl) fun c' other => if_neg other

omit [Backing β] in
theorem tells_fresh {l : Layout} (empty : l.isZeroSized = true) (pool : Pool α β) :
    Tally.Tells ⟨0, 0⟩ pool (.ofLayout l) :=
  ⟨0, Collector.ofLayout_of_empty empty, rfl, fun no => absurd no (Nat.lt_irrefl 0)⟩

/-- An object in no storage goes back to the pool's free list, as far as that has room. -/
theorem weightless_free (h : k.Weightless capacity n backing tallies) (m : Nat) (o : Ref) :
    (k.step m (.free o)).state.Weightless capacity (k.pooledAfter (.free o)) backing tallies := by
  have length := h.pool.length
  have limit := h.pool.capacity_eq
  cases alive : k.live? o with
  | none =>
    simp only [step, pooledAfter, alive, length, limit, Option.isSome_none, Bool.false_eq_true,
      if_false, Nat.add_zero, Nat.min_eq_right h.pool.le]
    exact h
  | some js =>
    have empty : k.isZeroSized = true := h.pool.empty
    simp only [step, pooledAfter, alive, length, limit, empty, Option.isSome_some, if_true,
      Bool.not_true, Bool.false_and, Bool.false_eq_true, if_false]
    exact h.release (live?_eq_some.1 alive).2

/-- After a write there is still something stored to read. -/
theorem weightless_write (h : k.Weightless capacity n backing tallies) (m : Nat) (o : Ref)
    (v : α) :
    (k.step m (.write o v)).state.Weightless capacity n backing tallies := by
  rw [step]
  split
  · exact h
  · next j s alive =>
    obtain ⟨rfl, -⟩ := h.objects j _ (live?_eq_some.1 alive).2
    have read : (k.pool.write .dangling v).state.read .dangling = some v :=
      (k.pool.read_write ..).trans (if_pos rfl)
    exact h.withPool (h.pool.write .dangling v) fun _ => ⟨v, read⟩

/-- A collector opens with an empty tally, after the sweep of the one it stands in for. -/
theorem weightless_openCollector (h : k.Weightless capacity n backing tallies) (m c : Nat) :
    (k.step m (.openCollector c)).state.Weightless capacity (k.pooledAfter (.openCollector c))
      backing fun c' => if c' = c then ⟨0, 0⟩ else tallies c' := by
  have length := h.pool.length
  have limit := h.pool.capacity_eq
  have empty : k.isZeroSized = true := h.pool.empty
  cases found : k.collectors[c]? with
  | none =>
    simp only [step, pooledAfter, found, length, limit, Option.map_none, Option.getD_none,
      Nat.add_zero, Nat.min_eq_right h.pool.le]
    exact h.insertCollector (tells_fresh empty _) (if_pos rfl) fun c' other => if_neg other
  | some collector =>
    have closed := (h.close found).1
    simp only [step, pooledAfter, found, length, limit, Option.map_some, Option.getD_some]
    exact closed.insertCollector (tells_fresh empty _) (if_pos rfl) fun c' other => if_neg other

/-- A collector that is dropped frees as many objects as are pending in it. -/
theorem weightless_closeCollector (h : k.Weightless capacity n backing tallies) (m c : Nat) :
    (k.step m (.closeCollector c)).state.Weightless capacity (k.pooledAfter (.closeCollector c))
      backing tallies := by
  have length := h.pool.length
  have limit := h.pool.capacity_eq
  cases found : k.collectors[c]? with
  | none =>
    simp only [step, pooledAfter, found, length, limit, Option.map_none, Option.getD_none,
      Nat.add_zero, Nat.min_eq_right h.pool.le]
    exact h
  | some collector =>
    simp only [step, pooledAfter, found, length, limit, Option.map_some, Option.getD_some]
    exact (h.close found).1

/-- A tracked allocation is never refused, and counts as one addition. -/
theorem weightless_track (h : k.Weightless capacity n backing tallies) (m c : Nat) (v : α) :
    (k.step m (.track c v)).state.Weightless capacity (k.pooledAfter (.track c v : Command α))
      backing fun c' => (tallies c').note c' (.track c v, (k.step m (.track c v)).reply) := by
  have length := h.pool.length
  cases found : k.collectors[c]? with
  | none =>
    simp only [step, pooledAfter, found, length, Option.isSome_none, Bool.false_eq_true, if_false,
      Nat.sub_zero]
    exact h
  | some collector =>
    obtain ⟨p', made, stored, after⟩ := h.make m v
    obtain ⟨collector', added, tells⟩ := (after.collectors c collector found).add stored .dangling
    simp only [step, pooledAfter, found, made, Outcome.reply_keeping, added, settle, length,
      Option.isSome_some, if_true]
    exact after.insertCollector tells (if_pos rfl) fun c' other => if_neg other

/-- An addition by hand is never refused either, also of an object that is pending already. -/
theorem weightless_add (h : k.Weightless capacity n backing tallies) (m c : Nat) (o : Ref) :
    (k.step m (.add c o)).state.Weightless capacity n backing
      fun c' => (tallies c').note c' (.add c o, (k.step m (.add c o)).reply) := by
  have empty : k.isZeroSized = true := h.pool.empty
  simp only [step, empty, Bool.not_true, Bool.false_and, Bool.false_eq_true, if_false]
  split
  · next collector j s found alive =>
    obtain ⟨rfl, stored⟩ := h.objects j _ (live?_eq_some.1 alive).2
    obtain ⟨collector', added, tells⟩ := (h.collectors c collector found).add stored .dangling
    simp only [added, settle]
    exact h.insertCollector tells (if_pos rfl) fun c' other => if_neg other
  · exact h

/-- Every command keeps the counts. -/
theorem weightless_step (h : k.Weightless capacity n backing tallies) (m : Nat)
    (command : Command α) :
    (k.step m command).state.Weightless capacity (k.pooledAfter command) backing
      fun c => (tallies c).note c (command, (k.step m command).reply) := by
  have length := h.pool.length
  cases command with
  | alloc v =>
    obtain ⟨p', made, -, after⟩ := h.make m v
    simp only [step, made, pooledAfter, length]
    exact after
  | free o => exact weightless_free h m o
  | read o =>
    rw [step, pooledAfter, length]
    split <;> exact h
  | write o v =>
    rw [pooledAfter, length]
    exact weightless_write h m o v
  | openCollector c => exact weightless_openCollector h m c
  | closeCollector c => exact weightless_closeCollector h m c
  | track c v => exact weightless_track h m c v
  | add c o =>
    rw [pooledAfter, length]
    exact weightless_add h m c o
  | remove c o =>
    rw [step, pooledAfter, length]
    split
    · next collector s found _ =>
      exact h.settle_remove found s (fun _ _ => rfl) fun _ _ _ => rfl
    · exact h
  | removeSlot c s =>
    rw [step, pooledAfter, length]
    split
    · exact h
    · next collector found =>
      exact h.settle_remove found s (fun _ _ => rfl) fun _ _ _ => rfl
  | isPending c o =>
    rw [step, pooledAfter, length]
    split <;> exact h
  | info =>
    rw [pooledAfter, length]
    exact h

/-! ## Runs -/

/-- In every state of a run the custody is weightless, and each tally is that of its log. -/
theorem weightless_after (h : k.Weightless capacity n backing tallies) (m : Nat)
    (commands : List (Command α)) :
    ∃ n', (k.after m commands).Weightless capacity n' backing
      fun c => (k.log m commands).foldl (Tally.note c) (tallies c) := by
  induction commands generalizing k n m tallies with
  | nil => exact ⟨n, h⟩
  | cons command commands ih =>
    rw [after_cons]
    exact ih (weightless_step h m command) (m + 1)

omit [Backing β] in
/-- A bare pool makes a weightless custody. -/
theorem weightless_ofPool {pool : Pool α β} (bare : pool.Bare capacity n backing) :
    (ofPool pool).Weightless capacity n backing fun _ => ⟨0, 0⟩ := by
  have none : Weightless (⟨pool, ∅, ∅⟩ : Custody α β) capacity n backing fun _ => ⟨0, 0⟩ :=
    ⟨bare, fun _ _ found => by simp at found, fun _ _ found => by simp at found⟩
  exact none.insertCollector (tells_fresh bare.empty pool) rfl fun _ _ => rfl

/-- The commands in `log`, with their replies, led to this state. Whatever command comes next, its
number is `n`. -/
structure Counted (k : Custody α β) (n capacity : Nat) (backing : β)
    (log : List (Command α × Reply α)) : Prop where
  /-- Nothing was asked of the supply and nothing went back, -/
  untouched : k.pool.backing = backing
  /-- and nothing does when the pool goes out of use. -/
  disposed : k.pool.dispose = backing
  capacity_eq : k.pool.capacity = capacity
  /-- An object is never refused, whether a collector is told of it or not. -/
  allocates : ∀ v, (k.step n (.alloc v)).reply = .allocated .dangling
  tracks : ∀ c v, k.collectors[c]?.isSome = true → (k.step n (.track c v)).reply = .done
  /-- A live object may be freed, and slots at hand are counted. -/
  frees : ∀ o, (k.live? o).isSome = true → (k.step n (.free o)).reply = .done
  pooled : ∀ command, (k.step n command).state.pool.pooled.length = k.pooledAfter command
  /-- A collector counts what it was told since it was taken into use. -/
  counts : ∀ (c : Nat) (collector : Collector), k.collectors[c]? = some collector →
    collector.Counts (tally c log).added (tally c log).removed
  /-- When it goes out of use, as many objects are destroyed as are pending. -/
  sweeps : ∀ (c : Nat) (collector : Collector), k.collectors[c]? = some collector →
    (k.step n (.closeCollector c)).destroyed.length = collector.pending

omit [Backing β] in
theorem Tally.Tells.counts {t : Tally} {pool : Pool α β} (h : t.Tells pool collector) :
    collector.Counts t.added t.removed := by
  obtain ⟨p, rfl, count, -⟩ := h
  rw [← count]
  exact Collector.counts_counting p t.removed

/-- A weightless custody counts as its log tells. -/
theorem Weightless.counted {log : List (Command α × Reply α)}
    (h : k.Weightless capacity n backing fun c => tally c log) (m : Nat) :
    k.Counted m capacity backing log where
  untouched := h.pool.backing_eq
  disposed := h.pool.dispose
  capacity_eq := h.pool.capacity_eq
  allocates := fun v => by
    obtain ⟨p', made, -⟩ := h.make m v
    rw [step, made]
    rfl
  tracks := fun c v used => by
    obtain ⟨collector, found⟩ := Option.isSome_iff_exists.1 used
    obtain ⟨p', made, stored, after⟩ := h.make m v
    obtain ⟨collector', added, -⟩ := (after.collectors c collector found).add stored .dangling
    simp only [step, found, made, Outcome.reply_keeping, added, settle]
  frees := fun o alive => by
    obtain ⟨⟨j, s⟩, found⟩ := Option.isSome_iff_exists.1 alive
    have empty : k.isZeroSized = true := h.pool.empty
    simp only [step, found, empty, Bool.not_true, Bool.false_and, Bool.false_eq_true, if_false,
      Outcome.reply_withReply]
  pooled := fun command => (weightless_step h m command).pool.length
  counts := fun c collector found => (h.collectors c collector found).counts
  sweeps := fun c collector found => by
    simp only [step, found, Outcome.destroyed_withReply]
    exact (h.close found).2

/-- For objects without bytes: a pool is made whatever its supply would answer, with half of its
capacity at hand, and whatever is done with it and its collectors, it counts. So does a collector
alone, whichever slots it is asked about. -/
theorem counted_of_run (α : Type) {layout : Layout} (empty : layout.isZeroSized = true)
    (capacity : Nat) (backing : β) :
    ∃ pool : Pool α (Journaled β),
      Pool.create α layout capacity (Journaled.start backing) = .ok pool ∧
      pool.pooled.length = (capacity + 1) / 2 ∧
      (∀ commands : List (Command α), ((ofPool pool).after 0 commands).Counted commands.length
        capacity (Journaled.start backing) ((ofPool pool).log 0 commands)) ∧
      ∀ calls : List Call, ((Collector.ofLayout layout).run calls).Counts
        (((Collector.ofLayout layout).granted calls).countP Call.isAdd)
        (((Collector.ofLayout layout).granted calls).countP (!·.isAdd)) := by
  obtain ⟨pool, created, bare⟩ := Pool.bare_create α empty capacity (Journaled.start backing)
  refine ⟨pool, created, bare.length, fun commands => ?_, fun calls => ?_⟩
  · obtain ⟨n, after⟩ := weightless_after (weightless_ofPool bare) 0 commands
    exact after.counted commands.length
  · obtain ⟨p, r, is, added, removed⟩ := Collector.exists_counting_run 0 0 calls
    rw [Collector.ofLayout_of_empty empty, is]
    rw [Nat.add_zero, Nat.zero_add] at added
    rw [Nat.zero_add] at removed
    rw [← added, ← removed]
    exact Collector.counts_counting p r

/-- A pool of four slots, over a supply that refuses everything. Three objects are tracked and one
claim is withdrawn, from a slot that nobody was told of; then two objects are pending. -/
theorem counted_of_refusing_supply :
    Layout.unit.isZeroSized = true ∧
    ∃ pool : Pool Unit (Journaled Rationed),
      Pool.create Unit .unit 4 (Journaled.start { Rationed.endless with limit := some 0 }) =
        .ok pool ∧
      let commands : List (Command Unit) :=
        [.track 0 (), .track 0 (), .track 0 (), .removeSlot 0 7, .free (some 1)]
      let k := (ofPool pool).after 0 commands
      let log := (ofPool pool).log 0 commands
      tally 0 log = ⟨3, 1⟩ ∧ k.pool.pooled.length = 1 ∧ k.pooledAfter (.closeCollector 0) = 3 ∧
      k.Counted 5 4 (Journaled.start { Rationed.endless with limit := some 0 }) log := by
  obtain ⟨pool, created, -, counted, -⟩ :=
    counted_of_run Unit (show Layout.unit.isZeroSized = true from rfl) 4
      { Rationed.endless with limit := some 0 }
  cases created
  exact ⟨rfl, _, rfl, rfl, rfl, rfl, counted _⟩

end Custody

end Substrate
