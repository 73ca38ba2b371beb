import Substrate.Proofs.Collector.Conservation
import Substrate.Proofs.Pool.Trips

/-!
# Substrate.Proofs.Collector.Nesting

Objects that are made and freed like brackets: the one that is freed is always the latest one that
is left. The pooled slots are then taken from the top down and come back in reverse, so that at
every depth of nesting it is the same slot that is next. `Pool.Lends p q d` says that `q` is the
pool `p` without its top `d` slots. Making an object lends one slot more (`Lends.alloc`), and
freeing the latest one takes its slot back, for which there is room (`Lends.free`). `Nests` carries
this through a run, with the objects that are left and the slots they are in.

The main result is `restores_of_run`.
-/

namespace Substrate

variable {α β : Type} [Backing β]

namespace Pool

/-- Pool `q` is `p` while the top `depth` slots are lent to objects. -/
structure Lends (p q : Pool α β) (depth : Nat) : Prop where
  capacity : q.capacity = p.capacity
  pooled : q.pooled = p.pooled.drop depth
  backing : q.backing = p.backing

variable {p q : Pool α β} {depth : Nat} {s : Slot}

omit [Backing β] in
/-- At first no slot is lent. -/
theorem lends_self (p : Pool α β) : p.Lends p 0 := ⟨rfl, rfl, rfl⟩

/-- The next object gets the next slot. -/
theorem Lends.alloc (h : p.Lends q depth) (next : p.pooled[depth]? = some s) (v : α) :
    ∃ q', q.alloc v = .keeping (.ok s) q' ∧ p.Lends q' (depth + 1) := by
  obtain ⟨lt, is⟩ := List.getElem?_eq_some_iff.1 next
  have pooled : q.pooled = s :: p.pooled.drop (depth + 1) := by
    rw [h.pooled, ← is, List.getElem_cons_drop]
  exact ⟨_, alloc_of_pooled pooled v, h.capacity, rfl, h.backing⟩

/-- There is room for the slot that was lent last, and it comes back on top. -/
theorem Lends.free (h : p.Lends q (depth + 1)) (le : p.pooled.length ≤ p.capacity)
    (last : p.pooled[depth]? = some s) : p.Lends (q.free s).state depth := by
  obtain ⟨lt, is⟩ := List.getElem?_eq_some_iff.1 last
  have room : q.pooled.length < q.capacity := by
    rw [h.capacity, h.pooled, List.length_drop]
    omega
  have state : (q.free s).state = { q with pooled := s :: q.pooled } := by
    rw [Pool.free, if_pos room]
  rw [state]
  refine ⟨h.capacity, ?_, h.backing⟩
  rw [h.pooled, ← is, List.getElem_cons_drop]

end Pool

namespace Custody

/-! ## Nested commands -/

/-- Does the command make an object that no collector is told of? -/
def Command.isAlloc : Command α → Bool
  | alloc _ => true
  | _ => false

def Command.isFree : Command α → Bool
  | free _ => true
  | _ => false

/-- How many more objects the commands make than they free. -/
def depth (commands : List (Command α)) : Nat :=
  commands.countP Command.isAlloc - commands.countP Command.isFree

/-- Do the commands, numbered from `n`, make objects and free them all, each time the latest one
that is left, and are never more than `most` left at once? The objects in `held`, the latest first,
are left from before. -/
def isNested (most : Nat) : Nat → List Nat → List (Command α) → Bool
  | _, held, [] => held.isEmpty
  | n, held, .alloc _ :: rest => held.length < most && isNested most (n + 1) (n :: held) rest
  | n, m :: held, .free o :: rest => o == some m && isNested most (n + 1) held rest
  | _, _, _ :: _ => false

/-- The next command of a nested run makes an object, for which there is room, or frees the latest
one. -/
theorem nested_cases {most n : Nat} {held : List Nat} {command : Command α}
    {rest : List (Command α)} (nested : isNested most n held (command :: rest) = true) :
    (∃ v, command = .alloc v ∧ held.length < most ∧
        isNested most (n + 1) (n :: held) rest = true) ∨
      ∃ m held', command = .free (some m) ∧ held = m :: held' ∧
        isNested most (n + 1) held' rest = true := by
  cases command with
  | alloc v =>
    rw [isNested, Bool.and_eq_true, decide_eq_true_eq] at nested
    exact .inl ⟨v, rfl, nested⟩
  | free o =>
    cases held with
    | nil => cases nested
    | cons m held =>
      rw [isNested, Bool.and_eq_true, beq_iff_eq] at nested
      obtain ⟨rfl, nested⟩ := nested
      exact .inr ⟨m, held, rfl, rfl, nested⟩
  | _ => cases nested

/-! ## Objects in lent slots -/

/-- The objects in `held` live, and one that has `d` others after it is in the slot at index `d`. -/
def InTurn (slots : List Slot) (objects : Std.TreeMap Nat Object) : List Nat → Prop
  | [] => True
  | m :: held => (∃ s, slots[held.length]? = some s ∧ objects[m]? = some ⟨s, .live⟩) ∧
      InTurn slots objects held

/-- Another object does not matter to those that are held. -/
theorem InTurn.insert {slots : List Slot} {objects : Std.TreeMap Nat Object} {held : List Nat}
    (h : InTurn slots objects held) {m : Nat} (other : m ∉ held) (o : Object) :
    InTurn slots (objects.insert m o) held := by
  induction held with
  | nil => trivial
  | cons j held ih =>
    obtain ⟨⟨s, slot, found⟩, rest⟩ := h
    rw [List.mem_cons, not_or] at other
    refine ⟨⟨s, slot, ?_⟩, ih rest other.2⟩
    rw [Registers.getElem?_insert, if_neg (Ne.symm other.1), found]

/-- Since the state `k`, the objects in `held` were made from slots that were pooled then, each in
its turn, and are left; all others were freed again. -/
structure Nests (k k' : Custody α β) (n : Nat) (held : List Nat) : Prop where
  lends : k.pool.Lends k'.pool held.length
  collectors : k'.collectors = k.collectors
  inTurn : InTurn k.pool.pooled k'.objects held
  numbered : ∀ m ∈ held, m < n
  nodup : held.Nodup

variable {k k' : Custody α β} {n m : Nat} {held : List Nat}

omit [Backing β] in
theorem nests_self (k : Custody α β) (n : Nat) : k.Nests k n [] :=
  ⟨k.pool.lends_self, rfl, trivial, fun _ mem => absurd mem List.not_mem_nil,
    List.nodup_nil⟩

/-- While slots are pooled, a new object takes the next one in turn. -/
theorem Nests.alloc (h : k.Nests k' n held) (room : held.length < k.pool.pooled.length) (v : α) :
    ∃ s, k.pool.pooled[held.length]? = some s ∧ (k'.step n (.alloc v)).reply = .allocated s ∧
      k.Nests (k'.step n (.alloc v)).state (n + 1) (n :: held) := by
  have next := List.getElem?_eq_getElem room
  obtain ⟨q, made, lends⟩ := h.lends.alloc next v
  have stepped : k'.step n (.alloc v) = .keeping (.allocated k.pool.pooled[held.length])
      { k' with
        pool := q
        objects := k'.objects.insert n ⟨k.pool.pooled[held.length], .live⟩ } := by
    rw [step, make, made]
    rfl
  have fresh : n ∉ held := fun mem => Nat.lt_irrefl n (h.numbered n mem)
  rw [stepped]
  refine ⟨_, next, rfl, lends, h.collectors, ⟨⟨_, next, ?_⟩, h.inTurn.insert fresh _⟩,
    fun m mem => ?_, List.nodup_cons.2 ⟨fresh, h.nodup⟩⟩
  · exact (Registers.getElem?_insert ..).trans (if_pos rfl)
  · rcases List.mem_cons.1 mem with rfl | earlier
    · exact Nat.lt_succ_self m
    · exact Nat.lt_succ_of_lt (h.numbered m earlier)

/-- The slot of the latest object is pooled again, since nothing has it pending. -/
theorem Nests.free (h : k.Nests k' n (m :: held)) (fits : k.pool.pooled.length ≤ k.pool.capacity)
    (idle : ∀ s ∈ k.pool.pooled, k.isPendingAnywhere s = false) :
    (k'.step n (.free (some m))).reply = .done ∧
      k.Nests (k'.step n (.free (some m))).state (n + 1) held := by
  obtain ⟨⟨s, last, found⟩, others⟩ := h.inTurn
  have alive : k'.live? (some m) = some (m, s) := live?_eq_some.2 ⟨rfl, found⟩
  have unclaimed : k'.isPendingAnywhere s = false := by
    rw [isPendingAnywhere, h.collectors]
    exact idle s (List.mem_of_getElem? last)
  have stepped : k'.step n (.free (some m)) = (k'.release m s).withReply .done := by
    simp only [step, alive, unclaimed, Bool.and_false, Bool.false_eq_true, if_false]
  obtain ⟨other, nodup⟩ := List.nodup_cons.1 h.nodup
  rw [stepped]
  exact ⟨rfl, h.lends.free fits last, h.collectors, others.insert other _,
    fun j mem => Nat.lt_succ_of_lt (h.numbered j (List.mem_cons_of_mem m mem)), nodup⟩

/-! ## Runs -/

/-- A nested run that was begun can be gone through from any point on. -/
theorem exists_nests (fits : k.pool.pooled.length ≤ k.pool.capacity)
    (idle : ∀ s ∈ k.pool.pooled, k.isPendingAnywhere s = false) (h : k.Nests k' n held)
    {past future : List (Command α)}
    (nested : isNested k.pool.pooled.length n held (past ++ future) = true) :
    ∃ held', k.Nests (k'.after n past) (n + past.length) held' ∧
      isNested k.pool.pooled.length (n + past.length) held' future = true ∧
      held'.length + past.countP Command.isFree = held.length + past.countP Command.isAlloc := by
  induction past generalizing k' n held with
  | nil => exact ⟨held, h, nested, rfl⟩
  | cons command past ih =>
    rw [after_cons, List.length_cons, ← Nat.add_assoc, Nat.add_right_comm]
    rcases nested_cases nested with ⟨v, rfl, room, later⟩ | ⟨m, held, rfl, rfl, later⟩
    · obtain ⟨s, -, -, nests⟩ := h.alloc room v
      obtain ⟨held', nests', rest, count⟩ := ih nests later
      refine ⟨held', nests', rest, ?_⟩
      rw [List.countP_cons_of_neg (by simp [Command.isFree]),
        List.countP_cons_of_pos (by rfl), count, List.length_cons]
      omega
    · obtain ⟨-, nests⟩ := h.free fits idle
      obtain ⟨held', nests', rest, count⟩ := ih nests later
      refine ⟨held', nests', rest, ?_⟩
      rw [List.countP_cons_of_pos (by rfl), List.countP_cons_of_neg (by simp [Command.isAlloc]),
        List.length_cons]
      omega

/-- The commands, numbered from `n`, leave the pool as it is in the state `k`. -/
structure Restores (k : Custody α β) (n : Nat) (commands : List (Command α)) : Prop where
  /-- Every object is made, and those at one depth in the same slot, which is found at that depth in
  the pool. -/
  slots : ∀ past v future, commands = past ++ .alloc v :: future →
    ∃ s, k.pool.pooled[depth past]? = some s ∧
      ((k.after n past).step (n + past.length) (.alloc v)).reply = .allocated s
  /-- Every object that is to be freed lives, and is freed. -/
  freed : ∀ past o future, commands = past ++ .free o :: future →
    ((k.after n past).step (n + past.length) (.free o)).reply = .done
  /-- Nothing is asked of the supply and nothing goes back, all the time. -/
  untouched : ∀ past future, commands = past ++ future →
    (k.after n past).pool.backing = k.pool.backing
  /-- The same slots are pooled in the end, in the same order. -/
  restored : (k.after n commands).pool.pooled = k.pool.pooled

/-- Nested commands leave the pool as it is where no collector has a pooled slot pending. -/
theorem restores_of_idle (fits : k.pool.pooled.length ≤ k.pool.capacity)
    (idle : ∀ s ∈ k.pool.pooled, k.isPendingAnywhere s = false) {commands : List (Command α)}
    (nested : isNested k.pool.pooled.length n [] commands = true) : k.Restores n commands := by
  have reach : ∀ past future, commands = past ++ future → ∃ held,
      k.Nests (k.after n past) (n + past.length) held ∧
        isNested k.pool.pooled.length (n + past.length) held future = true ∧
        held.length = depth past := by
    rintro past future rfl
    obtain ⟨held, nests, rest, count⟩ := exists_nests fits idle (nests_self k n) nested
    refine ⟨held, nests, rest, ?_⟩
    rw [depth]
    rw [List.length_nil] at count
    omega
  refine ⟨fun past v future is => ?_, fun past o future is => ?_, fun past future is => ?_, ?_⟩
  · obtain ⟨held, nests, rest, level⟩ := reach past _ is
    rcases nested_cases rest with ⟨_, -, room, -⟩ | ⟨_, _, no, -⟩
    · obtain ⟨s, slot, reply, -⟩ := nests.alloc room v
      exact ⟨s, level ▸ slot, reply⟩
    · cases no
  · obtain ⟨held, nests, rest, -⟩ := reach past _ is
    rcases nested_cases rest with ⟨_, no, -⟩ | ⟨m, held, is, rfl, -⟩
    · cases no
    · cases is
      exact (nests.free fits idle).1
  · obtain ⟨held, nests, -⟩ := reach past future is
    exact nests.lends.backing
  · obtain ⟨held, nests, done, -⟩ := reach commands [] (List.append_nil _).symm
    have none : held = [] := List.isEmpty_iff.1 done
    rw [nests.lends.pooled, none, List.length_nil, List.drop_zero]

/-- Whatever was done before: objects that are made and freed like brackets, no more of them at once
than slots are pooled, leave the pool as it was, and take from it by their depth. -/
theorem restores_of_run [LawfulBacking β] {layout : Layout} {capacity : Nat} {backing : β}
    {pool : Pool α (Journaled β)} (sized : layout.isZeroSized = false)
    (nodup : (Backing.allocated backing).Nodup)
    (created : Pool.create α layout capacity (Journaled.start backing) = .ok pool)
    (past : List (Command α)) {commands : List (Command α)}
    (nested : isNested ((ofPool pool).after 0 past).pool.pooled.length past.length [] commands =
      true) :
    ((ofPool pool).after 0 past).Restores past.length commands := by
  have free : (Backing.allocated (Journaled.start backing)).Nodup := nodup
  have start := accounted_ofPool (Pool.stores_create sized free created)
  have fits := fits_after start (Pool.fits_create created) past
  have reached := accounted_after start past
  refine restores_of_idle (fits.capacity_eq ▸ fits.le) (fun s pooled => ?_) nested
  refine Bool.eq_false_iff.2 fun pending => ?_
  obtain ⟨c, pends⟩ := isPendingAnywhere_iff.1 pending
  exact reached.stores.not_mem_pooled (List.mem_append_left _ (reached.pends_live c s pends)) pooled

/-- Object 2 keeps its slot. Objects 6 and 8 are both made at depth 1, while object 5 is left, and
take the same slot of the two that are pooled. -/
theorem restores_of_two_levels :
    ∃ pool : Pool Nat (Journaled Rationed),
      Pool.create Nat (.word 8) 4 (Journaled.start Rationed.endless) = .ok pool ∧
      let past : List (Command Nat) :=
        [.alloc 10, .alloc 11, .track 0 12, .free (some 0), .free (some 1)]
      let k := (ofPool pool).after 0 past
      let commands : List (Command Nat) := [.alloc 13, .alloc 14, .free (some 6), .alloc 15,
        .free (some 8), .free (some 5)]
      (Layout.word 8).isZeroSized = false ∧ (Backing.allocated Rationed.endless).Nodup ∧
      k.pool.pooled = [1, 2] ∧
      isNested k.pool.pooled.length past.length [] commands = true ∧
      k.Restores past.length commands := by
  have created : Pool.create Nat (.word 8) 4 (Journaled.start Rationed.endless) =
      .ok ⟨.word 8, 4, [2, 1], ⟨Rationed.endless.afterIssue.afterIssue, [.grant 1, .grant 2]⟩, ∅⟩ :=
    rfl
  exact ⟨_, created, rfl, List.nodup_nil, rfl, rfl,
    restores_of_run rfl List.nodup_nil created _ rfl⟩

end Custody

end Substrate
