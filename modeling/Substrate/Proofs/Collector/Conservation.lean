import Mathlib.Data.List.Basic
import Substrate.Proofs.Collector.Safety
import Substrate.Proofs.Pool.Disposal

/-!
# Substrate.Proofs.Collector.Conservation

Slots and payloads are conserved. Whatever a command is, the pool and the objects see one of five
uses of it (`Use`, `use_step`): nothing, an object that is made, one that is released, one that is
overwritten, or a sweep. A use keeps the pool within its capacity (`Use.fits`) and balances the
payloads: those of the live objects before it and those handed in are those of the live objects
after it and those destroyed (`Use.payloads`).

The main result is `conserves_of_run`, for a pool that is used and then goes out of use.
-/

namespace Substrate

variable {α β : Type}

namespace Custody

/-! ## Payloads of the live objects -/

/-- What is stored in the slots of the live ones among numbered objects. -/
def payloadsIn (pool : Pool α β) (objects : Std.TreeMap Nat Object) : List α :=
  (liveSlotsOf objects).filterMap pool.read

theorem livePayloads_eq (k : Custody α β) : k.livePayloads = payloadsIn k.pool k.objects := by
  rw [livePayloads, payloadsIn, liveSlotsOf, List.filterMap_filterMap]
  refine congrArg (List.filterMap · k.objects.toList) (funext ?_)
  rintro ⟨_, o⟩
  by_cases live : o.standing = .live <;> simp [live]

/-- Only the payloads in live slots count. -/
theorem payloadsIn_congr {pool pool' : Pool α β} {objects : Std.TreeMap Nat Object}
    (reads : ∀ s ∈ liveSlotsOf objects, pool'.read s = pool.read s) :
    payloadsIn pool' objects = payloadsIn pool objects := by
  unfold payloadsIn
  exact List.filterMap_congr reads

variable [Backing β]

/-! ## Uses -/

/-- The payloads that a command hands in. One that is skipped takes none. -/
def taken (k : Custody α β) : Command α → List α
  | .alloc v => [v]
  | .write o v => if (k.live? o).isSome then [v] else []
  | .track c v => if k.collectors[c]?.isSome then [v] else []
  | _ => []

/-- What command number `n` can do to the pool and the objects of `k`: the payloads it hands in,
the pool and the objects after it, and the payloads it destroys. -/
inductive Use (k : Custody α β) (n : Nat) :
    List α → Pool α β → Std.TreeMap Nat Object → List α → Prop where
  | quiet : Use k n [] k.pool k.objects []
  | make (v : α) :
    Use k n [v] (k.make n v).state.pool (k.make n v).state.objects (k.make n v).destroyed
  | release (m : Nat) (s : Slot) (found : k.objects[m]? = some ⟨s, .live⟩) :
    Use k n [] (k.release m s).state.pool (k.release m s).state.objects (k.release m s).destroyed
  | write (m : Nat) (s : Slot) (v : α) (found : k.objects[m]? = some ⟨s, .live⟩) :
    Use k n [v] (k.pool.write s v).state k.objects (k.pool.write s v).destroyed
  | close (c : Nat) (collector : Collector) (found : k.collectors[c]? = some collector) :
    Use k n [] (k.close c collector).state.pool (k.close c collector).state.objects
      (k.close c collector).destroyed

variable {k : Custody α β} {n : Nat} {outside : List Slot}

/-- Putting a collector into another state is no use of the pool. -/
theorem use_settle (c : Nat) (answer : Except CollectorError Collector) :
    Use k n [] (k.settle c answer).state.pool (k.settle c answer).state.objects
      (k.settle c answer).destroyed := by
  cases answer <;> exact .quiet

/-- Every command is one of the five uses. -/
theorem use_step [LawfulBacking β] (h : k.Accounted n outside) (command : Command α) :
    Use k n (k.taken command) (k.step n command).state.pool (k.step n command).state.objects
      (k.step n command).destroyed := by
  have sized : k.isZeroSized = false := h.stores.sized
  cases command with
  | alloc v =>
    rw [step]
    split <;> exact .make v
  | free o =>
    rw [step]
    cases found : k.live? o with
    | none => exact .quiet
    | some ms =>
      obtain ⟨m, s⟩ := ms
      dsimp only
      split
      · exact .quiet
      · exact .release m s (live?_eq_some.1 found).2
  | read o =>
    rw [step]
    split <;> exact .quiet
  | write o v =>
    rw [step, taken]
    cases found : k.live? o with
    | none => exact .quiet
    | some ms => exact .write ms.1 ms.2 v (live?_eq_some.1 found).2
  | openCollector c =>
    rw [step]
    cases found : k.collectors[c]? with
    | none => exact .quiet
    | some collector => exact .close c collector found
  | closeCollector c =>
    rw [step]
    cases found : k.collectors[c]? with
    | none => exact .quiet
    | some collector => exact .close c collector found
  | track c v =>
    rw [step, taken]
    cases found : k.collectors[c]? with
    | none => exact .quiet
    | some collector =>
      have made := Use.make (k := k) (n := n) v
      rcases make_cases h v with ⟨s, p', is, -, -⟩ | ⟨e, p', is, -, -⟩ <;>
        rw [is] at made <;> simp only [is]
      · obtain ⟨collector', added⟩ := exists_add_of_made h found (congrArg (·.reply) is)
        rw [added]
        exact made
      · exact made
  | add c o =>
    rw [step]
    split
    · split
      · exact .quiet
      · exact use_settle c _
    · exact .quiet
  | remove c o =>
    rw [step]
    split
    · exact use_settle c _
    · exact .quiet
  | removeSlot c s =>
    rw [step]
    split
    · exact .quiet
    · exact use_settle c _
  | isPending c o =>
    rw [step]
    split <;> exact .quiet
  | info => exact .quiet

/-! ## Payloads of one use -/

/-- A payload that is handed over is kept, or destroyed at a refusal. -/
theorem payloads_make [LawfulBacking β] (h : k.Accounted n outside) (v : α) :
    (v :: payloadsIn k.pool k.objects).Perm ((k.make n v).destroyed ++
      payloadsIn (k.make n v).state.pool (k.make n v).state.objects) := by
  rcases make_cases h v with ⟨s, p', made, stores, reads⟩ | ⟨e, p', made, -, reads⟩
  · have fresh : s ∉ k.liveSlots := fun mem =>
      (List.nodup_cons.1 stores.nodup_used).1 (List.mem_append_left _ mem)
    have others : payloadsIn p' k.objects = payloadsIn k.pool k.objects :=
      payloadsIn_congr fun r live => by
        rw [reads, if_neg]
        rintro rfl
        exact fresh live
    have slots := (liveSlots_insert_live (s := s) h.fresh).filterMap p'.read
    rw [List.filterMap_cons, reads, if_pos rfl] at slots
    rw [made, ← others]
    exact slots.symm
  · rw [made, payloadsIn_congr fun r _ => reads r]
    rfl

/-- Freeing an object destroys its payload. -/
theorem payloads_release {m : Nat} {s : Slot} (found : k.objects[m]? = some ⟨s, .live⟩) :
    (payloadsIn k.pool k.objects).Perm ((k.release m s).destroyed ++
      payloadsIn (k.release m s).state.pool (k.release m s).state.objects) := by
  have slots := (liveSlots_perm_of_ended found .freed (by simp)).filterMap k.pool.read
  have same : payloadsIn (k.release m s).state.pool (k.release m s).state.objects =
      payloadsIn k.pool (k.release m s).state.objects :=
    payloadsIn_congr fun r _ => k.pool.read_free s r
  have destroyed : (k.release m s).destroyed = (k.pool.read s).toList := by
    simp only [release, Pool.free]
  rw [same, destroyed]
  refine slots.trans (List.Perm.of_eq ?_)
  rw [List.filterMap_cons]
  cases k.pool.read s <;> rfl

omit [Backing β] in
/-- Writing to an object replaces its payload. -/
theorem payloads_write (nodup : k.liveSlots.Nodup) {m : Nat} {s : Slot}
    (found : k.objects[m]? = some ⟨s, .live⟩) (v : α) :
    (v :: payloadsIn k.pool k.objects).Perm
      ((k.pool.read s).toList ++ payloadsIn (k.pool.write s v).state k.objects) := by
  -- The object keeps its slot, so its payload is split off before and after.
  have slots := liveSlots_perm_of_ended found .freed (by simp)
  have fresh := (List.nodup_cons.1 (slots.nodup_iff.1 nodup)).1
  have reads := k.pool.read_write s v
  have before := slots.filterMap k.pool.read
  have after := slots.filterMap (k.pool.write s v).state.read
  have others : payloadsIn (k.pool.write s v).state (k.objects.insert m ⟨s, .freed⟩) =
      payloadsIn k.pool (k.objects.insert m ⟨s, .freed⟩) :=
    payloadsIn_congr fun r live => by
      rw [reads, if_neg]
      rintro rfl
      exact fresh live
  rw [List.filterMap_cons] at before after
  rw [reads, if_pos rfl] at after
  replace after := after.trans (List.Perm.of_eq (congrArg (v :: ·) others))
  refine (before.cons v).trans (List.Perm.trans ?_ (after.symm.append_left _))
  cases k.pool.read s with
  | none => rfl
  | some w => exact List.Perm.swap w v _

/-- Closing a collector destroys the payloads of the objects that it sweeps. -/
theorem Accounted.payloads_close (h : k.Accounted n outside) {c : Nat} {collector : Collector}
    (found : k.collectors[c]? = some collector) :
    (payloadsIn k.pool k.objects).Perm ((k.close c collector).destroyed ++
      payloadsIn (k.close c collector).state.pool (k.close c collector).state.objects) := by
  have split := (h.perm_sweep found).filterMap k.pool.read
  have others : payloadsIn (k.pool.freeAll collector.sweep).state
      (k.objects.map fun _ o => mark collector.sweep o) =
      (k.liveSlots.filter (decide <| · ∉ collector.sweep)).filterMap k.pool.read := by
    rw [payloadsIn, liveSlots_mark]
    exact List.filterMap_congr fun r _ => k.pool.read_freeAll collector.sweep r
  rw [List.filterMap_append] at split
  rw [close_eq h.stores.sized, others, Pool.destroyed_freeAll]
  exact split

/-! ## What a use keeps -/

section

variable {taken : List α} {pool : Pool α β} {objects : Std.TreeMap Nat Object}
  {destroyed : List α} {layout : Layout} {capacity : Nat}

/-- A use of the pool leaves it within its capacity. -/
theorem Use.fits (use : Use k n taken pool objects destroyed)
    (h : k.pool.Fits layout capacity) : pool.Fits layout capacity := by
  cases use with
  | quiet => exact h
  | make v =>
    have fits := h.alloc v
    rw [Custody.make]
    split <;> exact fits
  | release m s found => exact h.free s
  | write m s v found => exact h.write s v
  | close c collector found => exact h.freeAll collector.sweep

/-- The payloads before a use and those handed in are those after it and those destroyed. -/
theorem Use.payloads [LawfulBacking β] (use : Use k n taken pool objects destroyed)
    (h : k.Accounted n outside) :
    (taken ++ payloadsIn k.pool k.objects).Perm (destroyed ++ payloadsIn pool objects) := by
  cases use with
  | quiet => rfl
  | make v => exact payloads_make h v
  | release m s found => exact payloads_release found
  | write m s v found => exact payloads_write h.nodup_liveSlots found v
  | close c collector found => exact h.payloads_close found

end

/-! ## Runs -/

/-- The payloads that commands hand in, in order. -/
def handed (k : Custody α β) (n : Nat) : List (Command α) → List α
  | [] => []
  | c :: cs => k.taken c ++ (k.step n c).state.handed (n + 1) cs

theorem fits_after [LawfulBacking β] {layout : Layout} {capacity : Nat}
    (h : k.Accounted n outside) (fits : k.pool.Fits layout capacity)
    (commands : List (Command α)) : (k.after n commands).pool.Fits layout capacity := by
  induction commands generalizing k n with
  | nil => exact fits
  | cons command commands ih =>
    rw [after_cons]
    exact ih (orderly_step h command).2 ((use_step h command).fits fits)

/-- Over a run, every payload handed in is destroyed by a command or is that of a live object. -/
theorem payloads_after [LawfulBacking β] (h : k.Accounted n outside)
    (commands : List (Command α)) :
    (k.handed n commands ++ k.livePayloads).Perm
      ((k.runFrom n commands).flatMap (·.destroyed) ++ (k.after n commands).livePayloads) := by
  induction commands generalizing k n with
  | nil => exact List.Perm.refl _
  | cons command commands ih =>
    have first := (use_step h command).payloads h
    have rest := ih (orderly_step h command).2
    rw [← livePayloads_eq, ← livePayloads_eq] at first
    rw [handed, runFrom, after_cons, List.flatMap_cons]
    exact balance_trans first rest

/-- The slots of a pool and of its objects are kept apart and none is lost. The slots in `outside`
were out before the pool was made. -/
structure Conserves (k : Custody α β) (capacity : Nat) (outside : List Slot) : Prop where
  capacity_eq : k.pool.capacity = capacity
  /-- The pool keeps no more slots than it may. -/
  pooled_le : k.pool.pooled.length ≤ capacity
  /-- No slot is pooled twice, none is that of two live objects, and none is both. -/
  nodup_pooled : k.pool.pooled.Nodup
  apart : ∀ (m m' : Nat) (s : Slot), k.objects[m]? = some ⟨s, .live⟩ →
    k.objects[m']? = some ⟨s, .live⟩ → m = m'
  unpooled : ∀ (m : Nat) (s : Slot), k.objects[m]? = some ⟨s, .live⟩ → s ∉ k.pool.pooled
  /-- All of these are out. -/
  pooled_out : ∀ s ∈ k.pool.pooled, s ∈ Backing.allocated k.pool.backing
  live_out : ∀ (m : Nat) (s : Slot), k.objects[m]? = some ⟨s, .live⟩ →
    s ∈ Backing.allocated k.pool.backing
  /-- Nothing else is. -/
  balance : (Backing.allocated k.pool.backing).length =
    k.pool.pooled.length + k.liveSlots.length + outside.length
  /-- A pool that goes out of use gives back each pooled slot once, and nothing else. -/
  returned : Pool.GivesBack k.pool.layout k.pool.backing k.pool.pooled k.pool.dispose
  /-- It destroys nothing: no payload belongs to a pooled slot. -/
  spared : k.pool.close.destroyed = []
  /-- The slots of the objects that were never freed stay out. -/
  left : (Backing.allocated k.pool.dispose).Perm (k.liveSlots ++ outside)

/-- Whatever keeps the books conserves payloads. -/
theorem Accounted.conserves [LawfulBacking β] {layout : Layout} {capacity : Nat}
    (h : k.Accounted n outside) (fits : k.pool.Fits layout capacity) :
    k.Conserves capacity outside where
  capacity_eq := fits.capacity_eq
  pooled_le := fits.le
  nodup_pooled := (List.nodup_append.1 h.stores.nodup).1
  apart := fun m m' s => eq_of_live h.nodup_liveSlots
  unpooled := fun m s found =>
    h.stores.not_mem_pooled (List.mem_append_left _ (mem_liveSlots.2 ⟨m, found⟩))
  pooled_out := fun s mem => h.stores.perm.mem_iff.2 (List.mem_append_left _ mem)
  live_out := fun m s found => h.stores.perm.mem_iff.2
    (List.mem_append_right _ (List.mem_append_left _ (mem_liveSlots.2 ⟨m, found⟩)))
  balance := by rw [h.stores.length_eq, List.length_append, Nat.add_assoc]
  returned := h.stores.givesBack_dispose
  spared := k.pool.destroyed_close
  left := h.stores.allocated_dispose

/-- Whatever is made, freed, read and written, and whichever attempts the supply refuses: slots are
conserved in every state, and also when the pool goes out of use then, which destroys nothing. The
payloads handed in are those destroyed by a command and those of the live objects. -/
theorem conserves_of_run [LawfulBacking β] {layout : Layout} {capacity : Nat} {backing : β}
    {pool : Pool α β} (sized : layout.isZeroSized = false)
    (nodup : (Backing.allocated backing).Nodup)
    (created : Pool.create α layout capacity backing = .ok pool) (commands : List (Command α)) :
    ((ofPool pool).after 0 commands).Conserves capacity (Backing.allocated backing) ∧
      ((ofPool pool).handed 0 commands).Perm
        (((ofPool pool).runFrom 0 commands).flatMap (·.destroyed) ++
          ((ofPool pool).after 0 commands).livePayloads) := by
  have start := accounted_ofPool (Pool.stores_create sized nodup created)
  have fits := fits_after start (Pool.fits_create created) commands
  have payloads := payloads_after start commands
  have none : (ofPool pool).livePayloads = [] := rfl
  rw [none, List.append_nil] at payloads
  exact ⟨(accounted_after start commands).conserves fits, payloads⟩

/-- A pool of one slot whose second attempt is refused: object 0 takes the pooled slot, 11 finds no
storage, and of the slots of objects 0 and 2 one is pooled and one goes back. Object 5 is never
freed. -/
theorem conserves_of_refused_attempt :
    ∃ pool : Pool Nat Rationed,
      Pool.create Nat (.word 8) 1 { Rationed.endless with refused := [2] } = .ok pool ∧
      let commands : List (Command Nat) := [.alloc 10, .alloc 11, .alloc 12, .free (some 0),
        .free (some 2), .alloc 13, .write (some 5) 14]
      let k := (ofPool pool).after 0 commands
      (Layout.word 8).isZeroSized = false ∧
      (Backing.allocated { Rationed.endless with refused := [2] }).Nodup ∧
      ((ofPool pool).runFrom 0 commands).flatMap (·.destroyed) = [11, 10, 12, 13] ∧
      k.livePayloads = [14] ∧ k.pool.dispose.inUse = [1] ∧
      k.Conserves 1 [] ∧
      ((ofPool pool).handed 0 commands).Perm
        (((ofPool pool).runFrom 0 commands).flatMap (·.destroyed) ++ k.livePayloads) := by
  have created : Pool.create Nat (.word 8) 1 { Rationed.endless with refused := [2] } =
      .ok ⟨.word 8, 1, [1], Rationed.afterIssue { Rationed.endless with refused := [2] }, ∅⟩ := rfl
  exact ⟨_, created, rfl, List.nodup_nil, rfl, rfl, rfl,
    conserves_of_run rfl List.nodup_nil created _⟩

end Custody

end Substrate
