import Substrate.Collector.Staging
import Substrate.Proofs.Collector.Claims
import Substrate.Proofs.Pool.Trips

/-!
# Substrate.Proofs.Collector.Staging

Objects under the guard of a collector. `Guards s staged used` says that the collector has pending
just the slots `staged`, and that these and the slots `used` of all other objects are what the pool
has handed out. A new object takes a slot that is in neither list, so the collector cannot refuse
it; what is staged is pending, so a withdrawal cannot be refused either. Staging therefore fails
with the supply alone, and not even then while pooled slots last (`Guards.exists_stages`), and
retiring does not fail (`Guards.retires`). Either way the collector has pending what is staged and
not retired, and a sweep frees just that (`Guards.sweep_perm`).
-/

namespace Substrate

variable {α β : Type} [Backing β]

namespace Pool

variable {p : Pool α β} {v : α}

/-- Making an object takes the slot on top of the pool, or finds none there. -/
theorem frame_alloc (p : Pool α β) (v : α) :
    (p.alloc v).state.layout = p.layout ∧
      ((∃ s, (p.alloc v).reply = .ok s ∧ p.pooled = s :: (p.alloc v).state.pooled) ∨
        p.pooled = [] ∧ (p.alloc v).state.pooled = []) := by
  obtain ⟨layout, -, kept⟩ := p.freshSlot_frame
  rcases p.alloc_cases v with
      ⟨r, rest, pooled, is⟩ | ⟨r, q, dry, fresh, is⟩ | ⟨e, q, dry, fresh, is⟩ <;>
    rw [is]
  · exact ⟨rfl, .inl ⟨r, rfl, pooled⟩⟩
  · rw [fresh] at layout kept
    exact ⟨layout, .inr ⟨dry, kept.trans dry⟩⟩
  · rw [fresh] at layout kept
    exact ⟨layout, .inr ⟨dry, kept.trans dry⟩⟩

/-- As many objects can be made as there are pooled slots and granted requests. -/
theorem grants_iff_alloc (sized : p.layout.isZeroSized = false) (v : α) (n : Nat) :
    Backing.Grants p.layout p.backing (n + 1 - p.pooled.length) ↔
      (∃ s, (p.alloc v).reply = .ok s) ∧ Backing.Grants p.layout (p.alloc v).state.backing
        (n - (p.alloc v).state.pooled.length) := by
  rcases alloc_cases_of_sized sized v with
      ⟨r, rest, pooled, is⟩ | ⟨r, dry, answer, is⟩ | ⟨e, dry, answer, is⟩ <;>
    rw [is]
  · rw [pooled, List.length_cons, Nat.add_sub_add_right]
    exact (and_iff_right ⟨r, rfl⟩).symm
  · rw [dry, List.length_nil, Nat.sub_zero, Backing.Grants, answer]
    simp only [Outcome.state_keeping, List.length_nil, Nat.sub_zero]
    exact and_congr_left fun _ => ⟨fun _ => ⟨r, rfl⟩, fun _ => ⟨r, rfl⟩⟩
  · rw [dry, List.length_nil, Nat.sub_zero, Backing.Grants, answer]
    constructor <;> rintro ⟨⟨s, made⟩, -⟩ <;> cases made

/-- Where there is room, a freed slot is pooled on top. -/
theorem pooled_free_of_room (room : p.pooled.length < p.capacity) (s : Slot) :
    (p.free s).state.pooled = s :: p.pooled := by
  unfold free
  rw [if_pos room]

end Pool

namespace Staging

variable {s : Staging α β} {staged used slots rest : List Slot} {vs : List α}

/-! ## Guarded slots -/

/-- The collector has the slots `staged` pending, and `used` are the slots of all other objects. -/
structure Guards (s : Staging α β) (staged used : List Slot) : Prop where
  stores : s.pool.Stores (staged ++ used)
  distinct : s.collector.Distinct
  pending : ∀ r, s.collector.isPending r = true ↔ r ∈ staged

/-- A new collector has nothing pending. -/
theorem guards_start {pool : Pool α β} (stores : pool.Stores used) :
    (start pool).Guards [] used where
  stores := stores
  distinct := Collector.distinct_ofLayout stores.sized
  pending := fun r => by simp [start, Collector.isPending_ofLayout stores.sized]

/-- The order of what is staged does not matter. -/
theorem Guards.congr {staged' : List Slot} (guards : s.Guards staged used)
    (same : staged.Perm staged') : s.Guards staged' used where
  stores := guards.stores.congr (same.append_right used)
  distinct := guards.distinct
  pending := fun r => (guards.pending r).trans same.mem_iff

theorem Guards.nodup (guards : s.Guards staged used) : (staged ++ used).Nodup :=
  guards.stores.nodup_used

/-- A sweep frees what is staged, each slot once. -/
theorem Guards.sweep_perm (guards : s.Guards staged used) : s.collector.sweep.Perm staged := by
  have nodup := (List.nodup_append.1 guards.nodup).1
  refine (List.perm_ext_iff_of_nodup (Collector.nodup_sweep guards.distinct) nodup).2 fun r => ?_
  rw [Collector.mem_sweep guards.distinct, guards.pending]

/-- Nothing happens when a collector goes out of use that guards nothing. -/
theorem Guards.abandon_of_nil (guards : s.Guards [] used) : s.abandon = .keeping () s.pool := by
  rw [abandon, guards.sweep_perm.eq_nil]
  rfl

/-! ## Staging -/

/-- The outcome `o` of staging `vs`, as far as it came: the slots of the objects that were made. -/
structure Stages (s : Staging α β) (vs : List α) (staged used slots : List Slot)
    (o : Outcome (Staging α β) (Except Failure (List Slot)) α) : Prop where
  /-- The objects that were made are guarded with the earlier ones, the latest first. -/
  guards : o.state.Guards (slots.reverse ++ staged) used
  /-- Everything is staged, or the supply refused the next object. -/
  answer : (o.reply = .ok slots ∧ slots.length = vs.length ∧ o.destroyed = []) ∨
    ∃ e v, o.reply = .error (.allocation e) ∧ vs[slots.length]? = some v ∧ o.destroyed = [v]
  contents : slots.map o.state.pool.read = (vs.take slots.length).map some
  kept : ∀ r ∈ staged ++ used, o.state.pool.read r = s.pool.read r
  /-- The pooled slots are used first, from the top. -/
  reused : slots.take s.pool.pooled.length = s.pool.pooled.take slots.length
  pooled : o.state.pool.pooled = s.pool.pooled.drop slots.length
  fits : ∀ {layout capacity}, s.pool.Fits layout capacity → o.state.pool.Fits layout capacity
  /-- The supply is asked only when no slot is pooled any more, and its first refusal ends it. -/
  granted : ∀ i ≤ vs.length, (Backing.Grants s.pool.layout s.pool.backing
    (i - s.pool.pooled.length) ↔ i ≤ slots.length)
  dry : slots.length < vs.length → o.state.pool.pooled = []
  /-- A collector that handed nothing to an owner yet sweeps what is staged last first. -/
  sweep : s.collector.released = 0 → o.state.collector.sweep = slots.reverse ++ s.collector.sweep

/-- The slots that were staged hold the payloads, in order. -/
theorem Stages.payloads {o : Outcome (Staging α β) (Except Failure (List Slot)) α}
    (stages : s.Stages vs staged used slots o) :
    slots.filterMap o.state.pool.read = vs.take slots.length := by
  have joined := congrArg (List.filterMap id) stages.contents
  simpa only [List.filterMap_map, Function.id_comp, List.filterMap_some] using joined

/-- Everything is staged where the supply grants the requests that the pool cannot meet. -/
theorem Stages.length_eq {o : Outcome (Staging α β) (Except Failure (List Slot)) α}
    (stages : s.Stages vs staged used slots o) (grants : Backing.Grants s.pool.layout
      s.pool.backing (vs.length - s.pool.pooled.length)) : slots.length = vs.length := by
  refine Nat.le_antisymm ?_ ((stages.granted vs.length (Nat.le_refl _)).1 grants)
  rcases stages.answer with ⟨-, length, -⟩ | ⟨e, v, -, next, -⟩
  · exact Nat.le_of_eq length
  · exact Nat.le_of_lt (List.getElem?_eq_some_iff.1 next).1

/-- A slot that the collector does not have pending is taken up. -/
theorem Guards.exists_add (guards : s.Guards staged used) {slot : Slot} {pool : Pool α β}
    (stores : pool.Stores (slot :: (staged ++ used))) :
    ∃ collector, s.collector.add slot = .ok collector ∧
      Guards ⟨pool, collector⟩ (slot :: staged) used := by
  have nodup := stores.nodup_used
  rw [List.nodup_cons, List.mem_append, not_or] at nodup
  rcases Collector.add_eq guards.distinct slot with ⟨pending, -⟩ | ⟨-, c, added, distinct, pending⟩
  · exact absurd ((guards.pending slot).1 pending) nodup.1.1
  · refine ⟨c, added, stores, distinct, fun r => ?_⟩
    rw [pending, Bool.or_eq_true, decide_eq_true_eq, guards.pending, List.mem_cons]

variable [LawfulBacking β]

omit [LawfulBacking β] in
/-- The first object is made and taken up, and the others are staged after it. -/
theorem stage_cons {v : α} {slot : Slot} {collector : Collector}
    (made : (s.pool.alloc v).reply = .ok slot) (none : (s.pool.alloc v).destroyed = [])
    (added : s.collector.add slot = .ok collector) (vs : List α) :
    s.stage (v :: vs) =
      ⟨(stage ⟨(s.pool.alloc v).state, collector⟩ vs).reply.map (slot :: ·),
        (stage ⟨(s.pool.alloc v).state, collector⟩ vs).state,
        (stage ⟨(s.pool.alloc v).state, collector⟩ vs).destroyed⟩ := by
  simp only [stage, made, added, none, List.nil_append]

omit [LawfulBacking β] in
/-- What is staged after a first object is staged with it. -/
theorem Stages.cons {v : α} {slot : Slot} {collector : Collector}
    {o : Outcome (Staging α β) (Except Failure (List Slot)) α}
    (sized : s.pool.layout.isZeroSized = false) (distinct : s.collector.Distinct)
    (made : (s.pool.alloc v).reply = .ok slot) (fresh : slot ∉ staged ++ used)
    (added : s.collector.add slot = .ok collector)
    (stages : Stages ⟨(s.pool.alloc v).state, collector⟩ vs (slot :: staged) used slots o) :
    s.Stages (v :: vs) staged used (slot :: slots)
      ⟨o.reply.map (slot :: ·), o.state, o.destroyed⟩ := by
  have read := Pool.read_alloc made
  constructor
  case guards =>
    rw [List.reverse_cons, List.append_assoc]
    exact stages.guards
  case answer =>
    rcases stages.answer with ⟨reply, length, kept⟩ | ⟨e, w, reply, next, gone⟩
    · refine .inl ⟨?_, by rw [List.length_cons, List.length_cons, length], kept⟩
      rw [reply]
      rfl
    · refine .inr ⟨e, w, ?_, next, gone⟩
      rw [reply]
      rfl
  case contents =>
    have here := stages.kept slot (List.mem_append_left _ List.mem_cons_self)
    rw [List.map_cons, List.length_cons, List.take_succ_cons, List.map_cons, stages.contents]
    exact congrArg (· :: _) (here.trans ((read slot).trans (if_pos rfl)))
  case kept =>
    intro r mem
    have other : r ≠ slot := by
      rintro rfl
      exact fresh mem
    exact (stages.kept r (List.mem_cons_of_mem _ mem)).trans ((read r).trans (if_neg other))
  case reused =>
    have later := stages.reused
    rcases (s.pool.frame_alloc v).2 with ⟨r, made', top⟩ | ⟨dry, -⟩
    · cases made.symm.trans made'
      rw [top]
      exact congrArg (slot :: ·) later
    · simp [dry]
  case pooled =>
    have later := stages.pooled
    rcases (s.pool.frame_alloc v).2 with ⟨r, -, top⟩ | ⟨dry, dry'⟩
    · rw [top]
      exact later
    · rw [dry'] at later
      simpa [dry] using later
  case fits => exact fun fits => stages.fits (fits.alloc v)
  case granted =>
    intro i le
    cases i with
    | zero => exact iff_of_true (by rw [Nat.zero_sub]; trivial) (Nat.zero_le _)
    | succ i =>
      have later := stages.granted i (Nat.le_of_succ_le_succ le)
      rw [(s.pool.frame_alloc v).1] at later
      rw [Pool.grants_iff_alloc sized v, and_iff_right ⟨slot, made⟩, later]
      exact Nat.succ_le_succ_iff.symm
  case dry => exact fun fewer => stages.dry (Nat.lt_of_succ_lt_succ fewer)
  case sweep =>
    intro unreleased
    obtain ⟨unreleased', first⟩ := Collector.sweep_add distinct unreleased added
    rw [stages.sweep unreleased', first, List.reverse_cons, List.append_assoc]
    rfl

/-- Staging goes on until the supply refuses. -/
theorem Guards.exists_stages (guards : s.Guards staged used) (vs : List α) :
    ∃ slots, s.Stages vs staged used slots (s.stage vs) := by
  induction vs generalizing s staged with
  | nil =>
    refine ⟨[], guards, .inl ⟨rfl, rfl, rfl⟩, rfl, fun _ _ => rfl, List.take_nil, rfl, id,
      fun i le => ?_, fun fewer => absurd fewer (Nat.lt_irrefl 0), fun _ => rfl⟩
    refine iff_of_true ?_ le
    rw [Nat.le_zero.1 le, Nat.zero_sub]
    trivial
  | cons v vs ih =>
    have sized := guards.stores.sized
    rcases Pool.stores_alloc guards.stores v with
      ⟨slot, made, stores, none⟩ | ⟨e, refused, stores, gone, contents⟩
    · obtain ⟨collector, added, guards'⟩ := guards.exists_add stores
      obtain ⟨slots, stages⟩ := ih guards'
      rw [stage_cons made none added]
      exact ⟨slot :: slots, stages.cons sized guards.distinct made
        (List.nodup_cons.1 stores.nodup_used).1 added⟩
    · have ended : s.stage (v :: vs) =
          ⟨.error (.allocation e), { s with pool := (s.pool.alloc v).state }, [v]⟩ := by
        simp only [stage, refused, gone]
      rw [ended]
      obtain ⟨dry, dry'⟩ : s.pool.pooled = [] ∧ (s.pool.alloc v).state.pooled = [] := by
        refine (s.pool.frame_alloc v).2.resolve_left ?_
        rintro ⟨r, made, -⟩
        cases refused.symm.trans made
      refine ⟨[], ⟨stores, guards.distinct, guards.pending⟩, .inr ⟨e, v, rfl, rfl, rfl⟩, rfl, ?_,
        List.take_nil, dry'.trans dry.symm, fun fits => fits.alloc v, ?_, fun _ => dry',
        fun _ => rfl⟩
      · intro r _
        exact congrArg (fun m : Std.TreeMap Slot α => m[r]?) contents
      · intro i le
        cases i with
        | zero => exact iff_of_true (by rw [Nat.zero_sub]; trivial) (Nat.zero_le _)
        | succ i =>
          refine iff_of_false (fun grants => ?_) (Nat.not_succ_le_zero i)
          obtain ⟨slot, made⟩ := ((Pool.grants_iff_alloc sized v i).1 grants).1
          cases refused.symm.trans made

/-! ## Retiring -/

/-- The outcome `o` of retiring the objects in `slots`, while those in `rest` stay staged. -/
structure Retires (s : Staging α β) (slots rest used : List Slot)
    (o : Outcome (Staging α β) (Except Failure Unit) α) : Prop where
  reply : o.reply = .ok ()
  guards : o.state.Guards rest used
  destroyed : o.destroyed = slots.filterMap s.pool.read
  kept : ∀ r, o.state.pool.read r = s.pool.read r
  fits : ∀ {layout capacity}, s.pool.Fits layout capacity → o.state.pool.Fits layout capacity
  /-- The slots are pooled where there is room for all of them. -/
  pooled : slots.length + s.pool.pooled.length ≤ s.pool.capacity →
    o.state.pool.pooled = slots.reverse ++ s.pool.pooled

omit [LawfulBacking β] in
/-- What is staged can be withdrawn, and is an object like all others then. -/
theorem Guards.exists_withdrawn {slot : Slot} (guards : s.Guards (slot :: staged) used) :
    ∃ collector, s.collector.remove slot = .ok collector ∧
      Guards ⟨s.pool, collector⟩ staged (slot :: used) := by
  have nodup := (List.nodup_append.1 guards.nodup).1
  rw [List.nodup_cons] at nodup
  rcases Collector.remove_eq guards.distinct slot with
    ⟨free, -⟩ | ⟨-, c, removed, distinct, pending⟩
  · rw [(guards.pending slot).2 List.mem_cons_self] at free
    cases free
  · refine ⟨c, removed, guards.stores.congr List.perm_middle.symm, distinct, fun r => ?_⟩
    rw [pending, Bool.and_eq_true, guards.pending, List.mem_cons]
    by_cases same : r = slot
    · subst same
      simp [nodup.1]
    · simp [same]

/-- An object that is withdrawn can be freed. -/
theorem Guards.free {slot : Slot} (guards : s.Guards staged (slot :: used)) :
    Guards ⟨(s.pool.free slot).state, s.collector⟩ staged used where
  stores := Pool.stores_free (guards.stores.congr List.perm_middle)
  distinct := guards.distinct
  pending := guards.pending

/-- Retiring what is staged does not fail. -/
theorem Guards.retires (guards : s.Guards (slots ++ rest) used) :
    s.Retires slots rest used (s.retire slots) := by
  induction slots generalizing s with
  | nil => exact ⟨rfl, guards, rfl, fun _ => rfl, id, fun _ => rfl⟩
  | cons slot slots ih =>
    obtain ⟨collector, removed, guards'⟩ := guards.exists_withdrawn
    have retires := ih guards'.free
    have read : (s.pool.free slot).state.read = s.pool.read :=
      funext fun r => s.pool.read_free slot r
    have retired_eq : s.retire (slot :: slots) =
        ⟨(retire ⟨(s.pool.free slot).state, collector⟩ slots).reply,
          (retire ⟨(s.pool.free slot).state, collector⟩ slots).state,
          (s.pool.read slot).toList ++
            (retire ⟨(s.pool.free slot).state, collector⟩ slots).destroyed⟩ := by
      simp only [retire, removed]
      rfl
    rw [retired_eq]
    generalize retire ⟨(s.pool.free slot).state, collector⟩ slots = o at retires
    refine ⟨retires.reply, retires.guards, ?_, fun r => ?_, fun fits => ?_, fun room => ?_⟩
    · rw [retires.destroyed, read, List.filterMap_cons]
      cases s.pool.read slot <;> rfl
    · rw [retires.kept, read]
    · exact retires.fits (fits.free slot)
    · rw [List.length_cons] at room
      have here := Pool.pooled_free_of_room (p := s.pool) (by omega) slot
      have capacity : (s.pool.free slot).state.capacity = s.pool.capacity := by
        unfold Pool.free
        split <;> rfl
      have later := retires.pooled (by rw [here, capacity, List.length_cons]; omega)
      rw [later, here, List.reverse_cons, List.append_assoc]
      rfl

end Staging

end Substrate
