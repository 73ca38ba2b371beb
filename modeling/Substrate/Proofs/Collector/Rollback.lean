import Substrate.Proofs.Collector.Calls
import Substrate.Proofs.Collector.Conservation
import Substrate.Proofs.Collector.Staging

/-!
# Substrate.Proofs.Collector.Rollback

Construction in steps is all or nothing. Objects are staged from a pool under a new collector. Where
the supply refuses one of them, abandoning the collector undoes the others, and pool and live
objects are as good as before (`RollsBack`, `Accounted.rollsBack`). Where it refuses none, the
objects can be withdrawn in any order, and abandoning the collector does nothing then (`HandsOver`,
`handsOver_of_stages`).

The main result is `allOrNothing_of_run`.
-/

namespace Substrate

variable {α β : Type} [Backing β]

namespace Pool

variable {p : Pool α β} {used : List Slot}

/-- Where no slot is pooled, the slots that are freed last are kept. -/
theorem freeAll_reverse_of_dry (dry : p.pooled = []) (ss : List Slot) :
    (p.freeAll ss.reverse).state.pooled = ss.drop (ss.length - p.capacity) ∧
      (p.freeAll ss.reverse).state.backing =
        (ss.take (ss.length - p.capacity)).reverse.foldl (release p.layout) p.backing := by
  have room : p.room = p.capacity := by rw [room, dry, List.length_nil, Nat.sub_zero]
  rw [freeAll_eq, room, dry, List.append_nil, List.take_reverse, List.reverse_reverse,
    List.drop_reverse]
  exact ⟨rfl, rfl⟩

end Pool

namespace Staging

variable {s : Staging α β} {staged used slots : List Slot} {vs : List α} {layout : Layout}
  {capacity : Nat}

/-- Staged objects can be withdrawn in any order. -/
theorem Guards.withdrawn (guards : s.Guards staged used) {order : List Slot}
    (all : order.Perm staged) :
    s.collector.granted (order.map .remove) = order.map .remove ∧
      Guards ⟨s.pool, s.collector.run (order.map .remove)⟩ [] (order ++ used) := by
  replace guards := guards.congr all.symm
  clear all
  induction order generalizing s used with
  | nil => exact ⟨rfl, guards⟩
  | cons slot order ih =>
    obtain ⟨collector, removed, guards'⟩ := guards.exists_withdrawn
    obtain ⟨granted, guards''⟩ := ih guards'
    have done : s.collector.call (.remove slot) = .ok collector := removed
    simp only [List.map_cons, Collector.granted, Collector.run, done]
    exact ⟨congrArg _ granted, guards''.stores.congr List.perm_middle, guards''.distinct,
      guards''.pending⟩

end Staging

namespace Custody

open Staging

abbrev Staged (α β : Type) := Outcome (Staging α β) (Except Failure (List Slot)) α

/-- Of the payloads `vs` only those in `slots` were staged, and abandoning the collector undoes
that. -/
structure RollsBack (k : Custody α β) (capacity : Nat) (outside : List Slot) (vs : List α)
    (slots : List Slot) (o : Staged α β) : Prop where
  /-- The supply granted what the pool could not meet for these, and refused the next object, whose
  payload is destroyed. -/
  granted : Backing.Grants k.pool.layout k.pool.backing (slots.length - k.pool.pooled.length)
  refused : ¬ Backing.Grants k.pool.layout k.pool.backing
    (slots.length + 1 - k.pool.pooled.length)
  destroyed : o.destroyed = vs[slots.length]?.toList
  contents : slots.map o.state.pool.read = (vs.take slots.length).map some
  /-- The staged objects are destroyed, each once, the latest first. -/
  sweep : o.state.collector.sweep = slots.reverse
  undone : o.state.abandon.destroyed = (vs.take slots.length).reverse
  /-- The pool keeps as many of their slots as it may, and the others go back. -/
  length_pooled : o.state.abandon.state.pooled.length = min capacity slots.length
  pooled : o.state.abandon.state.pooled = slots.drop (slots.length - capacity)
  returned : Pool.GivesBack k.pool.layout o.state.pool.backing
    (slots.take (slots.length - capacity)).reverse o.state.abandon.state.backing
  /-- The live objects hold what they held, in slots of their own. -/
  untouched : ∀ (m : Nat) (s : Slot), k.objects[m]? = some ⟨s, .live⟩ →
    o.state.abandon.state.read s = k.pool.read s
  safe : Safe { k with pool := o.state.abandon.state } outside
  conserves : Conserves { k with pool := o.state.abandon.state } capacity outside

/-- All payloads `vs` are staged, and can be handed to an owner. -/
structure HandsOver (k : Custody α β) (outside : List Slot) (vs : List α) (slots : List Slot)
    (o : Staged α β) : Prop where
  /-- The supply granted what the pool could not meet, and no payload is destroyed. -/
  granted : Backing.Grants k.pool.layout k.pool.backing (slots.length - k.pool.pooled.length)
  destroyed : o.destroyed = []
  contents : slots.map o.state.pool.read = vs.map some
  untouched : ∀ (m : Nat) (s : Slot), k.objects[m]? = some ⟨s, .live⟩ →
    o.state.pool.read s = k.pool.read s
  /-- Staged and live objects are in slots of their own. -/
  stores : o.state.pool.Stores (slots ++ (k.liveSlots ++ outside))
  /-- In whatever order the objects are withdrawn, nothing happens when the collector is abandoned
  then. -/
  withdrawn : ∀ order : List Slot, order.Perm slots →
    o.state.collector.granted (order.map .remove) = order.map .remove ∧
      abandon ⟨o.state.pool, o.state.collector.run (order.map .remove)⟩ = .keeping () o.state.pool

variable [LawfulBacking β] {k : Custody α β} {n capacity : Nat} {layout : Layout}
  {outside slots : List Slot} {vs : List α} {o : Staged α β}

/-- A refusal undoes what was staged. -/
theorem Accounted.rollsBack (h : k.Accounted n outside) (fits : k.pool.Fits layout capacity)
    (stages : (start k.pool).Stages vs [] (k.liveSlots ++ outside) slots o)
    (fewer : slots.length < vs.length) (gone : o.destroyed = vs[slots.length]?.toList) :
    k.RollsBack capacity outside vs slots o := by
  have dry := stages.dry fewer
  have fits' := stages.fits fits
  have layout_eq : o.state.pool.layout = k.pool.layout := fits'.layout_eq.trans fits.layout_eq.symm
  have sweep : o.state.collector.sweep = slots.reverse := by
    rw [stages.sweep (Collector.released_ofLayout _), start, Collector.sweep_ofLayout,
      List.append_nil]
  have abandoned : o.state.abandon = o.state.pool.freeAll slots.reverse := by rw [abandon, sweep]
  obtain ⟨pooled, backing⟩ := Pool.freeAll_reverse_of_dry dry slots
  rw [fits'.capacity_eq] at pooled backing
  rw [layout_eq, Pool.release_of_sized h.stores.sized] at backing
  have untouched : ∀ s ∈ k.liveSlots, o.state.abandon.state.read s = k.pool.read s := by
    intro s live
    rw [abandoned, Pool.read_freeAll]
    exact stages.kept s (List.mem_append_right _ (List.mem_append_left _ live))
  have stores := stages.guards.stores
  rw [List.append_nil] at stores
  have left : o.state.abandon.state.Stores (k.liveSlots ++ outside) := by
    rw [abandoned]
    exact Pool.stores_freeAll stores
  have accounted := h.withPool left fun s live => by
    rw [untouched s live]
    exact h.held s live
  constructor
  case granted => exact (stages.granted _ (Nat.le_of_lt fewer)).2 (Nat.le_refl _)
  case refused => exact mt (stages.granted _ fewer).1 (Nat.not_succ_le_self _)
  case destroyed => exact gone
  case contents => exact stages.contents
  case sweep => exact sweep
  case undone =>
    rw [abandoned, Pool.destroyed_freeAll, List.filterMap_reverse, stages.payloads]
  case pooled => rw [abandoned, pooled]
  case length_pooled =>
    rw [abandoned, pooled, List.length_drop]
    omega
  case returned =>
    -- The slots that go back and those that are kept are all that are staged.
    have parts : slots.reverse.Perm ((slots.take (slots.length - capacity)).reverse ++
        slots.drop (slots.length - capacity)) := by
      refine (slots.reverse_perm.trans ?_).trans ((List.reverse_perm _).symm.append_right _)
      rw [List.take_append_drop]
    have perm := stores.perm
    rw [dry, List.nil_append] at perm
    have out := perm.trans (parts.append_right _)
    rw [List.append_assoc] at out
    rw [abandoned, backing]
    exact (Pool.givesBack_foldl _ out).1
  case untouched =>
    exact fun m s found => untouched s (mem_liveSlots.2 ⟨m, found⟩)
  case safe => exact accounted.safe
  case conserves =>
    have fits : o.state.abandon.state.Fits layout capacity := by
      rw [abandoned]
      exact fits'.freeAll _
    exact accounted.conserves fits

omit [LawfulBacking β] in
/-- What is staged can be handed over. -/
theorem handsOver_of_stages
    (stages : (start k.pool).Stages vs [] (k.liveSlots ++ outside) slots o)
    (all : slots.length = vs.length) (kept : o.destroyed = []) :
    k.HandsOver outside vs slots o := by
  have guards := stages.guards
  rw [List.append_nil] at guards
  replace guards := guards.congr slots.reverse_perm
  constructor
  case granted => exact (stages.granted _ (Nat.le_of_eq all)).2 (Nat.le_refl _)
  case destroyed => exact kept
  case contents => rw [stages.contents, all, List.take_length]
  case untouched =>
    exact fun m s found => stages.kept s
      (List.mem_append_right _ (List.mem_append_left _ (mem_liveSlots.2 ⟨m, found⟩)))
  case stores => exact guards.stores
  case withdrawn =>
    intro order perm
    obtain ⟨granted, guards'⟩ := guards.withdrawn perm
    exact ⟨granted, guards'.abandon_of_nil⟩

/-- Whatever a pool was used for before, and whichever attempts the supply refuses: payloads that
are staged under a new collector come to objects all of them, or to nothing at all. -/
theorem allOrNothing_of_run {backing : β} {pool : Pool α β} (sized : layout.isZeroSized = false)
    (nodup : (Backing.allocated backing).Nodup)
    (created : Pool.create α layout capacity backing = .ok pool) (commands : List (Command α))
    (vs : List α) :
    let k := (ofPool pool).after 0 commands
    let o := (start k.pool).stage vs
    ∃ slots : List Slot, slots.Nodup ∧
      (∀ (m : Nat) (s : Slot), k.objects[m]? = some ⟨s, .live⟩ → s ∉ slots) ∧
      ((∃ e, o.reply = .error (.allocation e) ∧ slots.length < vs.length ∧
          k.RollsBack capacity (Backing.allocated backing) vs slots o) ∨
        (o.reply = .ok slots ∧ slots.length = vs.length ∧
          k.HandsOver (Backing.allocated backing) vs slots o)) := by
  intro k o
  have begun := accounted_ofPool (Pool.stores_create sized nodup created)
  have h := accounted_after begun commands
  have fits := fits_after begun (Pool.fits_create created) commands
  obtain ⟨slots, stages⟩ := (guards_start h.stores).exists_stages vs
  have apart := stages.guards.nodup
  rw [List.append_nil, List.nodup_append] at apart
  refine ⟨slots, slots.reverse_perm.nodup_iff.1 apart.1, fun m s found mem => ?_, ?_⟩
  · exact apart.2.2 s (List.mem_reverse.2 mem) s
      (List.mem_append_left _ (mem_liveSlots.2 ⟨m, found⟩)) rfl
  rcases stages.answer with ⟨ok, all, kept⟩ | ⟨e, v, failed, next, gone⟩
  · exact .inr ⟨ok, all, handsOver_of_stages stages all kept⟩
  · have fewer : slots.length < vs.length := (List.getElem?_eq_some_iff.1 next).1
    refine .inl ⟨e, failed, fewer, h.rollsBack fits stages fewer ?_⟩
    rw [next]
    exact gone

/-- A pool of one slot whose fifth attempt is refused. Object 1 lives, and slot 1 is pooled again,
when four payloads are to be staged: three are, one of their slots is kept and two go back. Without
the last payload nothing is refused. -/
theorem allOrNothing_of_refused_attempt :
    ∃ pool : Pool Nat Rationed,
      Pool.create Nat (.word 8) 1 { Rationed.endless with refused := [5] } = .ok pool ∧
      let commands : List (Command Nat) := [.alloc 10, .alloc 11, .free (some 0)]
      let k := (ofPool pool).after 0 commands
      let o := (start k.pool).stage [20, 21, 22, 23]
      let o' := (start k.pool).stage [20, 21, 22]
      (Layout.word 8).isZeroSized = false ∧
      (Backing.allocated { Rationed.endless with refused := [5] }).Nodup ∧
      o.reply = .error (.allocation (.noMemory (.word 8))) ∧
      o.state.abandon.destroyed = [22, 21, 20] ∧ o.state.abandon.state.pooled = [4] ∧
      (∃ slots : List Slot, slots.length < 4 ∧ k.RollsBack 1 [] [20, 21, 22, 23] slots o) ∧
      o'.reply = .ok [1, 3, 4] ∧ k.HandsOver [] [20, 21, 22] [1, 3, 4] o' := by
  have created : Pool.create Nat (.word 8) 1 { Rationed.endless with refused := [5] } =
      .ok ⟨.word 8, 1, [1], Rationed.afterIssue { Rationed.endless with refused := [5] }, ∅⟩ := rfl
  have outcomes := allOrNothing_of_run rfl List.nodup_nil created
    [.alloc 10, .alloc 11, .free (some 0)]
  refine ⟨_, created, rfl, List.nodup_nil, rfl, rfl, rfl, ?_, rfl, ?_⟩
  · rcases outcomes [20, 21, 22, 23] with ⟨slots, -, -, ⟨e, -, fewer, undone⟩ | ⟨ok, -, -⟩⟩
    · exact ⟨slots, fewer, undone⟩
    · cases ok
  · rcases outcomes [20, 21, 22] with ⟨slots, -, -, ⟨e, failed, -, -⟩ | ⟨ok, -, done⟩⟩
    · cases failed
    · cases ok
      exact done

end Custody

end Substrate
