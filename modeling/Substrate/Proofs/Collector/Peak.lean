import Substrate.Proofs.Collector.Conservation
import Substrate.Proofs.Collector.Staging
import Substrate.Proofs.Pool.Trips

/-!
# Substrate.Proofs.Collector.Peak

How much a pool asks of its supply. `Pool.Metered` says that nothing was given back so far, and that
the slots that were granted, which are those pooled and those of live objects, are as many as were
laid in at first or as the most objects that ever lived at once. A slot is requested only when none
is pooled, so the number of slots grows only where the number of live objects reaches a new peak
(`Metered.alloc`); and while the peak is within the capacity, there is room in the pool for every
slot that is freed (`Metered.freeAll`).

The main result is `traffic_of_run`.
-/

namespace Substrate

variable {α β : Type} [Backing β]

namespace Pool

/-- The trips of a pool so far: `live` objects live now, and at most `most` lived at once. -/
structure Metered (p : Pool α (Journaled β)) (live most : Nat) : Prop where
  le : live ≤ most
  kept : p.backing.trips.countP Trip.isGiveBack = 0
  granted : p.backing.trips.countP Trip.isGrant = p.pooled.length + live
  slots : p.pooled.length + live = max ((p.capacity + 1) / 2) most

variable {p q : Pool α (Journaled β)} {live most : Nat} {layout : Layout} {capacity : Nat}

/-- A new pool has asked for the slots that it was filled with, and for no others. -/
theorem metered_create {backing : β} (sized : layout.isZeroSized = false)
    (created : create α layout capacity (Journaled.start backing) = .ok p) :
    p.Metered 0 0 := by
  rcases create_cases α sized capacity (Journaled.start backing) with
    ⟨-, ss, enough, answers, is⟩ | ⟨-, ss, e, -, -, is⟩
  · rw [created] at is
    obtain rfl := Except.ok.inj is
    have trips : (Backing.after layout (Journaled.start backing) (ss.map .grant)).trips =
        ss.map .grant := congrArg (·.trips) (Journaled.after_eq answers)
    constructor
    case le => exact Nat.le_refl 0
    case kept =>
      rw [trips, List.countP_map, List.countP_eq_zero]
      exact fun s _ => Bool.false_ne_true
    case granted =>
      rw [trips, List.countP_map, List.length_reverse]
      exact List.countP_eq_length.2 fun s _ => rfl
    case slots => rw [List.length_reverse, enough, Nat.add_zero, Nat.max_zero]
  · rw [created] at is
    cases is

omit [Backing β] in
/-- More trips, none of which gives a slot back, must be made up for by the slots that are held. -/
theorem Metered.extend (h : p.Metered live most) {live' most' : Nat} {trips : List Trip}
    (made : q.backing.trips = p.backing.trips ++ trips) (same : q.capacity = p.capacity)
    (kept : trips.countP Trip.isGiveBack = 0)
    (held : q.pooled.length + live' = p.pooled.length + live + trips.countP Trip.isGrant)
    (le : live' ≤ most')
    (peak : max ((p.capacity + 1) / 2) most' =
      max ((p.capacity + 1) / 2) most + trips.countP Trip.isGrant) : q.Metered live' most' where
  le := le
  kept := by rw [made, List.countP_append, h.kept, kept]
  granted := by rw [made, List.countP_append, h.granted, held]
  slots := by rw [held, h.slots, same, peak]

/-- Making an object takes a slot that is pooled, or one that is granted when none is pooled any
more, and then more objects live than ever before. -/
theorem Metered.alloc (h : p.Metered live most) (sized : p.layout.isZeroSized = false) (v : α) :
    (∃ s, (p.alloc v).reply = .ok s ∧
        (p.alloc v).state.Metered (live + 1) (max most (live + 1))) ∨
      ∃ e, (p.alloc v).reply = .error e ∧ (p.alloc v).state.Metered live most := by
  have trips := trips_alloc sized v
  have slots := h.slots
  rw [allocTrips] at trips
  rcases alloc_cases_of_sized sized v with
      ⟨s, rest, pooled, is⟩ | ⟨s, dry, answer, is⟩ | ⟨e, dry, answer, is⟩ <;>
    rw [is] at trips ⊢
  · rw [pooled, List.length_cons] at slots
    rw [pooled] at trips
    refine .inl ⟨s, rfl, h.extend trips rfl rfl ?_ (Nat.le_max_right ..) ?_⟩
    · rw [pooled]
      exact Nat.add_right_comm _ 1 live ▸ rfl
    · rw [List.countP_nil]
      omega
  · rw [dry, List.length_nil] at slots
    rw [dry, answer] at trips
    have one : [Trip.grant s].countP Trip.isGrant = 1 := rfl
    refine .inl ⟨s, rfl, h.extend trips rfl rfl ?_ (Nat.le_max_right ..) ?_⟩
    · rw [one]
      exact (Nat.add_assoc ..).symm
    · rw [one]
      omega
  · rw [dry, answer] at trips
    exact .inr ⟨e, rfl, h.extend trips rfl rfl rfl h.le rfl⟩

/-- While no more objects lived at once than the pool may keep slots, it has room for the slots that
are freed. -/
theorem Metered.freeAll {ss : List Slot} (h : p.Metered (ss.length + live) most)
    (sized : p.layout.isZeroSized = false) (few : most ≤ p.capacity) :
    (p.freeAll ss).state.Metered live most := by
  have slots := h.slots
  have room : ss.length ≤ p.room := by
    unfold Pool.room
    omega
  have trips := trips_freeAll sized ss (p := p)
  rw [freeTrips, List.drop_eq_nil_of_le room] at trips
  rw [freeAll_eq, List.take_of_length_le room] at trips ⊢
  refine h.extend trips rfl rfl ?_ (Nat.le_trans (Nat.le_add_left ..) h.le) rfl
  simp only [List.length_append, List.length_reverse, List.map_nil, List.countP_nil]
  omega

end Pool

namespace Custody

/-- The largest number of objects that live at once while commands run, numbered from `n`. -/
def peak (k : Custody α β) (n : Nat) : List (Command α) → Nat
  | [] => k.liveSlots.length
  | c :: cs => max k.liveSlots.length ((k.step n c).state.peak (n + 1) cs)

/-- No state has more live objects than the peak. -/
theorem length_liveSlots_le_peak (k : Custody α β) (n : Nat) (commands : List (Command α)) :
    k.liveSlots.length ≤ k.peak n commands := by
  cases commands with
  | nil => exact Nat.le_refl _
  | cons c cs => exact Nat.le_max_left ..

variable {k : Custody α (Journaled β)} {n most : Nat} {outside : List Slot} {layout : Layout}
  {capacity : Nat}

/-- A use keeps the count, if it does not make more objects live than the pool may keep slots. -/
theorem Use.metered {taken : List α} {pool : Pool α (Journaled β)}
    {objects : Std.TreeMap Nat Object} {destroyed : List α}
    (use : Use k n taken pool objects destroyed) (h : k.Accounted n outside)
    (metered : k.pool.Metered k.liveSlots.length most) (few : most ≤ k.pool.capacity) :
    pool.Metered (liveSlotsOf objects).length (max most (liveSlotsOf objects).length) := by
  have sized := h.stores.sized
  have settle : ∀ {q : Pool α (Journaled β)} {live : Nat}, q.Metered live most →
      q.Metered live (max most live) := fun {_ _} counted => by
    rwa [Nat.max_eq_left counted.le]
  cases use with
  | quiet => exact settle metered
  | write m s v found =>
    exact settle ⟨metered.le, metered.kept, metered.granted, metered.slots⟩
  | make v =>
    rcases metered.alloc sized v with ⟨s, reply, counted⟩ | ⟨e, reply, counted⟩
    · have more := (liveSlots_insert_live (s := s) h.fresh).length_eq
      rw [List.length_cons] at more
      rw [Custody.make, reply, more]
      exact counted
    · rw [Custody.make, reply]
      exact settle counted
  | release m s found =>
    have fewer := (liveSlots_perm_of_ended found .freed (by simp)).length_eq
    have counted : k.pool.Metered
        ([s].length + (liveSlotsOf (k.objects.insert m ⟨s, .freed⟩)).length) most := by
      rw [liveSlots, fewer, List.length_cons, Nat.add_comm] at metered
      exact metered
    have freed := counted.freeAll sized few
    rw [← Pool.free_eq] at freed
    exact settle freed
  | close c collector found =>
    have fewer := (h.perm_sweep found).length_eq
    have slots := liveSlots_mark k.objects collector.sweep
    rw [List.length_append] at fewer
    rw [close_eq sized, slots]
    rw [fewer] at metered
    exact settle (metered.freeAll sized few)

variable [LawfulBacking β]

/-- Over a run that makes no more objects live at once than the pool may keep slots, the peak of the
run is counted in. -/
theorem metered_after (h : k.Accounted n outside) (fits : k.pool.Fits layout capacity)
    (metered : k.pool.Metered k.liveSlots.length most) (few : most ≤ capacity)
    {commands : List (Command α)} (room : k.peak n commands ≤ capacity) :
    (k.after n commands).pool.Metered (k.after n commands).liveSlots.length
      (max most (k.peak n commands)) := by
  induction commands generalizing k n most with
  | nil =>
    rw [peak, Nat.max_eq_left metered.le]
    exact metered
  | cons command commands ih =>
    have use := use_step h command
    have accounted := (orderly_step h command).2
    rw [← fits.capacity_eq] at few
    have counted := use.metered h metered few
    rw [fits.capacity_eq] at few
    rw [peak] at room
    have reached : (liveSlotsOf (k.step n command).state.objects).length ≤ _ :=
      length_liveSlots_le_peak (k.step n command).state (n + 1) commands
    have later := ih accounted (use.fits fits) counted
      (Nat.max_le.2 ⟨few, Nat.le_trans reached (Nat.le_trans (Nat.le_max_right ..) room)⟩)
      (Nat.le_trans (Nat.le_max_right ..) room)
    rw [after_cons, peak, ← Nat.max_assoc, Nat.max_eq_left metered.le]
    rw [Nat.max_assoc, Nat.max_eq_right reached] at later
    exact later

/-- Whatever is made, freed and swept, in whatever order, and whichever attempts the supply refuses:
as long as no more objects live at once than the pool may keep slots, nothing is given back to the
supply, and it grants as many slots as are laid in at first, or as objects lived at once at most. -/
theorem traffic_of_run {backing : β} {pool : Pool α (Journaled β)}
    (sized : layout.isZeroSized = false) (nodup : (Backing.allocated backing).Nodup)
    (created : Pool.create α layout capacity (Journaled.start backing) = .ok pool)
    (commands : List (Command α)) (few : (ofPool pool).peak 0 commands ≤ capacity) :
    let trips := ((ofPool pool).after 0 commands).pool.backing.trips
    (∀ t ∈ trips, t.isGiveBack = false) ∧
      trips.countP Trip.isGrant = max ((capacity + 1) / 2) ((ofPool pool).peak 0 commands) := by
  have free : (Backing.allocated (Journaled.start backing)).Nodup := nodup
  have start := accounted_ofPool (Pool.stores_create sized free created)
  have fits := Pool.fits_create created
  have metered := metered_after start fits (Pool.metered_create sized created) (Nat.zero_le _) few
  have reached := fits_after start fits commands
  refine ⟨fun t mem => ?_, ?_⟩
  · have kept := List.countP_eq_zero.1 metered.kept t mem
    exact Bool.eq_false_iff.2 kept
  · rw [metered.granted, metered.slots, reached.capacity_eq, Nat.zero_max]

/-- A pool of four slots, two of which are laid in. Three objects live at once at most: the third
one finds no storage at first, and later its slot and that of object 0 are used again. -/
theorem traffic_of_refused_attempt :
    ∃ pool : Pool Nat (Journaled Rationed),
      Pool.create Nat (.word 8) 4 (Journaled.start { Rationed.endless with refused := [3] }) =
        .ok pool ∧
      let commands : List (Command Nat) := [.alloc 10, .alloc 11, .alloc 12, .alloc 13,
        .free (some 0), .free (some 3), .alloc 14, .alloc 15, .free (some 1)]
      let trips := ((ofPool pool).after 0 commands).pool.backing.trips
      (Layout.word 8).isZeroSized = false ∧
      (Backing.allocated { Rationed.endless with refused := [3] }).Nodup ∧
      (ofPool pool).peak 0 commands = 3 ∧ (ofPool pool).peak 0 commands ≤ 4 ∧
      (∀ t ∈ trips, t.isGiveBack = false) ∧
      trips.countP Trip.isGrant = max ((4 + 1) / 2) ((ofPool pool).peak 0 commands) := by
  have created : Pool.create Nat (.word 8) 4
      (Journaled.start { Rationed.endless with refused := [3] }) =
      .ok ⟨.word 8, 4, [2, 1], ⟨({ Rationed.endless with refused := [3] }).afterIssue.afterIssue,
        [.grant 1, .grant 2]⟩, ∅⟩ := rfl
  exact ⟨_, created, rfl, List.nodup_nil, rfl, by decide,
    traffic_of_run rfl List.nodup_nil created _ (by decide)⟩

end Custody

end Substrate
