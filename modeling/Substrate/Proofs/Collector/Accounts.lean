import Substrate.Proofs.Collector.Claims
import Substrate.Proofs.Collector.Roster
import Substrate.Proofs.Pool.Storage

/-!
# Substrate.Proofs.Collector.Accounts

The books of a pool and the collectors over it. `Accounted` couples them: what the supply has handed
out is pooled or holds a live object, what a collector has pending holds a live object, and no slot
is pending in two collectors. Each single use keeps the books: making an object (`make_cases`),
releasing one that nothing has pending (`accounted_release`), changing one collector
(`Accounted.insertCollector`) and taking one out of use (`accounted_close`).
-/

namespace Substrate

variable {α β : Type}

namespace Custody

def liveSlots (k : Custody α β) : List Slot := liveSlotsOf k.objects

/-- Collector `c` has slot `s` pending. -/
def Pends (k : Custody α β) (c : Nat) (s : Slot) : Prop :=
  ∃ collector, k.collectors[c]? = some collector ∧ collector.isPending s = true

def payload? (k : Custody α β) (m : Nat) : Option α :=
  k.objects[m]?.bind fun o => k.pool.read o.slot

variable [Backing β]

/-- The pool, the live objects and the collectors agree on every slot. All objects so far have a
number below `n`, and the slots in `outside` were out before the pool was made. -/
structure Accounted (k : Custody α β) (n : Nat) (outside : List Slot) : Prop where
  stores : k.pool.Stores (k.liveSlots ++ outside)
  distinct : ∀ (c : Nat) (collector : Collector), k.collectors[c]? = some collector →
    collector.Distinct
  pends_live : ∀ c s, k.Pends c s → s ∈ k.liveSlots
  pends_once : ∀ c c' s, k.Pends c s → k.Pends c' s → c = c'
  held : ∀ s ∈ k.liveSlots, ∃ v, k.pool.read s = some v
  numbered : ∀ (m : Nat) (o : Object), k.objects[m]? = some o → m < n

variable {k : Custody α β} {n : Nat} {outside : List Slot} {c : Nat} {collector : Collector}
  {s : Slot}

omit [Backing β] in
theorem mem_liveSlots : s ∈ k.liveSlots ↔ ∃ m : Nat, k.objects[m]? = some ⟨s, .live⟩ :=
  mem_liveSlotsOf

omit [Backing β] in
theorem live?_eq_some {o : Ref} {m : Nat} :
    k.live? o = some (m, s) ↔ o = some m ∧ k.objects[m]? = some ⟨s, .live⟩ := by
  cases o with
  | none => simp [live?, object?]
  | some j =>
    cases found : k.objects[j]? with
    | none =>
      simp only [live?, object?, found, Option.bind_eq_bind, Option.bind_some, Option.bind_none,
        reduceCtorEq, Option.some.injEq, false_iff, not_and]
      rintro rfl
      simp [found]
    | some object =>
      obtain ⟨slot, standing⟩ := object
      cases standing <;>
        simp only [live?, object?, found, Option.bind_eq_bind, Option.bind_some, Option.pure_def,
          Option.some.injEq, Prod.mk.injEq, reduceCtorEq, false_iff, not_and]
      · constructor
        · rintro ⟨rfl, rfl⟩
          exact ⟨rfl, found⟩
        · rintro ⟨rfl, found'⟩
          rw [found] at found'
          cases found'
          exact ⟨rfl, rfl⟩
      · rintro rfl
        simp [found]
      · rintro rfl
        simp [found]

omit [Backing β] in
/-- A slot is pending anywhere if it is pending in some collector. -/
theorem isPendingAnywhere_iff : k.isPendingAnywhere s = true ↔ ∃ c, k.Pends c s := by
  simp only [isPendingAnywhere, List.any_eq_true, Prod.exists,
    Std.TreeMap.mem_toList_iff_getElem?_eq_some, Pends]

omit [Backing β] in
theorem isPendingElsewhere_iff :
    k.isPendingElsewhere c s = true ↔ ∃ c', c' ≠ c ∧ k.Pends c' s := by
  simp only [isPendingElsewhere, List.any_eq_true, Prod.exists, Bool.and_eq_true, bne_iff_ne,
    Std.TreeMap.mem_toList_iff_getElem?_eq_some, Pends]
  constructor
  · rintro ⟨c', collector, found, other, pending⟩
    exact ⟨c', other, collector, found, pending⟩
  · rintro ⟨c', other, collector, found, pending⟩
    exact ⟨c', collector, found, other, pending⟩

theorem Accounted.nodup_liveSlots (h : k.Accounted n outside) : k.liveSlots.Nodup :=
  (List.nodup_append.1 h.stores.nodup_used).1

/-- The numbers below a bound are below a greater one. -/
theorem Accounted.mono (h : k.Accounted n outside) {n' : Nat} (le : n ≤ n') :
    k.Accounted n' outside :=
  { h with numbered := fun m o found => Nat.lt_of_lt_of_le (h.numbered m o found) le }

theorem Accounted.fresh (h : k.Accounted n outside) : k.objects[n]? = none := by
  cases found : k.objects[n]? with
  | none => rfl
  | some o => exact absurd (h.numbered n o found) (Nat.lt_irrefl n)

/-- Another pool will do if it stores the same slots and the live ones still hold something. -/
theorem Accounted.withPool (h : k.Accounted n outside) {p' : Pool α β}
    (stores : p'.Stores (k.liveSlots ++ outside))
    (held : ∀ s ∈ k.liveSlots, ∃ v, p'.read s = some v) :
    Accounted { k with pool := p' } n outside :=
  ⟨stores, h.distinct, h.pends_live, h.pends_once, held, h.numbered⟩

/-! ## Objects come -/

/-- A new object takes a slot that no live object has; a refused one changes nothing. -/
theorem make_cases [LawfulBacking β] (h : k.Accounted n outside) (v : α) :
    (∃ s p', k.make n v =
          ⟨.ok s, { k with pool := p', objects := k.objects.insert n ⟨s, .live⟩ }, []⟩ ∧
        p'.Stores (s :: (k.liveSlots ++ outside)) ∧
        ∀ r, p'.read r = if r = s then some v else k.pool.read r) ∨
      (∃ e p', k.make n v = ⟨.error e, { k with pool := p' }, [v]⟩ ∧
        p'.Stores (k.liveSlots ++ outside) ∧ ∀ r, p'.read r = k.pool.read r) := by
  rcases Pool.stores_alloc h.stores v with ⟨s, ok, stores, none⟩ | ⟨e, no, stores, gone, contents⟩
  · refine .inl ⟨s, _, ?_, stores, Pool.read_alloc ok⟩
    rw [make, ok, none]
  · refine .inr ⟨e, _, ?_, stores, fun r => ?_⟩
    · rw [make, no, gone]
    · rw [Pool.read, contents]
      rfl

/-- A collector takes up the slot of a new object, which nothing has pending. -/
theorem exists_add_of_made [LawfulBacking β] (h : k.Accounted n outside)
    (found : k.collectors[c]? = some collector) {v : α} (made : (k.make n v).reply = .ok s) :
    ∃ collector', collector.add s = .ok collector' := by
  rcases make_cases h v with ⟨s', p', is, stores, -⟩ | ⟨e, p', is, -, -⟩ <;>
    rw [is] at made <;> cases made
  have fresh : s ∉ k.liveSlots ++ outside := (List.nodup_cons.1 stores.nodup_used).1
  rcases Collector.add_eq (h.distinct c collector found) s with
    ⟨pending, -⟩ | ⟨-, collector', added, -, -⟩
  · exact absurd (List.mem_append_left _ (h.pends_live c s ⟨collector, found, pending⟩)) fresh
  · exact ⟨collector', added⟩

/-- A new object in a slot that was not in use keeps the books. -/
theorem Accounted.insertLive (h : k.Accounted n outside) {p' : Pool α β} {v : α}
    (stores : p'.Stores (s :: (k.liveSlots ++ outside)))
    (reads : ∀ r, p'.read r = if r = s then some v else k.pool.read r) :
    Accounted { k with pool := p', objects := k.objects.insert n ⟨s, .live⟩ } (n + 1) outside := by
  have slots := liveSlots_insert_live (s := s) h.fresh
  have mem : ∀ r, r ∈ liveSlotsOf (k.objects.insert n ⟨s, .live⟩) ↔ r = s ∨ r ∈ k.liveSlots := by
    intro r
    rw [slots.mem_iff, List.mem_cons]
    rfl
  refine ⟨stores.congr ((slots.append_right outside).symm), h.distinct, fun c r pends => ?_,
    h.pends_once, fun r live => ?_, fun m o found => ?_⟩
  · exact (mem r).2 (.inr (h.pends_live c r pends))
  · change ∃ v, p'.read r = some v
    rw [reads]
    split
    · exact ⟨v, rfl⟩
    · next other => exact h.held r (((mem r).1 live).resolve_left other)
  · rw [Registers.getElem?_insert] at found
    split at found
    · next same => exact same ▸ Nat.lt_succ_self m
    · exact Nat.lt_succ_of_lt (h.numbered m o found)

/-! ## Objects go -/

/-- The slot of a live object is one of those in use. -/
theorem Accounted.stores_of_live (h : k.Accounted n outside) {m : Nat}
    (found : k.objects[m]? = some ⟨s, .live⟩) :
    k.pool.Stores ([s] ++ (liveSlotsOf (k.objects.insert m ⟨s, .freed⟩) ++ outside)) :=
  h.stores.congr ((liveSlots_perm_of_ended found .freed (by simp)).append_right outside)

/-- An object that no collector has pending may be released. -/
theorem accounted_release [LawfulBacking β] (h : k.Accounted n outside) {m : Nat}
    (found : k.objects[m]? = some ⟨s, .live⟩) (free : ∀ c, ¬ k.Pends c s) :
    (k.release m s).state.Accounted n outside := by
  have slots := liveSlots_perm_of_ended found .freed (by simp)
  have mem : ∀ r, r ∈ k.liveSlots ↔
      r = s ∨ r ∈ liveSlotsOf (k.objects.insert m ⟨s, .freed⟩) := by
    intro r
    rw [liveSlots, slots.mem_iff, List.mem_cons]
  refine ⟨Pool.stores_free (h.stores_of_live found), h.distinct, fun c r pends => ?_, h.pends_once,
    fun r live => ?_, fun j o found' => ?_⟩
  · refine ((mem r).1 (h.pends_live c r pends)).resolve_left ?_
    rintro rfl
    exact free c pends
  · obtain ⟨v, read⟩ := h.held r ((mem r).2 (.inr live))
    exact ⟨v, (k.pool.read_free s r).trans read⟩
  · simp only [release, Registers.getElem?_insert] at found'
    split at found'
    · next same => exact same ▸ h.numbered m _ found
    · exact h.numbered j o found'

/-! ## Collectors -/

omit [Backing β] in
/-- Replacing a collector matters to its own pending slots alone. -/
theorem pends_insert {c' : Nat} :
    Pends { k with collectors := k.collectors.insert c collector } c' s ↔
      (c' = c ∧ collector.isPending s = true) ∨ (c' ≠ c ∧ k.Pends c' s) := by
  simp only [Pends, Registers.getElem?_insert]
  by_cases same : c' = c <;> simp [same]

/-- A collector may be put into use, or changed, when all it has pending is live and pending in no
other one. -/
theorem Accounted.insertCollector (h : k.Accounted n outside) (distinct : collector.Distinct)
    (live : ∀ s, collector.isPending s = true → s ∈ k.liveSlots)
    (once : ∀ s c', collector.isPending s = true → k.Pends c' s → c' = c) :
    Accounted { k with collectors := k.collectors.insert c collector } n outside := by
  refine ⟨h.stores, fun c' collector' found => ?_, fun c' s pends => ?_,
    fun c₁ c₂ s pends₁ pends₂ => ?_,
    h.held, h.numbered⟩
  · rw [Registers.getElem?_insert] at found
    split at found
    · cases found
      exact distinct
    · exact h.distinct c' collector' found
  · rcases pends_insert.1 pends with ⟨-, pending⟩ | ⟨-, pends⟩
    · exact live s pending
    · exact h.pends_live c' s pends
  · rcases pends_insert.1 pends₁ with ⟨rfl, pending₁⟩ | ⟨other₁, kept₁⟩ <;>
      rcases pends_insert.1 pends₂ with ⟨rfl, pending₂⟩ | ⟨other₂, kept₂⟩
    · rfl
    · exact absurd (once s c₂ pending₁ kept₂) other₂
    · exact absurd (once s c₁ pending₂ kept₁) other₁
    · exact h.pends_once c₁ c₂ s kept₁ kept₂

/-- A new collector has nothing pending. -/
theorem accounted_fresh (h : k.Accounted n outside) (c : Nat) :
    Accounted { k with collectors := k.collectors.insert c (.ofLayout k.pool.layout) } n
      outside := by
  have nothing := Collector.isPending_ofLayout h.stores.sized
  refine h.insertCollector (Collector.distinct_ofLayout h.stores.sized) ?_ ?_
  · intro s pending
    rw [nothing] at pending
    cases pending
  · intro s c' pending
    rw [nothing] at pending
    cases pending

/-- A collector takes up a live slot that no other one has pending. -/
theorem accounted_add (h : k.Accounted n outside) (found : k.collectors[c]? = some collector)
    (live : s ∈ k.liveSlots) (elsewhere : ∀ c', k.Pends c' s → c' = c) {collector' : Collector}
    (added : collector.add s = .ok collector') :
    Accounted { k with collectors := k.collectors.insert c collector' } n outside := by
  rcases Collector.add_eq (h.distinct c collector found) s with
    ⟨-, refused⟩ | ⟨-, collector'', added', distinct, pending⟩
  · rw [added] at refused
    cases refused
  rw [added] at added'
  cases added'
  refine h.insertCollector distinct (fun r pends => ?_) fun r c' pends pends' => ?_
  · rw [pending, Bool.or_eq_true, decide_eq_true_eq] at pends
    rcases pends with rfl | pends
    · exact live
    · exact h.pends_live c r ⟨collector, found, pends⟩
  · rw [pending, Bool.or_eq_true, decide_eq_true_eq] at pends
    rcases pends with rfl | pends
    · exact elsewhere c' pends'
    · exact h.pends_once c' c r pends' ⟨collector, found, pends⟩

/-- A collector gives up a slot, whatever is in it. -/
theorem accounted_remove (h : k.Accounted n outside) (found : k.collectors[c]? = some collector)
    {collector' : Collector} (removed : collector.remove s = .ok collector') :
    Accounted { k with collectors := k.collectors.insert c collector' } n outside := by
  rcases Collector.remove_eq (h.distinct c collector found) s with
    ⟨-, e, refused⟩ | ⟨-, collector'', removed', distinct, pending⟩
  · rw [removed] at refused
    cases refused
  rw [removed] at removed'
  cases removed'
  refine h.insertCollector distinct (fun r pends => ?_) fun r c' pends pends' => ?_
  · rw [pending, Bool.and_eq_true] at pends
    exact h.pends_live c r ⟨collector, found, pends.2⟩
  · rw [pending, Bool.and_eq_true] at pends
    exact h.pends_once c' c r pends' ⟨collector, found, pends.2⟩

/-- Closing a collector of sized payloads frees the slots that it sweeps. -/
theorem close_eq (sized : k.pool.layout.isZeroSized = false) :
    k.close c collector =
      ⟨(), ⟨(k.pool.freeAll collector.sweep).state,
        k.objects.map fun _ o => mark collector.sweep o, k.collectors.erase c⟩,
        (k.pool.freeAll collector.sweep).destroyed⟩ := by
  rw [close, isZeroSized, sized]
  rfl

/-- What a collector sweeps is live, so the slots of the live objects are these and the others. -/
theorem Accounted.perm_sweep (h : k.Accounted n outside)
    (found : k.collectors[c]? = some collector) :
    k.liveSlots.Perm
      (collector.sweep ++ k.liveSlots.filter (decide <| · ∉ collector.sweep)) := by
  have distinct := h.distinct c collector found
  have swept : (k.liveSlots.filter (decide <| · ∈ collector.sweep)).Perm collector.sweep := by
    refine (List.perm_ext_iff_of_nodup (h.nodup_liveSlots.filter _)
      (Collector.nodup_sweep distinct)).2 fun s => ?_
    rw [List.mem_filter, decide_eq_true_eq, and_iff_right_iff_imp, Collector.mem_sweep distinct]
    exact fun pending => h.pends_live c s ⟨collector, found, pending⟩
  have split := List.filter_append_perm (decide <| · ∈ collector.sweep) k.liveSlots
  simp only [← decide_not] at split
  exact split.symm.trans (swept.append_right _)

/-- What a collector sweeps is in use, and so are the slots of the other live objects. -/
theorem Accounted.stores_of_sweep (h : k.Accounted n outside)
    (found : k.collectors[c]? = some collector) :
    k.pool.Stores (collector.sweep ++
      (liveSlotsOf (k.objects.map fun _ o => mark collector.sweep o) ++ outside)) := by
  refine h.stores.congr ?_
  rw [liveSlots_mark, ← List.append_assoc]
  exact (h.perm_sweep found).append_right outside

/-- Taking a collector out of use frees what it has pending and nothing else. -/
theorem accounted_close [LawfulBacking β] (h : k.Accounted n outside)
    (found : k.collectors[c]? = some collector) :
    (k.close c collector).state.Accounted n outside := by
  have distinct := h.distinct c collector found
  have slots := liveSlots_mark k.objects collector.sweep
  rw [close_eq h.stores.sized]
  have erased : ∀ (c' : Nat) (collector' : Collector),
      (k.collectors.erase c)[c']? = some collector' →
        c' ≠ c ∧ k.collectors[c']? = some collector' := by
    intro c' collector' found'
    rw [Registers.getElem?_erase] at found'
    split at found'
    · cases found'
    · next other => exact ⟨other, found'⟩
  refine ⟨Pool.stores_freeAll (h.stores_of_sweep found), fun c' collector' found' => ?_,
    fun c' s pends => ?_, fun c₁ c₂ s pends₁ pends₂ => ?_, fun s live => ?_, fun m o found' => ?_⟩
  · exact h.distinct c' collector' (erased c' collector' found').2
  · obtain ⟨collector', found', pending⟩ := pends
    obtain ⟨other, found'⟩ := erased c' collector' found'
    have pends : k.Pends c' s := ⟨collector', found', pending⟩
    rw [liveSlots, slots, List.mem_filter, decide_eq_true_eq, Collector.mem_sweep distinct]
    exact ⟨h.pends_live c' s pends, fun here =>
      other (h.pends_once c' c s pends ⟨collector, found, here⟩)⟩
  · obtain ⟨collector₁, found₁, pending₁⟩ := pends₁
    obtain ⟨collector₂, found₂, pending₂⟩ := pends₂
    exact h.pends_once c₁ c₂ s ⟨collector₁, (erased c₁ collector₁ found₁).2, pending₁⟩
      ⟨collector₂, (erased c₂ collector₂ found₂).2, pending₂⟩
  · rw [liveSlots, slots, List.mem_filter] at live
    obtain ⟨v, read⟩ := h.held s live.1
    exact ⟨v, (k.pool.read_freeAll collector.sweep s).trans read⟩
  · simp only [Std.TreeMap.getElem?_map, Option.map_eq_some_iff] at found'
    obtain ⟨o', found', -⟩ := found'
    exact h.numbered m o' found'

theorem layout_close (k : Custody α β) (c : Nat) (collector : Collector) :
    (k.close c collector).state.pool.layout = k.pool.layout :=
  k.pool.layout_freeAll collector.sweep

end Custody

end Substrate
