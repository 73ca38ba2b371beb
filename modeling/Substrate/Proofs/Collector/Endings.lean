import Substrate.Proofs.Collector.Accounts

/-!
# Substrate.Proofs.Collector.Endings

Which objects a command ends, and what becomes of the others. `gone` names the objects that a
command is meant to end, and `Orderly` says that it ends just these: their payloads are destroyed,
each once, and every other object keeps its slot and its payload. The single uses behind the
commands come first: releasing an object ends it (`ends_release`), and taking a collector out of use
ends what it has pending (`ends_close`, `Accounted.destroyed_close`).
-/

namespace Substrate

variable {α β : Type} [Backing β]

namespace Custody

/-! ## What a command is meant to do -/

/-- The objects that a command ends: the one that its owner frees, or those that a collector has
pending when it goes out of use. -/
def gone (k : Custody α β) : Command α → List Nat
  | .free o =>
    match k.live? o with
    | some (m, s) => if k.isPendingAnywhere s then [] else [m]
    | none => []
  | .openCollector c | .closeCollector c =>
    match k.collectors[c]? with
    | some collector => occupantsOf k.objects collector.sweep
    | none => []
  | _ => []

/-- The payloads that a command destroys beside those of the objects it ends: one for which there
is no storage, or one that is overwritten. -/
def spent (k : Custody α β) (n : Nat) : Command α → List α
  | .alloc v =>
    match (k.make n v).reply with
    | .error _ => [v]
    | .ok _ => []
  | .track c v =>
    match k.collectors[c]?, (k.make n v).reply with
    | some _, .error _ => [v]
    | _, _ => []
  | .write o _ => ((k.live? o).bind fun (_, s) => k.pool.read s).toList
  | _ => []

/-- The object that a command overwrites. -/
def Command.written : Command α → Ref
  | .write o _ => o
  | _ => none

/-- From `k` to `k'` the objects `gone` have ended. All others are as they were, except for the
payload of the object that is overwritten. -/
structure Ends (k k' : Custody α β) (gone : List Nat) (written : Ref) : Prop where
  live : ∀ m ∈ gone, ∃ s, k.objects[m]? = some ⟨s, .live⟩
  ended : ∀ m ∈ gone, ∃ s standing, k'.objects[m]? = some ⟨s, standing⟩ ∧ standing ≠ .live
  kept : ∀ (m : Nat) (o : Object), m ∉ gone → k.objects[m]? = some o → k'.objects[m]? = some o
  read : ∀ (m : Nat) (s : Slot), m ∉ gone → written ≠ some m → k.objects[m]? = some ⟨s, .live⟩ →
    k'.pool.read s = k.pool.read s

/-- Command number `n` ends the objects it is meant to end, each once, and destroys their payloads
and what it spends. -/
structure Orderly (k : Custody α β) (n : Nat) (command : Command α) : Prop where
  ends : Ends k (k.step n command).state (k.gone command) command.written
  nodup : (k.gone command).Nodup
  destroyed : (k.step n command).destroyed.Perm
    ((k.gone command).filterMap k.payload? ++ k.spent n command)

variable {k k' : Custody α β} {n : Nat} {outside : List Slot} {c : Nat} {collector : Collector}
  {s : Slot} {written : Ref}

/-! ## What single uses end -/

omit [Backing β] in
theorem ends_of_same (objects : k'.objects = k.objects)
    (reads : ∀ r, k'.pool.read r = k.pool.read r) : Ends k k' [] written where
  live := fun m mem => absurd mem List.not_mem_nil
  ended := fun m mem => absurd mem List.not_mem_nil
  kept := fun m o _ found => by rw [objects, found]
  read := fun m s _ _ _ => reads s

omit [Backing β] in
/-- Only the objects and the pool matter. -/
theorem Ends.congr {k'' : Custody α β} {gone : List Nat} (h : Ends k k' gone written)
    (objects : k''.objects = k'.objects) (pool : k''.pool = k'.pool) : Ends k k'' gone written where
  live := h.live
  ended := by
    rw [objects]
    exact h.ended
  kept := by
    rw [objects]
    exact h.kept
  read := by
    rw [pool]
    exact h.read

/-- Making an object ends none. -/
theorem ends_insertLive (h : k.Accounted n outside) {p' : Pool α β} {v : α}
    (stores : p'.Stores (s :: (k.liveSlots ++ outside)))
    (reads : ∀ r, p'.read r = if r = s then some v else k.pool.read r) :
    Ends k { k with pool := p', objects := k.objects.insert n ⟨s, .live⟩ } [] written where
  live := fun m mem => absurd mem List.not_mem_nil
  ended := fun m mem => absurd mem List.not_mem_nil
  kept := by
    intro m o _ found
    have other : m ≠ n := Nat.ne_of_lt (h.numbered m o found)
    simp only [Registers.getElem?_insert, if_neg other, found]
  read := by
    intro m r _ _ found
    have nodup := stores.nodup_used
    rw [List.nodup_cons] at nodup
    have other : r ≠ s := by
      rintro rfl
      exact nodup.1 (List.mem_append_left _ (mem_liveSlots.2 ⟨m, found⟩))
    exact (reads r).trans (if_neg other)

/-- Freeing an object ends it alone. -/
theorem ends_release {m : Nat} (found : k.objects[m]? = some ⟨s, .live⟩) :
    Ends k (k.release m s).state [m] written where
  live := by
    intro j mem
    obtain rfl := List.mem_singleton.1 mem
    exact ⟨s, found⟩
  ended := by
    intro j mem
    obtain rfl := List.mem_singleton.1 mem
    exact ⟨s, .freed, Std.TreeMap.getElem?_insert_self, by simp⟩
  kept := by
    intro j o absent found'
    have other : j ≠ m := fun same => absent (List.mem_singleton.2 same)
    simp only [release, Registers.getElem?_insert, if_neg other, found']
  read := fun j r _ _ _ => k.pool.read_free s r

/-- Closing a collector ends the objects in the slots that it sweeps. -/
theorem ends_close (sized : k.pool.layout.isZeroSized = false) :
    Ends k (k.close c collector).state (occupantsOf k.objects collector.sweep) written := by
  rw [close_eq sized]
  refine ⟨fun m mem => ?_, fun m mem => ?_, fun m o absent found => ?_, fun m r _ _ _ => ?_⟩
  · obtain ⟨s, -, found⟩ := mem_occupantsOf.1 mem
    exact ⟨s, found⟩
  · obtain ⟨s, swept, found⟩ := mem_occupantsOf.1 mem
    refine ⟨s, .swept, ?_, by simp⟩
    simp [Std.TreeMap.getElem?_map, found, mark, swept]
  · have unmarked : mark collector.sweep o = o := by
      rw [mark, if_neg]
      rintro ⟨live, swept⟩
      refine absent (mem_occupantsOf.2 ⟨o.slot, swept, ?_⟩)
      rw [found, ← live]
    simp only [Std.TreeMap.getElem?_map, found, Option.map_some, unmarked]
  · exact k.pool.read_freeAll collector.sweep r

/-- A sweep destroys the payloads of the objects it ends. -/
theorem Accounted.destroyed_close (h : k.Accounted n outside)
    (found : k.collectors[c]? = some collector) :
    (k.close c collector).destroyed.Perm
      ((occupantsOf k.objects collector.sweep).filterMap k.payload?) := by
  have distinct := h.distinct c collector found
  have slots := slots_occupantsOf h.nodup_liveSlots (Collector.nodup_sweep distinct) fun s swept =>
    h.pends_live c s ⟨collector, found, (Collector.mem_sweep distinct s).1 swept⟩
  have payloads := (slots.filterMap k.pool.read).symm
  rw [close_eq h.stores.sized]
  change (k.pool.freeAll collector.sweep).destroyed.Perm _
  rw [Pool.destroyed_freeAll]
  refine payloads.trans (List.Perm.of_eq ?_)
  rw [List.filterMap_filterMap]
  refine congrArg (List.filterMap · _) (funext fun m => ?_)
  rw [payload?]
  cases k.objects[m]? <;> rfl

end Custody

end Substrate
