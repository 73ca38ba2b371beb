import Substrate.Collector.Custody
import Substrate.Proofs.Registers

/-!
# Substrate.Proofs.Collector.Roster

The slots of the objects that live. A new object adds its slot (`liveSlots_insert_live`), an object
that ends takes its slot away (`liveSlots_perm_of_ended`), and a sweep takes away the slots that it
lists (`liveSlots_mark`). As long as no slot is listed twice, a slot tells its object
(`eq_of_live`).
-/

namespace Substrate

namespace Custody

/-- The slots of the live ones among numbered objects. -/
def liveSlotsOf (objects : Std.TreeMap Nat Object) : List Slot :=
  objects.toList.filterMap fun (_, o) => if o.standing = .live then some o.slot else none

variable {objects : Std.TreeMap Nat Object} {n : Nat} {s : Slot}

theorem mem_liveSlotsOf : s ∈ liveSlotsOf objects ↔ ∃ n : Nat, objects[n]? = some ⟨s, .live⟩ := by
  simp only [liveSlotsOf, List.mem_filterMap, Prod.exists,
    Std.TreeMap.mem_toList_iff_getElem?_eq_some]
  constructor
  · rintro ⟨n, ⟨slot, standing⟩, found, is⟩
    simp only [Option.ite_none_right_eq_some, Option.some.injEq] at is
    obtain ⟨rfl, rfl⟩ := is
    exact ⟨n, found⟩
  · rintro ⟨n, found⟩
    exact ⟨n, _, found, rfl⟩

/-- A new live object adds its slot. -/
theorem liveSlots_insert_live (fresh : objects[n]? = none) :
    (liveSlotsOf (objects.insert n ⟨s, .live⟩)).Perm (s :: liveSlotsOf objects) :=
  (Registers.toList_insert_of_fresh fresh _).filterMap _

/-- An object that ends takes its slot away. -/
theorem liveSlots_perm_of_ended (found : objects[n]? = some ⟨s, .live⟩) (standing : Standing)
    (ended : standing ≠ .live) :
    (liveSlotsOf objects).Perm (s :: liveSlotsOf (objects.insert n ⟨s, standing⟩)) := by
  have before := (Registers.toList_of_getElem? found).filterMap
    fun (_, o) => if o.standing = .live then some o.slot else none
  have after := (Registers.toList_insert objects n ⟨s, standing⟩).filterMap
    fun (_, o) => if o.standing = .live then some o.slot else none
  rw [List.filterMap_cons] at before after
  simp only [if_neg ended] at after
  exact before.trans (after.symm.cons s)

/-- A slot tells its live object. -/
theorem eq_of_live (nodup : (liveSlotsOf objects).Nodup) {m : Nat}
    (found : objects[n]? = some ⟨s, .live⟩) (found' : objects[m]? = some ⟨s, .live⟩) : n = m := by
  by_cases same : n = m
  · exact same
  · have split := liveSlots_perm_of_ended found .freed (by simp)
    rw [split.nodup_iff, List.nodup_cons] at nodup
    refine absurd (mem_liveSlotsOf.2 ⟨m, ?_⟩) nodup.1
    rw [Registers.getElem?_insert, if_neg (Ne.symm same), found']

/-! ## Sweeps -/

/-- What becomes of an object when the slots in `swept` are reclaimed. -/
def mark (swept : List Slot) (o : Object) : Object :=
  if o.standing = .live ∧ o.slot ∈ swept then { o with standing := .swept } else o

/-- Sweeping takes the swept slots out of the live ones. -/
theorem liveSlots_mark (objects : Std.TreeMap Nat Object) (swept : List Slot) :
    liveSlotsOf (objects.map fun _ o => mark swept o) =
      (liveSlotsOf objects).filter (decide <| · ∉ swept) := by
  rw [liveSlotsOf, liveSlotsOf, Std.TreeMap.toList_map, List.filterMap_map, List.filter_filterMap]
  refine congrArg (List.filterMap · objects.toList) (funext fun ⟨_, o⟩ => ?_)
  by_cases live : o.standing = .live <;> by_cases mem : o.slot ∈ swept <;>
    simp [mark, live, mem, Option.filter]

/-- The numbers of the live objects in the given slots. -/
def occupantsOf (objects : Std.TreeMap Nat Object) (ss : List Slot) : List Nat :=
  objects.toList.filterMap fun (n, o) =>
    if o.standing = .live ∧ o.slot ∈ ss then some n else none

/-- The occupants of some slots are the objects that live in them. -/
theorem mem_occupantsOf {ss : List Slot} :
    n ∈ occupantsOf objects ss ↔ ∃ s ∈ ss, objects[n]? = some ⟨s, .live⟩ := by
  simp only [occupantsOf, List.mem_filterMap, Prod.exists,
    Std.TreeMap.mem_toList_iff_getElem?_eq_some]
  constructor
  · rintro ⟨m, ⟨slot, standing⟩, found, is⟩
    simp only [Option.ite_none_right_eq_some, Option.some.injEq] at is
    obtain ⟨⟨rfl, mem⟩, rfl⟩ := is
    exact ⟨slot, mem, found⟩
  · rintro ⟨s, mem, found⟩
    exact ⟨n, _, found, by simp [mem]⟩

theorem nodup_occupantsOf (objects : Std.TreeMap Nat Object) (ss : List Slot) :
    (occupantsOf objects ss).Nodup := by
  have keys := Std.TreeMap.distinct_keys_toList (t := objects)
  rw [occupantsOf, List.nodup_iff_pairwise_ne, List.pairwise_filterMap]
  refine keys.imp ?_
  intro a b apart m isA m' isB
  simp only [Option.ite_none_right_eq_some, Option.some.injEq] at isA isB
  obtain ⟨-, rfl⟩ := isA
  obtain ⟨-, rfl⟩ := isB
  simpa using apart

/-- When every slot of a list holds a live object, the occupants are in just these slots. -/
theorem slots_occupantsOf (nodup : (liveSlotsOf objects).Nodup) {ss : List Slot}
    (nodupS : ss.Nodup) (live : ∀ s ∈ ss, s ∈ liveSlotsOf objects) :
    ((occupantsOf objects ss).filterMap fun n => (objects[n]?).map (·.slot)).Perm ss := by
  refine (List.perm_ext_iff_of_nodup ?_ nodupS).2 fun s => ?_
  · rw [List.nodup_iff_pairwise_ne, List.pairwise_filterMap]
    refine List.Pairwise.imp_of_mem ?_ (nodup_occupantsOf objects ss)
    intro m m' mem mem' apart s is s' is' same
    obtain ⟨r, -, found⟩ := mem_occupantsOf.1 mem
    obtain ⟨r', -, found'⟩ := mem_occupantsOf.1 mem'
    simp only [found, found', Option.map_some, Option.some.injEq] at is is'
    subst is is' same
    exact apart (eq_of_live nodup found found')
  · simp only [List.mem_filterMap]
    constructor
    · rintro ⟨m, mem, is⟩
      obtain ⟨r, inS, found⟩ := mem_occupantsOf.1 mem
      simp only [found, Option.map_some, Option.some.injEq] at is
      exact is ▸ inS
    · intro mem
      obtain ⟨m, found⟩ := mem_liveSlotsOf.1 (live s mem)
      exact ⟨m, mem_occupantsOf.2 ⟨s, mem, found⟩, by simp [found]⟩

end Custody

end Substrate
