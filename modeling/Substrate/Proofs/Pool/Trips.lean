import Substrate.Proofs.Pool.Disposal

/-!
# Substrate.Proofs.Pool.Trips

The trips of a pool to its supply. A `Trip` is a request with its answer, or a slot that is given
back; a supply that is `Journaled` keeps all trips to it, the earliest first. `Backing.Answers` says
that a supply answers the requests among some trips just so, `Backing.Proper` that only slots that
are out are given back among them, and `Backing.after` is the supply after them.

A pool depends on its supply through the answers alone. `Pool.upon` puts another supply behind a
pool: where that one gives the same answers, the same slots are laid in (`prefill_of_answers`), made
into objects (`alloc_upon`) and taken back (`freeAll_upon`).
-/

namespace Substrate

/-- One use of a supply. -/
inductive Trip where
  /-- A request, with its answer. -/
  | request (answer : Except AllocationError Slot)
  /-- A slot is given back. -/
  | giveBack (s : Slot)

namespace Trip

abbrev grant (s : Slot) : Trip := request (.ok s)

def isGrant : Trip → Bool
  | request (.ok _) => true
  | _ => false

def isRefusal : Trip → Bool
  | request (.error _) => true
  | _ => false

def isGiveBack : Trip → Bool
  | giveBack _ => true
  | _ => false

def granted? : Trip → Option Slot
  | request (.ok s) => some s
  | _ => none

/-- The trips without the requests that were refused. -/
def spared (trips : List Trip) : List Trip := trips.filter (!·.isRefusal)

theorem spared_append (past future : List Trip) :
    spared (past ++ future) = spared past ++ spared future := List.filter_append ..

theorem spared_eq_self {trips : List Trip} (granted : ∀ t ∈ trips, t.isRefusal = false) :
    spared trips = trips :=
  List.filter_eq_self.2 fun t mem => by rw [granted t mem]; rfl

theorem spared_grants (ss : List Slot) : spared (ss.map grant) = ss.map grant :=
  spared_eq_self fun t mem => by
    obtain ⟨s, -, rfl⟩ := List.mem_map.1 mem
    rfl

end Trip

/-! ## Supplies -/

namespace Backing

variable {β : Type} [Backing β] {layout : Layout}

def afterTrip (layout : Layout) (b : β) : Trip → β
  | .request _ => (allocate b layout).2
  | .giveBack s => deallocate b layout s

def after (layout : Layout) (b : β) (trips : List Trip) : β := trips.foldl (afterTrip layout) b

/-- Supply `b` answers the requests among the trips as these say. -/
def Answers (layout : Layout) : β → List Trip → Prop
  | _, [] => True
  | b, .request answer :: rest =>
    (allocate b layout).1 = answer ∧ Answers layout (allocate b layout).2 rest
  | b, .giveBack s :: rest => Answers layout (deallocate b layout s) rest

/-- Every slot that is given back among the trips is out when its turn comes. -/
def Proper (layout : Layout) : β → List Trip → Prop
  | _, [] => True
  | b, .request _ :: rest => Proper layout (allocate b layout).2 rest
  | b, .giveBack s :: rest => s ∈ allocated b ∧ Proper layout (deallocate b layout s) rest

/-- Supply `b` grants the next `n` requests. -/
def Grants (layout : Layout) : β → Nat → Prop
  | _, 0 => True
  | b, n + 1 => (∃ s, (allocate b layout).1 = .ok s) ∧ Grants layout (allocate b layout).2 n

/-- Supply `b` grants every request, whatever trips come before it. -/
def Generous (layout : Layout) (b : β) : Prop :=
  ∀ trips, ∃ s, (allocate (after layout b trips) layout).1 = .ok s

theorem after_append (b : β) (past future : List Trip) :
    after layout b (past ++ future) = after layout (after layout b past) future :=
  List.foldl_append

/-- A supply answers as told if it does so in both parts. -/
theorem answers_append {b : β} {past future : List Trip} :
    Answers layout b (past ++ future) ↔
      Answers layout b past ∧ Answers layout (after layout b past) future := by
  induction past generalizing b with
  | nil => exact (and_iff_right trivial).symm
  | cons t past ih =>
    cases t with
    | request answer =>
      simp only [List.cons_append, Answers, ih, and_assoc]
      rfl
    | giveBack s => exact ih

theorem answers_giveBack (b : β) (ss : List Slot) : Answers layout b (ss.map .giveBack) := by
  induction ss generalizing b with
  | nil => trivial
  | cons s ss ih => exact ih _

theorem proper_append {b : β} {past future : List Trip} :
    Proper layout b (past ++ future) ↔
      Proper layout b past ∧ Proper layout (after layout b past) future := by
  induction past generalizing b with
  | nil => exact (and_iff_right trivial).symm
  | cons t past ih =>
    cases t with
    | request answer => exact ih
    | giveBack s =>
      simp only [List.cons_append, Proper, ih, and_assoc]
      rfl

theorem proper_grants (b : β) (ss : List Slot) : Proper layout b (ss.map .grant) := by
  induction ss generalizing b with
  | nil => trivial
  | cons s ss ih => exact ih _

/-- Giving back what is out, one slot after the other, is proper. -/
theorem proper_giveBack {b b' : β} {ss : List Slot} (back : Pool.GivesBack layout b ss b') :
    Proper layout b (ss.map .giveBack) := by
  induction ss generalizing b with
  | nil => trivial
  | cons s ss ih => exact ⟨back.1, ih back.2⟩

/-- Of the next `n` requests all are granted, or some are and the one after them is not. -/
theorem exists_answers (layout : Layout) (b : β) (n : Nat) :
    (Grants layout b n ∧ ∃ ss : List Slot, ss.length = n ∧ Answers layout b (ss.map .grant)) ∨
      (¬ Grants layout b n ∧ ∃ (ss : List Slot) (e : AllocationError), ss.length < n ∧
        Answers layout b (ss.map .grant ++ [.request (.error e)])) := by
  induction n generalizing b with
  | zero => exact .inl ⟨trivial, [], rfl, trivial⟩
  | succ n ih =>
    cases answer : (allocate b layout).1 with
    | error e =>
      refine .inr ⟨?_, [], e, Nat.succ_pos n, answer, trivial⟩
      rintro ⟨⟨s, granted⟩, -⟩
      rw [answer] at granted
      cases granted
    | ok s =>
      rcases ih (allocate b layout).2 with
        ⟨grants, ss, enough, answers⟩ | ⟨refuses, ss, e, fewer, answers⟩
      · refine .inl ⟨⟨⟨s, answer⟩, grants⟩, s :: ss, ?_, answer, answers⟩
        rw [List.length_cons, enough]
      · refine .inr ⟨fun grants => refuses grants.2, s :: ss, e, ?_, answer, answers⟩
        exact Nat.succ_lt_succ fewer

/-- A supply that never refuses stays so. -/
theorem Generous.after {b : β} (generous : Generous layout b) (trips : List Trip) :
    Generous layout (after layout b trips) := fun more => by
  rw [← after_append]
  exact generous (trips ++ more)

/-- A supply that never refuses grants any number of requests. -/
theorem Generous.grants {b : β} (generous : Generous layout b) (n : Nat) : Grants layout b n := by
  induction n generalizing b with
  | zero => trivial
  | succ n ih =>
    obtain ⟨s, granted⟩ := generous []
    exact ⟨⟨s, granted⟩, ih (generous.after [.grant s])⟩

/-! ## What is out -/

variable [LawfulBacking β]

/-- The slots granted are out, the latest first. -/
theorem allocated_after_grants {b : β} {ss : List Slot}
    (answers : Answers layout b (ss.map .grant)) :
    allocated (after layout b (ss.map .grant)) = ss.reverse ++ allocated b := by
  induction ss generalizing b with
  | nil => rfl
  | cons s ss ih =>
    obtain ⟨answer, answers⟩ := answers
    have out := (LawfulBacking.allocated_of_ok (Prod.ext answer rfl)).2
    have later := ih answers
    rw [out] at later
    rw [List.reverse_cons, List.append_assoc]
    exact later

/-- A refused request changes nothing of what is out. -/
theorem allocated_after_refusal {b : β} {e : AllocationError}
    (refused : (allocate b layout).1 = .error e) :
    allocated (after layout b [.request (.error e)]) = allocated b :=
  LawfulBacking.allocated_of_error (Prod.ext refused rfl)

/-- Slots that are given back are out no more. -/
theorem allocated_after_giveBack {b : β} {ss rest : List Slot} (out : allocated b = ss ++ rest) :
    allocated (after layout b (ss.map .giveBack)) = rest := by
  induction ss generalizing b with
  | nil => exact out
  | cons s ss ih =>
    refine ih (b := deallocate b layout s) ?_
    have mem : s ∈ allocated b := by rw [out]; exact List.mem_cons_self
    rw [LawfulBacking.allocated_deallocate layout mem, out, List.cons_append, List.erase_cons_head]

end Backing

/-- A supply and all trips to it, the earliest first. -/
structure Journaled (β : Type) where
  supply : β
  trips : List Trip

namespace Journaled

variable {β : Type}

def start (supply : β) : Journaled β := ⟨supply, []⟩

variable [Backing β]

instance : Backing (Journaled β) where
  allocate j layout :=
    let (answer, supply) := Backing.allocate j.supply layout
    (answer, ⟨supply, j.trips ++ [.request answer]⟩)
  deallocate j layout s :=
    ⟨Backing.deallocate j.supply layout s, j.trips ++ [.giveBack s]⟩
  allocated j := Backing.allocated j.supply

instance [LawfulBacking β] : LawfulBacking (Journaled β) where
  allocated_of_ok := by
    intro j j' l s h
    obtain ⟨answer, rfl⟩ := Prod.mk.inj h
    exact LawfulBacking.allocated_of_ok (b := j.supply) (Prod.ext answer rfl)
  allocated_of_error := by
    intro j j' l e h
    obtain ⟨answer, rfl⟩ := Prod.mk.inj h
    exact LawfulBacking.allocated_of_error (b := j.supply) (Prod.ext answer rfl)
  allocated_deallocate := fun {j _} l out =>
    LawfulBacking.allocated_deallocate (b := j.supply) l out

variable {layout : Layout}

/-- Keeping a journal does not change the answers. -/
theorem answers_iff {j : Journaled β} {trips : List Trip} :
    Backing.Answers layout j trips ↔ Backing.Answers layout j.supply trips := by
  induction trips generalizing j with
  | nil => rfl
  | cons t trips ih =>
    cases t with
    | request answer => exact and_congr Iff.rfl ih
    | giveBack s => exact ih

theorem proper_iff {j : Journaled β} {trips : List Trip} :
    Backing.Proper layout j trips ↔ Backing.Proper layout j.supply trips := by
  induction trips generalizing j with
  | nil => rfl
  | cons t trips ih =>
    cases t with
    | request answer => exact ih
    | giveBack s => exact and_congr Iff.rfl ih

/-- What the trips are told to be is what is put down. -/
theorem after_eq {j : Journaled β} {trips : List Trip} (answers : Backing.Answers layout j trips) :
    Backing.after layout j trips = ⟨Backing.after layout j.supply trips, j.trips ++ trips⟩ := by
  induction trips generalizing j with
  | nil => rw [List.append_nil]; rfl
  | cons t trips ih =>
    cases t with
    | request answer =>
      obtain ⟨rfl, answers⟩ := answers
      exact (ih answers).trans (congrArg (Journaled.mk _) (List.append_assoc ..))
    | giveBack s => exact (ih answers).trans (congrArg (Journaled.mk _) (List.append_assoc ..))

/-- A journal grants what its supply grants. -/
theorem grants_iff {j : Journaled β} {n : Nat} :
    Backing.Grants layout j n ↔ Backing.Grants layout j.supply n := by
  induction n generalizing j with
  | zero => rfl
  | succ n ih => exact and_congr Iff.rfl ih

end Journaled

/-- A supply that hands out the slots it is told to, in that order, while they are not in use. -/
structure Scheduled where
  schedule : List Slot
  inUse : List Slot

namespace Scheduled

instance : Backing Scheduled where
  allocate r layout :=
    match r.schedule with
    | [] => (.error (.noMemory layout), r)
    | s :: rest =>
      if s ∈ r.inUse then (.error (.noMemory layout), r) else (.ok s, ⟨rest, s :: r.inUse⟩)
  deallocate r _ s := ⟨r.schedule, r.inUse.erase s⟩
  allocated := inUse

variable {s : Slot} {rest inUse : List Slot}

/-- A schedule grants its next slot if that is free. -/
theorem allocate_of_free (free : s ∉ inUse) (layout : Layout) :
    Backing.allocate (⟨s :: rest, inUse⟩ : Scheduled) layout = (.ok s, ⟨rest, s :: inUse⟩) :=
  if_neg free

theorem allocate_of_out (out : s ∈ inUse) (layout : Layout) :
    Backing.allocate (⟨s :: rest, inUse⟩ : Scheduled) layout =
      (.error (.noMemory layout), ⟨s :: rest, inUse⟩) :=
  if_pos out

instance : LawfulBacking Scheduled where
  allocated_of_ok := by
    rintro ⟨_ | ⟨s, rest⟩, inUse⟩ b' l s' h
    · cases h
    · by_cases out : s ∈ inUse
      · rw [allocate_of_out out] at h
        cases h
      · rw [allocate_of_free out] at h
        cases h
        exact ⟨out, rfl⟩
  allocated_of_error := by
    rintro ⟨_ | ⟨s, rest⟩, inUse⟩ b' l e h
    · cases h
      rfl
    · by_cases out : s ∈ inUse
      · rw [allocate_of_out out] at h
        cases h
        rfl
      · rw [allocate_of_free out] at h
        cases h
  allocated_deallocate := fun _ _ => rfl

/-- The slots that a supply grants can be handed out by one that refuses nothing on the way. -/
theorem answers_spared {β : Type} [Backing β] [LawfulBacking β] {layout : Layout} {b : β}
    {trips : List Trip} (answers : Backing.Answers layout b trips)
    (proper : Backing.Proper layout b trips) :
    Backing.Answers layout (⟨trips.filterMap Trip.granted?, Backing.allocated b⟩ : Scheduled)
      (Trip.spared trips) := by
  induction trips generalizing b with
  | nil => trivial
  | cons t trips ih =>
    cases t with
    | giveBack s =>
      have later := ih answers proper.2
      rw [LawfulBacking.allocated_deallocate layout proper.1] at later
      exact later
    | request answer =>
      obtain ⟨is, answers⟩ := answers
      have later := ih answers proper
      cases answer with
      | error e =>
        rw [LawfulBacking.allocated_of_error (Prod.ext is rfl)] at later
        exact later
      | ok s =>
        obtain ⟨free, out⟩ := LawfulBacking.allocated_of_ok (Prod.ext is rfl)
        rw [out] at later
        have handed : Backing.allocate
            (⟨s :: trips.filterMap Trip.granted?, Backing.allocated b⟩ : Scheduled) layout =
            (.ok s, ⟨trips.filterMap Trip.granted?, s :: Backing.allocated b⟩) :=
          allocate_of_free free layout
        exact ⟨congrArg Prod.fst handed, (congrArg Prod.snd handed).symm ▸ later⟩

end Scheduled

namespace Rationed

/-- A supply that is to refuse no attempt and has no limit grants all requests. -/
theorem generous_of_unlimited {r : Rationed} (never : r.refused = []) (unlimited : r.limit = none)
    (layout : Layout) : Backing.Generous layout r := by
  intro trips
  induction trips generalizing r with
  | nil =>
    have willing : r.refuses = false := by
      rw [refuses, never, unlimited]
      rfl
    exact ⟨r.issued + 1, by simp [Backing.after, Backing.allocate, willing]⟩
  | cons t trips ih =>
    refine ih (r := Backing.afterTrip layout r t) ?_ ?_
    · cases t with
      | request answer =>
        simp only [Backing.afterTrip, Backing.allocate]
        split <;> exact never
      | giveBack s => exact never
    · cases t with
      | request answer =>
        simp only [Backing.afterTrip, Backing.allocate]
        split <;> exact unlimited
      | giveBack s => exact unlimited

theorem grants_of_unlimited {r : Rationed} (never : r.refused = []) (unlimited : r.limit = none)
    (layout : Layout) (n : Nat) : Backing.Grants layout r n :=
  (generous_of_unlimited never unlimited layout).grants n

end Rationed

/-! ## Pools -/

namespace Pool

variable {α β β' : Type}

/-- The pool over another supply. -/
def upon (p : Pool α β) (b : β') : Pool α β' :=
  ⟨p.layout, p.capacity, p.pooled, b, p.contents⟩

variable [Backing β] [Backing β'] {p : Pool α β}

/-- While slots are pooled the supply is not asked for another one. -/
def allocTrips (p : Pool α β) : List Trip :=
  match p.pooled with
  | [] => [.request (Backing.allocate p.backing p.layout).1]
  | _ :: _ => []

/-- The trips of making an object carry the answers that the supply gives. -/
theorem answers_allocTrips (p : Pool α β) :
    Backing.Answers p.layout p.backing p.allocTrips := by
  unfold allocTrips
  split
  · exact ⟨rfl, trivial⟩
  · trivial

/-- Making an object gives nothing back. -/
theorem proper_allocTrips (p : Pool α β) : Backing.Proper p.layout p.backing p.allocTrips := by
  unfold allocTrips
  split <;> trivial

/-- Making an object leaves the pool over the supply after the trips for it, and does the same over
any supply that answers alike. -/
theorem alloc_upon (sized : p.layout.isZeroSized = false) {b : β'}
    (answers : Backing.Answers p.layout b p.allocTrips) (v : α) :
    (p.upon b).alloc v = ⟨(p.alloc v).reply,
      (p.alloc v).state.upon (Backing.after p.layout b p.allocTrips), (p.alloc v).destroyed⟩ := by
  unfold allocTrips at answers ⊢
  cases pooled : p.pooled with
  | cons s rest =>
    have pooled' : (p.upon b).pooled = s :: rest := pooled
    rw [alloc_of_pooled pooled, alloc_of_pooled pooled']
    rfl
  | nil =>
    have pooled' : (p.upon b).pooled = [] := pooled
    have fresh := freshSlot_of_sized sized
    have fresh' := freshSlot_of_sized (p := p.upon b) sized
    simp only [pooled] at answers ⊢
    obtain ⟨same, -⟩ := answers
    have same' : (Backing.allocate (p.upon b).backing (p.upon b).layout).1 =
        (Backing.allocate p.backing p.layout).1 := same
    rw [same'] at fresh'
    cases answer : (Backing.allocate p.backing p.layout).1 with
    | error e =>
      rw [answer] at fresh fresh'
      rw [alloc_of_refused pooled fresh, alloc_of_refused pooled' fresh']
      rfl
    | ok s =>
      rw [answer] at fresh fresh'
      rw [alloc_of_fresh pooled fresh, alloc_of_fresh pooled' fresh']
      rfl

/-! ### Laying in -/

/-- A request for a fresh slot is one trip. -/
theorem freshSlot_of_answer (sized : p.layout.isZeroSized = false)
    {answer : Except AllocationError Slot} (is : (Backing.allocate p.backing p.layout).1 = answer) :
    p.freshSlot =
      (answer, p.upon (Backing.afterTrip p.layout p.backing (.request answer))) := by
  rw [freshSlot_of_sized sized, is]
  rfl

/-- Where the requests are granted, the slots are pooled, the latest first. -/
theorem prefill_of_answers (sized : p.layout.isZeroSized = false) {ss : List Slot}
    (answers : Backing.Answers p.layout p.backing (ss.map .grant)) :
    p.prefill ss.length = (.ok (), { p with
      pooled := ss.reverse ++ p.pooled
      backing := Backing.after p.layout p.backing (ss.map .grant) }) := by
  induction ss generalizing p with
  | nil => rfl
  | cons s ss ih =>
    obtain ⟨answer, answers⟩ := answers
    rw [List.length_cons, prefill, freshSlot_of_answer sized answer]
    refine (ih (p := ⟨p.layout, p.capacity, s :: p.pooled, _, p.contents⟩) sized answers).trans ?_
    rw [List.reverse_cons, List.append_assoc]
    rfl

/-- The first refusal ends it. -/
theorem prefill_of_refused (sized : p.layout.isZeroSized = false) {ss : List Slot}
    {e : AllocationError} {n : Nat} (fewer : ss.length < n)
    (answers : Backing.Answers p.layout p.backing (ss.map .grant ++ [.request (.error e)])) :
    p.prefill n = (.error e, { p with
      pooled := ss.reverse ++ p.pooled
      backing := Backing.after p.layout p.backing (ss.map .grant ++ [.request (.error e)]) }) := by
  induction ss generalizing p n with
  | nil =>
    obtain ⟨m, rfl⟩ := Nat.exists_eq_succ_of_ne_zero (Nat.ne_of_gt fewer)
    obtain ⟨answer, -⟩ := answers
    rw [prefill, freshSlot_of_answer sized answer]
    rfl
  | cons s ss ih =>
    obtain ⟨m, rfl⟩ := Nat.exists_eq_succ_of_ne_zero (Nat.ne_of_gt (Nat.zero_lt_of_lt fewer))
    obtain ⟨answer, answers⟩ := answers
    rw [prefill, freshSlot_of_answer sized answer]
    refine (ih (p := ⟨p.layout, p.capacity, s :: p.pooled, _, p.contents⟩) sized
      (Nat.lt_of_succ_lt_succ fewer) answers).trans ?_
    rw [List.reverse_cons, List.append_assoc]
    rfl

/-! ### Giving back -/

/-- Giving slots back one by one is one trip for each. -/
theorem foldl_release {layout : Layout} (sized : layout.isZeroSized = false) (b : β)
    (ss : List Slot) :
    ss.foldl (release layout) b = Backing.after layout b (ss.map .giveBack) := by
  rw [Backing.after, List.foldl_map, release_of_sized sized]
  rfl

/-- The slots for which there is no room. -/
def freeTrips (p : Pool α β) (ss : List Slot) : List Trip := (ss.drop p.room).map .giveBack

/-- Slots of objects are out, so those that the pool has no room for can be given back. -/
theorem Stores.proper_freeTrips [LawfulBacking β] {ss used : List Slot}
    (stores : p.Stores (ss ++ used)) :
    Backing.Proper p.layout p.backing (p.freeTrips ss) := by
  have parts : ss.Perm (ss.drop p.room ++ ss.take p.room) :=
    (List.Perm.of_eq (List.take_append_drop p.room ss).symm).trans List.perm_append_comm
  have split : (p.pooled ++ (ss ++ used)).Perm
      (ss.drop p.room ++ (p.pooled ++ (ss.take p.room ++ used))) := by
    refine ((parts.append_right used).append_left p.pooled).trans ?_
    rw [List.append_assoc]
    exact List.perm_append_comm_assoc ..
  exact Backing.proper_giveBack (givesBack_foldl p.layout (stores.perm.trans split)).1

/-- Freeing objects gives back the slots for which there is no room, to whichever supply. -/
theorem freeAll_upon (sized : p.layout.isZeroSized = false) (b : β') (ss : List Slot) :
    (p.upon b).freeAll ss = ⟨(),
      (p.freeAll ss).state.upon (Backing.after p.layout b (p.freeTrips ss)),
      (p.freeAll ss).destroyed⟩ := by
  rw [freeAll_eq, freeAll_eq, freeTrips, ← foldl_release sized]
  rfl

theorem free_upon (sized : p.layout.isZeroSized = false) (b : β') (s : Slot) :
    (p.upon b).free s = ⟨(), (p.free s).state.upon (Backing.after p.layout b (p.freeTrips [s])),
      (p.free s).destroyed⟩ := by
  rw [free_eq, free_eq, freeAll_upon sized]

/-- A pool that goes out of use makes one trip for each pooled slot. -/
theorem dispose_eq (sized : p.layout.isZeroSized = false) :
    p.dispose = Backing.after p.layout p.backing (p.pooled.map .giveBack) :=
  foldl_release sized p.backing p.pooled

/-! ### New pools -/

variable {layout : Layout} {capacity : Nat} {b : β} {ss : List Slot}

/-- Where the supply grants half of the capacity, a new pool has the slots at hand. -/
theorem create_of_answers (α : Type) (sized : layout.isZeroSized = false)
    (enough : ss.length = (capacity + 1) / 2) (answers : Backing.Answers layout b (ss.map .grant)) :
    create α layout capacity b =
      .ok ⟨layout, capacity, ss.reverse, Backing.after layout b (ss.map .grant), ∅⟩ := by
  have filled := prefill_of_answers (p := (⟨layout, capacity, [], b, ∅⟩ : Pool α β)) sized answers
  rw [create, ← enough, filled, List.append_nil]

/-- Where it refuses a slot before that, those obtained so far go back, the latest first. -/
theorem create_of_refused (α : Type) (sized : layout.isZeroSized = false) {e : AllocationError}
    (fewer : ss.length < (capacity + 1) / 2)
    (answers : Backing.Answers layout b (ss.map .grant ++ [.request (.error e)])) :
    create α layout capacity b = .error (e, Backing.after layout b
      (ss.map .grant ++ .request (.error e) :: ss.reverse.map .giveBack)) := by
  have filled := prefill_of_refused (p := (⟨layout, capacity, [], b, ∅⟩ : Pool α β)) sized fewer
    answers
  have disposed := dispose_eq (p := (⟨layout, capacity, ss.reverse ++ [],
    Backing.after layout b (ss.map .grant ++ [.request (.error e)]), ∅⟩ : Pool α β)) sized
  rw [create, filled]
  refine congrArg (fun b => Except.error (e, b)) (disposed.trans ?_)
  rw [← Backing.after_append, List.append_assoc, List.append_nil]
  rfl

/-- A pool is made where the supply grants half of the capacity, and only there. -/
theorem create_cases (α : Type) (sized : layout.isZeroSized = false) (capacity : Nat) (b : β) :
    (Backing.Grants layout b ((capacity + 1) / 2) ∧
        ∃ ss : List Slot, ss.length = (capacity + 1) / 2 ∧
          Backing.Answers layout b (ss.map .grant) ∧ create α layout capacity b =
            .ok ⟨layout, capacity, ss.reverse, Backing.after layout b (ss.map .grant), ∅⟩) ∨
      (¬ Backing.Grants layout b ((capacity + 1) / 2) ∧
        ∃ (ss : List Slot) (e : AllocationError), ss.length < (capacity + 1) / 2 ∧
          Backing.Answers layout b (ss.map .grant ++ [.request (.error e)]) ∧
          create α layout capacity b = .error (e, Backing.after layout b
            (ss.map .grant ++ .request (.error e) :: ss.reverse.map .giveBack))) := by
  rcases Backing.exists_answers layout b ((capacity + 1) / 2) with
    ⟨grants, ss, enough, answers⟩ | ⟨refuses, ss, e, fewer, answers⟩
  · exact .inl ⟨grants, ss, enough, answers, create_of_answers α sized enough answers⟩
  · exact .inr ⟨refuses, ss, e, fewer, answers, create_of_refused α sized fewer answers⟩

/-! ### Journals -/

section

variable {p : Pool α (Journaled β)}

/-- The journal grows by the trips of making an object. -/
theorem trips_alloc (sized : p.layout.isZeroSized = false) (v : α) :
    (p.alloc v).state.backing.trips = p.backing.trips ++ p.allocTrips := by
  have same := alloc_upon sized p.answers_allocTrips v
  have backing : (p.alloc v).state.backing = Backing.after p.layout p.backing p.allocTrips :=
    congrArg (·.state.backing) same
  rw [backing, Journaled.after_eq p.answers_allocTrips]

theorem trips_freeAll (sized : p.layout.isZeroSized = false) (ss : List Slot) :
    (p.freeAll ss).state.backing.trips = p.backing.trips ++ p.freeTrips ss := by
  have backing : (p.freeAll ss).state.backing =
      Backing.after p.layout p.backing (p.freeTrips ss) :=
    congrArg (·.state.backing) (freeAll_upon sized p.backing ss)
  have answers : Backing.Answers p.layout p.backing (p.freeTrips ss) :=
    Backing.answers_giveBack p.backing _
  rw [backing, Journaled.after_eq answers]

end

end Pool

end Substrate
