import Substrate.Proofs.Collector.Conservation
import Substrate.Proofs.Pool.Trips

/-!
# Substrate.Proofs.Collector.Refusals

What a refusal by the supply costs. A command makes some trips to the supply, and what it does
depends on the answers alone (`Course`, `exists_course`). The only refusal among these trips is that
of a request for one object, which costs the payload and leaves everything but the supply as it is.
So the refused commands can be left out of a run: over a supply that answers the other requests
alike, the rest of the commands do what they did (`exists_trips_run`).

The main result is `atomic_of_run`.
-/

namespace Substrate

variable {α β β' : Type}

namespace Custody

/-! ## Other supplies -/

/-- The same objects and collectors, with the pool over another supply. -/
def upon (k : Custody α β) (b : β') : Custody α β' := ⟨k.pool.upon b, k.objects, k.collectors⟩

/-- The same outcome, with the pool over another supply. -/
def Result.upon (o : Result α β) (b : β') : Result α β' := ⟨o.reply, o.state.upon b, o.destroyed⟩

def Command.isMaking : Command α → Bool
  | alloc _ | track _ _ => true
  | _ => false

/-- Does the command leave all slots where they are? -/
def Command.isQuiet : Command α → Bool
  | read _ | write _ _ | add _ _ | remove _ _ | removeSlot _ _ | isPending _ _ | info => true
  | _ => false

def Reply.isNoStorage : Reply α → Bool
  | noStorage _ => true
  | _ => false

section

variable (k : Custody α β) (b : β')

@[simp] theorem collectors_upon : (k.upon b).collectors = k.collectors := rfl

@[simp] theorem isZeroSized_upon : (k.upon b).isZeroSized = k.isZeroSized := rfl

@[simp] theorem live?_upon (o : Ref) : (k.upon b).live? o = k.live? o := rfl

@[simp] theorem knownSlot?_upon (o : Ref) : (k.upon b).knownSlot? o = k.knownSlot? o := rfl

@[simp] theorem isPendingAnywhere_upon (s : Slot) :
    (k.upon b).isPendingAnywhere s = k.isPendingAnywhere s := rfl

@[simp] theorem isPendingElsewhere_upon (c : Nat) (s : Slot) :
    (k.upon b).isPendingElsewhere c s = k.isPendingElsewhere c s := rfl

/-- Settling an answer does not depend on the supply. -/
theorem settle_upon (c : Nat) (answer : Except CollectorError Collector) :
    (k.upon b).settle c answer = (k.settle c answer).upon b := by
  cases answer <;> rfl

theorem isNoStorage_settle (c : Nat) (answer : Except CollectorError Collector) :
    (k.settle c answer).reply.isNoStorage = false := by
  cases answer <;> rfl

end

variable [Backing β] [Backing β']

/-! ## Courses -/

/-- Command number `n` makes these trips, and does the same over any supply that answers alike. It
gives back only what is out. -/
structure Course (k : Custody α β) (n : Nat) (command : Command α) (trips : List Trip) : Prop where
  answers : Backing.Answers k.pool.layout k.pool.backing trips
  proper : Backing.Proper k.pool.layout k.pool.backing trips
  same : ∀ {β' : Type} [Backing β'] (b : β'), Backing.Answers k.pool.layout b trips →
    (k.upon b).step n command =
      (k.step n command).upon (Backing.after k.pool.layout b trips)

/-- How the trips of a command come out: either no request is refused, or the only one is. -/
def Served (k : Custody α β) (n : Nat) (command : Command α) (trips : List Trip) : Prop :=
  ((k.step n command).reply.isNoStorage = false ∧ ∀ t ∈ trips, t.isRefusal = false) ∨
    ∃ e, (k.step n command).reply = .noStorage e ∧ trips = [.request (.error e)] ∧
      (k.step n command).state = k.upon (k.step n command).state.pool.backing

variable {k : Custody α β} {n : Nat} {outside : List Slot}

/-- Only making an object can fail for want of storage. -/
theorem isNoStorage_step {command : Command α} (other : command.isMaking = false) :
    (k.step n command).reply.isNoStorage = false := by
  cases command with
  | alloc v => cases other
  | track c v => cases other
  | free o =>
    rw [step]
    split
    · rfl
    · split <;> rfl
  | read o | write o v | closeCollector c | isPending c o =>
    rw [step]
    split <;> rfl
  | add c o =>
    rw [step]
    split
    · split
      · rfl
      · exact isNoStorage_settle ..
    · rfl
  | remove c o =>
    rw [step]
    split
    · exact isNoStorage_settle ..
    · rfl
  | removeSlot c s =>
    rw [step]
    split
    · rfl
    · exact isNoStorage_settle ..
  | openCollector c | info => rfl

/-- A command that leaves the supply alone. -/
theorem course_of_quiet {command : Command α}
    (served : (k.step n command).reply.isNoStorage = false)
    (same : ∀ {β' : Type} [Backing β'] (b : β'),
      (k.upon b).step n command = (k.step n command).upon b) :
    ∃ trips, k.Course n command trips ∧ k.Served n command trips :=
  ⟨[], ⟨trivial, trivial, fun b _ => same b⟩,
    .inl ⟨served, fun _ mem => absurd mem List.not_mem_nil⟩⟩

/-- A command that frees the objects in some slots. -/
theorem course_of_freed [LawfulBacking β] {command : Command α}
    (other : command.isMaking = false) {ss used : List Slot} (stores : k.pool.Stores (ss ++ used))
    (freed : ∀ {β' : Type} [Backing β'] (b : β'), (k.upon b).step n command =
      (k.step n command).upon (Backing.after k.pool.layout b (k.pool.freeTrips ss))) :
    ∃ trips, k.Course n command trips ∧ k.Served n command trips := by
  refine ⟨k.pool.freeTrips ss,
    ⟨Backing.answers_giveBack _ _, stores.proper_freeTrips, fun b _ => freed b⟩,
    .inl ⟨isNoStorage_step other, fun t mem => ?_⟩⟩
  obtain ⟨s, -, rfl⟩ := List.mem_map.1 mem
  rfl

/-- Making an object depends on the supply through its answers alone. -/
theorem make_upon (sized : k.pool.layout.isZeroSized = false) {b : β'}
    (answers : Backing.Answers k.pool.layout b k.pool.allocTrips) (n : Nat) (v : α) :
    (k.upon b).make n v = ⟨(k.make n v).reply,
      (k.make n v).state.upon (Backing.after k.pool.layout b k.pool.allocTrips),
      (k.make n v).destroyed⟩ := by
  have made := Pool.alloc_upon sized answers v
  have pool : (k.upon b).pool = k.pool.upon b := rfl
  rw [make, make, pool, made]
  cases (k.pool.alloc v).reply <;> rfl

/-- Closing a collector makes the same trips to any supply. -/
theorem close_upon (sized : k.pool.layout.isZeroSized = false) (b : β') (c : Nat)
    (collector : Collector) :
    (k.upon b).close c collector = ⟨(), (k.close c collector).state.upon
      (Backing.after k.pool.layout b (k.pool.freeTrips collector.sweep)),
      (k.close c collector).destroyed⟩ := by
  have freed := Pool.freeAll_upon sized b collector.sweep
  have pool : (k.upon b).pool = k.pool.upon b := rfl
  rw [close, close, pool, freed]
  rfl

theorem release_upon (sized : k.pool.layout.isZeroSized = false) (b : β') (m : Nat) (s : Slot) :
    (k.upon b).release m s = ⟨(), (k.release m s).state.upon
      (Backing.after k.pool.layout b (k.pool.freeTrips [s])), (k.release m s).destroyed⟩ := by
  have freed := Pool.free_upon sized b s
  have pool : (k.upon b).pool = k.pool.upon b := rfl
  rw [release, release, pool, freed]
  rfl

/-- Making an object fails just where the one request for it is refused. -/
theorem make_served (sized : k.pool.layout.isZeroSized = false) (n : Nat) (v : α) :
    (∃ s, (k.make n v).reply = .ok s ∧ ∀ t ∈ k.pool.allocTrips, t.isRefusal = false) ∨
      ∃ e, (k.make n v).reply = .error e ∧ k.pool.allocTrips = [.request (.error e)] ∧
        (k.make n v).state = k.upon (k.make n v).state.pool.backing := by
  rw [make]
  rcases Pool.alloc_cases_of_sized sized v with
      ⟨s, rest, pooled, is⟩ | ⟨s, dry, answer, is⟩ | ⟨e, dry, answer, is⟩ <;>
    rw [is]
  · have trips : k.pool.allocTrips = [] := by rw [Pool.allocTrips, pooled]
    refine .inl ⟨s, rfl, fun t mem => ?_⟩
    rw [trips] at mem
    cases mem
  · have trips : k.pool.allocTrips = [.grant s] := by rw [Pool.allocTrips, dry, answer]
    refine .inl ⟨s, rfl, fun t mem => ?_⟩
    rw [trips, List.mem_singleton] at mem
    rw [mem]
    rfl
  · exact .inr ⟨e, rfl, by rw [Pool.allocTrips, dry, answer], rfl⟩

/-- A command that makes no trip does the same over any supply. -/
theorem step_upon_of_quiet {command : Command α} (quiet : command.isQuiet = true) (b : β') :
    (k.upon b).step n command = (k.step n command).upon b := by
  cases command with
  | read o =>
    have reads : ∀ s, (k.upon b).pool.read s = k.pool.read s := fun _ => rfl
    cases found : k.live? o with
    | none =>
      rw [step, step, live?_upon, found]
      rfl
    | some ms =>
      simp only [step, live?_upon, found, Option.bind_some, reads]
      cases k.pool.read ms.2 <;> rfl
  | write o v =>
    rw [step, step, live?_upon]
    cases k.live? o <;> rfl
  | add c o =>
    rw [step, step, live?_upon, collectors_upon]
    cases k.collectors[c]? with
    | none => rfl
    | some collector =>
      cases k.live? o with
      | none => rfl
      | some ms =>
        simp only [isZeroSized_upon, isPendingElsewhere_upon, settle_upon]
        cases !k.isZeroSized && k.isPendingElsewhere c ms.2 <;> rfl
  | remove c o =>
    rw [step, step, knownSlot?_upon, collectors_upon]
    cases k.collectors[c]? with
    | none => rfl
    | some collector =>
      cases k.knownSlot? o with
      | none => rfl
      | some s => exact settle_upon ..
  | removeSlot c s =>
    rw [step, step, collectors_upon]
    cases k.collectors[c]? with
    | none => rfl
    | some collector => exact settle_upon ..
  | isPending c o =>
    rw [step, step, knownSlot?_upon, collectors_upon]
    cases k.collectors[c]? <;> cases k.knownSlot? o <;> rfl
  | info => rfl
  | alloc | free | openCollector | closeCollector | track => cases quiet

/-- Making an object makes the trips of one request at most. -/
theorem course_alloc (sized : k.pool.layout.isZeroSized = false) (v : α) :
    ∃ trips, k.Course n (.alloc v) trips ∧ k.Served n (.alloc v) trips := by
  refine ⟨k.pool.allocTrips, ⟨k.pool.answers_allocTrips, k.pool.proper_allocTrips,
        fun b answers => ?_⟩, ?_⟩
  · rw [step, step, make_upon sized answers]
    dsimp only
    cases (k.make n v).reply <;> rfl
  rcases make_served sized n v with ⟨s, made, granted⟩ | ⟨e, refused, trips, same⟩
  · have stepped : k.step n (.alloc v) = (k.make n v).withReply (.allocated s) := by
      simp only [step, made]
    rw [Served, stepped]
    exact .inl ⟨rfl, granted⟩
  · have stepped : k.step n (.alloc v) = (k.make n v).withReply (.noStorage e) := by
      simp only [step, refused]
    rw [Served, stepped]
    exact .inr ⟨e, rfl, trips, same⟩

/-- Making an object in a collector makes the trips of one request, and gives the slot back where
the collector is missing. -/
theorem course_track [LawfulBacking β] (h : k.Accounted n outside) (c : Nat) (v : α) :
    ∃ trips, k.Course n (.track c v) trips ∧ k.Served n (.track c v) trips := by
  have sized := h.stores.sized
  cases found : k.collectors[c]? with
  | none =>
    have stepped : k.step n (.track c v) = k.skip := by simp only [step, found]
    refine course_of_quiet (by rw [stepped]; rfl) fun b => ?_
    rw [stepped, step, collectors_upon, found]
    rfl
  | some collector =>
    rcases make_served sized n v with ⟨s, made, granted⟩ | ⟨e, refused, trips, same⟩
    · obtain ⟨collector', added⟩ := exists_add_of_made h found made
      have stepped : k.step n (.track c v) = (k.make n v).state.settle c (.ok collector') := by
        simp only [step, found, made, added]
      refine ⟨k.pool.allocTrips, ⟨k.pool.answers_allocTrips, k.pool.proper_allocTrips,
        fun b answers => ?_⟩, ?_⟩
      · rw [stepped, step, collectors_upon, found, make_upon sized answers]
        simp only [made, added]
        exact settle_upon ..
      · rw [Served, stepped]
        exact .inl ⟨rfl, granted⟩
    · have stepped : k.step n (.track c v) = (k.make n v).withReply (.noStorage e) := by
        simp only [step, found, refused]
      refine ⟨k.pool.allocTrips, ⟨k.pool.answers_allocTrips, k.pool.proper_allocTrips,
        fun b answers => ?_⟩, ?_⟩
      · rw [stepped, step, collectors_upon, found, make_upon sized answers]
        simp only [refused]
        rfl
      · rw [Served, stepped]
        exact .inr ⟨e, rfl, trips, same⟩

/-- Freeing an object makes the trip of its slot, if any. -/
theorem course_free [LawfulBacking β] (h : k.Accounted n outside) (o : Ref) :
    ∃ trips, k.Course n (.free o) trips ∧ k.Served n (.free o) trips := by
  have sized := h.stores.sized
  cases found : k.live? o with
  | none =>
    refine course_of_quiet (isNoStorage_step rfl) fun b => ?_
    rw [step, step, live?_upon, found]
    rfl
  | some ms =>
    cases held : !k.isZeroSized && k.isPendingAnywhere ms.2 with
    | true =>
      refine course_of_quiet (isNoStorage_step rfl) fun b => ?_
      simp only [step, live?_upon, found, isZeroSized_upon, isPendingAnywhere_upon, held]
      rfl
    | false =>
      refine course_of_freed rfl (h.stores_of_live (live?_eq_some.1 found).2) fun b => ?_
      simp only [step, live?_upon, found, isZeroSized_upon, isPendingAnywhere_upon, held,
        release_upon sized]
      rfl

/-- Opening a collector makes the trips of closing the one in its place. -/
theorem course_openCollector [LawfulBacking β] (h : k.Accounted n outside) (c : Nat) :
    ∃ trips, k.Course n (.openCollector c) trips ∧ k.Served n (.openCollector c) trips := by
  have sized := h.stores.sized
  cases found : k.collectors[c]? with
  | none =>
    refine course_of_quiet (isNoStorage_step rfl) fun b => ?_
    rw [step, step, collectors_upon, found]
    rfl
  | some collector =>
    refine course_of_freed rfl (h.stores_of_sweep found) fun b => ?_
    simp only [step, collectors_upon, found, close_upon sized]
    rfl

theorem course_closeCollector [LawfulBacking β] (h : k.Accounted n outside) (c : Nat) :
    ∃ trips, k.Course n (.closeCollector c) trips ∧ k.Served n (.closeCollector c) trips := by
  have sized := h.stores.sized
  cases found : k.collectors[c]? with
  | none =>
    refine course_of_quiet (isNoStorage_step rfl) fun b => ?_
    rw [step, step, collectors_upon, found]
    rfl
  | some collector =>
    refine course_of_freed rfl (h.stores_of_sweep found) fun b => ?_
    simp only [step, collectors_upon, found, close_upon sized]
    rfl

/-- Every command has a course. -/
theorem exists_course [LawfulBacking β] (h : k.Accounted n outside) (command : Command α) :
    ∃ trips, k.Course n command trips ∧ k.Served n command trips := by
  have sized := h.stores.sized
  cases command with
  | alloc v => exact course_alloc sized v
  | track c v => exact course_track h c v
  | free o => exact course_free h o
  | openCollector c => exact course_openCollector h c
  | closeCollector c => exact course_closeCollector h c
  | read | write | add | remove | removeSlot | isPending | info =>
    exact course_of_quiet (isNoStorage_step rfl) (step_upon_of_quiet rfl)

/-! ## Runs without their refused commands -/

/-- Runs commands that have their numbers with them: the outcome of each, in order. -/
def play (k : Custody α β) : List (Nat × Command α) → List (Result α β)
  | [] => []
  | (n, c) :: rest => k.step n c :: (k.step n c).state.play rest

/-- The commands of a run that are not refused storage, with their numbers. -/
def served (k : Custody α β) (n : Nat) : List (Command α) → List (Nat × Command α)
  | [] => []
  | c :: cs =>
    let o := k.step n c
    if o.reply.isNoStorage then o.state.served (n + 1) cs
    else (n, c) :: o.state.served (n + 1) cs

/-- The trips of a run settle what it does. Over a supply that answers them alike, it does the same;
over one that answers the granted requests alike, the commands that are not refused storage do. -/
theorem exists_trips_run [LawfulBacking β] {layout : Layout} {capacity : Nat}
    (h : k.Accounted n outside) (fits : k.pool.Fits layout capacity)
    (commands : List (Command α)) :
    ∃ trips, Backing.Answers layout k.pool.backing trips ∧
      Backing.Proper layout k.pool.backing trips ∧
      (k.after n commands).pool.backing = Backing.after layout k.pool.backing trips ∧
      (∀ {β' : Type} [Backing β'] (b : β'), Backing.Answers layout b trips →
        ((k.upon b).runFrom n commands).map (·.upon ()) =
          (k.runFrom n commands).map (·.upon ())) ∧
      ∀ {β' : Type} [Backing β'] (b : β'), Backing.Answers layout b (Trip.spared trips) →
        ((k.upon b).play (k.served n commands)).map (·.upon ()) =
          ((k.runFrom n commands).filter (!·.reply.isNoStorage)).map (·.upon ()) ∧
        (k.upon b).last ((k.upon b).play (k.served n commands)) =
          (k.after n commands).upon (Backing.after layout b (Trip.spared trips)) := by
  induction commands generalizing k n with
  | nil => exact ⟨[], trivial, trivial, rfl, fun b _ => rfl, fun b _ => ⟨rfl, rfl⟩⟩
  | cons command commands ih =>
    obtain ⟨first, ⟨answers, proper, same⟩, out⟩ := exists_course (n := n) h command
    obtain ⟨rest, answers', proper', reached, again, spared⟩ :=
      ih (orderly_step h command).2 ((use_step h command).fits fits)
    have here := same k.pool.backing answers
    rw [fits.layout_eq] at answers proper same here
    have supply : (k.step n command).state.pool.backing =
        Backing.after layout k.pool.backing first := congrArg (·.state.pool.backing) here
    rw [supply] at answers' proper' reached
    refine ⟨first ++ rest, Backing.answers_append.2 ⟨answers, answers'⟩,
      Backing.proper_append.2 ⟨proper, proper'⟩, ?_, fun b answers => ?_, fun b answers => ?_⟩
    · rw [after_cons, reached, Backing.after_append]
    · rw [Backing.answers_append] at answers
      rw [runFrom, same b answers.1]
      exact congrArg _ (again _ answers.2)
    rw [Trip.spared_append, Backing.answers_append] at answers
    rw [Trip.spared_append, Backing.after_append, after_cons]
    rcases out with ⟨served, granted⟩ | ⟨e, refused, rfl, kept⟩
    · -- The command is served, by the other supply too.
      rw [Trip.spared_eq_self granted] at answers ⊢
      have stepped := same b answers.1
      obtain ⟨outcomes, state⟩ := spared _ answers.2
      simp only [Custody.served, runFrom, served, Bool.false_eq_true, if_false, Bool.not_false,
        List.filter_cons, if_true, play, List.map_cons, last_cons, stepped]
      exact ⟨congrArg _ outcomes, state⟩
    · -- The command is left out, and what it leaves is what was there.
      obtain ⟨outcomes, state⟩ := spared b answers.2
      have unserved : (k.step n command).reply.isNoStorage = true := by rw [refused]; rfl
      rw [kept] at outcomes state
      simp only [Custody.served, runFrom, unserved, if_true, List.filter_cons, Bool.not_true,
        Bool.false_eq_true, if_false]
      rw [kept]
      exact ⟨outcomes, state⟩

/-! ## All refusals -/

/-- What becomes of the supply when a pool is made, all trips to it being put down. -/
structure Founds (α : Type) (layout : Layout) (capacity : Nat) (b : β) : Prop where
  /-- A pool is made just where the first requests are granted, for half of its capacity. -/
  iff : (∃ pool, Pool.create α layout capacity (Journaled.start b) = .ok pool) ↔
    Backing.Grants layout b ((capacity + 1) / 2)
  laidIn : ∀ pool, Pool.create α layout capacity (Journaled.start b) = .ok pool →
    pool.pooled.length = (capacity + 1) / 2 ∧ pool.backing.trips = pool.pooled.reverse.map .grant
  /-- The first refusal is the answer and the last request. What was granted before it goes back,
  the latest slot first. -/
  undone : ∀ e j, Pool.create α layout capacity (Journaled.start b) = .error (e, j) →
    ∃ ss : List Slot, ss.length < (capacity + 1) / 2 ∧
      j.trips = ss.map .grant ++ .request (.error e) :: ss.reverse.map .giveBack ∧
      Backing.allocated j = Backing.allocated b

/-- What command number `n` makes of the supply when it is to make an object of `v`. -/
structure Consults (k : Custody α (Journaled β)) (n : Nat) (v : α) : Prop where
  /-- While slots are pooled the supply is not asked. -/
  pooled : k.pool.pooled ≠ [] →
    (k.step n (.alloc v)).state.pool.backing.trips = k.pool.backing.trips
  dry : k.pool.pooled = [] → (k.step n (.alloc v)).state.pool.backing.trips =
    k.pool.backing.trips ++ [.request (Backing.allocate k.pool.backing.supply k.pool.layout).1]
  /-- The command fails where the supply is asked and refuses, with the same error. -/
  fails_iff : ∀ e, (k.step n (.alloc v)).reply = .noStorage e ↔
    k.pool.pooled = [] ∧ (Backing.allocate k.pool.backing.supply k.pool.layout).1 = .error e
  succeeds : (∃ s, (k.step n (.alloc v)).reply = .allocated s) ∨
    ∃ e, (k.step n (.alloc v)).reply = .noStorage e
  /-- Failing costs the payload, and leaves all but the supply as it was. -/
  costs : ∀ e, (k.step n (.alloc v)).reply = .noStorage e →
    (k.step n (.alloc v)).destroyed = [v] ∧
      (k.step n (.alloc v)).state = k.upon (k.step n (.alloc v)).state.pool.backing

/-- Making a pool of sized payloads does to the supply all that `Founds` says. -/
theorem founds_of_sized [LawfulBacking β] (α : Type) {layout : Layout}
    (sized : layout.isZeroSized = false) (capacity : Nat) (b : β) :
    Founds α layout capacity b := by
  rcases Pool.create_cases α sized capacity (Journaled.start b) with
    ⟨grants, ss, enough, answers, is⟩ | ⟨refuses, ss, e, fewer, answers, is⟩
  · refine ⟨⟨fun _ => Journaled.grants_iff.1 grants, fun _ => ⟨_, is⟩⟩, fun pool created => ?_,
      fun e j failed => ?_⟩
    · rw [created] at is
      cases is
      refine ⟨by rw [List.length_reverse, enough], ?_⟩
      rw [Journaled.after_eq answers, List.reverse_reverse]
      rfl
    · rw [failed] at is
      cases is
  · refine ⟨⟨fun ⟨pool, created⟩ => ?_, fun grants => ?_⟩, fun pool created => ?_,
      fun e' j failed => ?_⟩
    · rw [created] at is
      cases is
    · exact absurd (Journaled.grants_iff.2 grants) refuses
    · rw [created] at is
      cases is
    · rw [failed] at is
      cases is
      obtain ⟨granted, refused, -⟩ := Backing.answers_append.1 answers
      have undone : Backing.Answers layout (Journaled.start b)
          (ss.map .grant ++ .request (.error e) :: ss.reverse.map .giveBack) :=
        Backing.answers_append.2 ⟨granted, refused, Backing.answers_giveBack _ _⟩
      refine ⟨ss, fewer, congrArg (·.trips) (Journaled.after_eq undone), ?_⟩
      have out := (Backing.allocated_after_refusal refused).trans
        (Backing.allocated_after_grants granted)
      rw [Backing.after_append, ← List.singleton_append, Backing.after_append]
      exact Backing.allocated_after_giveBack out

/-- Where the books are kept, making an object does to the supply all that `Consults` says. -/
theorem Accounted.consults {k : Custody α (Journaled β)} (h : k.Accounted n outside) (v : α) :
    k.Consults n v := by
  have asked : (Backing.allocate k.pool.backing k.pool.layout).1 =
      (Backing.allocate k.pool.backing.supply k.pool.layout).1 := rfl
  rcases Pool.alloc_cases_of_sized h.stores.sized v with
    ⟨s, rest, pooled, is⟩ | ⟨s, dry, answer, is⟩ | ⟨e, dry, answer, is⟩
  · have stepped : k.step n (.alloc v) = ⟨.allocated s, { k with
        pool := { k.pool with pooled := rest, contents := k.pool.contents.insert s v },
        objects := k.objects.insert n ⟨s, .live⟩ }, []⟩ := by
      rw [step, make, is]
      rfl
    have ne : k.pool.pooled ≠ [] := by
      rw [pooled]
      exact List.cons_ne_nil s rest
    constructor <;> rw [stepped]
    case pooled => exact fun _ => rfl
    case dry => exact fun dry => absurd dry ne
    case fails_iff =>
      intro e
      exact ⟨fun same => (by cases same), fun both => absurd both.1 ne⟩
    case succeeds => exact .inl ⟨s, rfl⟩
    case costs =>
      intro e same
      cases same
  · rw [asked] at answer
    have stepped : k.step n (.alloc v) = ⟨.allocated s, { k with
        pool := { k.pool with
          backing := (Backing.allocate k.pool.backing k.pool.layout).2
          contents := k.pool.contents.insert s v },
        objects := k.objects.insert n ⟨s, .live⟩ }, []⟩ := by
      rw [step, make, is]
      rfl
    constructor <;> rw [stepped]
    case pooled => exact absurd dry
    case dry => exact fun _ => rfl
    case fails_iff =>
      intro e
      rw [answer]
      exact ⟨fun same => (by cases same), fun both => (by cases both.2)⟩
    case succeeds => exact .inl ⟨s, rfl⟩
    case costs =>
      intro e same
      cases same
  · rw [asked] at answer
    have stepped : k.step n (.alloc v) = ⟨.noStorage e,
        k.upon (Backing.allocate k.pool.backing k.pool.layout).2, [v]⟩ := by
      rw [step, make, is]
      rfl
    constructor <;> rw [stepped]
    case pooled => exact absurd dry
    case dry => exact fun _ => rfl
    case fails_iff =>
      rw [answer]
      intro e'
      constructor
      · intro same
        cases same
        exact ⟨dry, rfl⟩
      · rintro ⟨-, same⟩
        cases same
        rfl
    case succeeds => exact .inr ⟨e, rfl⟩
    case costs => exact fun _ _ => ⟨rfl, rfl⟩

/-- A run over supply `b'`, no trips being put down: the pool is made, and every command does what
it did. -/
def Repeats (α : Type) {β β' : Type} [Backing β] [Backing β'] (layout : Layout) (capacity : Nat)
    (b' : β') (pool : Pool α (Journaled β)) (commands : List (Command α)) : Prop :=
  ∃ pool', Pool.create α layout capacity b' = .ok pool' ∧
    ((ofPool pool').runFrom 0 commands).map (·.upon ()) =
      ((ofPool pool).runFrom 0 commands).map (·.upon ())

/-- A run over supply `b'` of all commands that are not refused storage: the pool is made, and every
command does what it did. The pool, the objects and the collectors are in the end what they were
with the refused commands. -/
def Reenacts (α : Type) {β β' : Type} [Backing β] [Backing β'] (layout : Layout) (capacity : Nat)
    (b' : β') (pool : Pool α (Journaled β)) (commands : List (Command α)) : Prop :=
  ∃ pool', Pool.create α layout capacity b' = .ok pool' ∧
    ((ofPool pool').play ((ofPool pool).served 0 commands)).map (·.upon ()) =
      (((ofPool pool).runFrom 0 commands).filter (!·.reply.isNoStorage)).map (·.upon ()) ∧
    (ofPool pool').last ((ofPool pool').play ((ofPool pool).served 0 commands)) =
      ((ofPool pool).after 0 commands).upon (Backing.after layout b'
        (Trip.spared ((ofPool pool).after 0 commands).pool.backing.trips))

/-- Whichever requests a supply refuses: a pool is made or everything is given back, an object is
made or nothing but its payload is lost, and a run is the same as one without the refused
commands, over a supply that refuses nothing. -/
theorem atomic_of_run [LawfulBacking β] {layout : Layout} {b : β}
    (sized : layout.isZeroSized = false) (nodup : (Backing.allocated b).Nodup) (capacity : Nat) :
    Founds α layout capacity b ∧
      ∀ pool : Pool α (Journaled β), Pool.create α layout capacity (Journaled.start b) = .ok pool →
        ∀ commands,
          let k := (ofPool pool).after 0 commands
          (∀ v, k.Consults commands.length v) ∧
          Repeats α layout capacity b pool commands ∧
          (∃ b' : Scheduled, Backing.allocated b' = Backing.allocated b ∧
            Backing.Answers layout b' (Trip.spared k.pool.backing.trips)) ∧
          ∀ {β' : Type} [Backing β'] (b' : β'),
            Backing.Answers layout b' (Trip.spared k.pool.backing.trips) →
              Reenacts α layout capacity b' pool commands := by
  refine ⟨founds_of_sized α sized capacity b, fun pool created commands => ?_⟩
  have free : (Backing.allocated (Journaled.start b)).Nodup := nodup
  have start := accounted_ofPool (Pool.stores_create sized free created)
  have reached := accounted_after start commands
  rw [Nat.zero_add] at reached
  obtain ⟨trips, answers, proper, supply, repeats, reenacts⟩ :=
    exists_trips_run start (Pool.fits_create created) commands
  rcases Pool.create_cases α sized capacity (Journaled.start b) with
    ⟨-, ss, enough, laidIn, is⟩ | ⟨-, ss, e, -, -, is⟩
  swap
  · rw [created] at is
    cases is
  have made := Except.ok.inj (created.symm.trans is)
  have laid : (ofPool pool).pool.backing =
      Backing.after layout (Journaled.start b) (ss.map .grant) := by rw [made]; rfl
  rw [laid] at answers proper supply
  have allProper := Backing.proper_append.2 ⟨Backing.proper_grants _ ss, proper⟩
  have all := Backing.answers_append.2 ⟨laidIn, answers⟩
  have put : ((ofPool pool).after 0 commands).pool.backing.trips = ss.map .grant ++ trips := by
    rw [supply, ← Backing.after_append, Journaled.after_eq all]
    rfl
  refine ⟨reached.consults, ?_, ?_, fun b' answers' => ?_⟩
  · obtain ⟨granted, answers'⟩ := Backing.answers_append.1 (Journaled.answers_iff.1 all)
    refine ⟨_, Pool.create_of_answers α sized enough granted, ?_⟩
    rw [made] at repeats ⊢
    exact repeats _ answers'
  · rw [put]
    exact ⟨_, rfl, Scheduled.answers_spared (Journaled.answers_iff.1 all)
      (Journaled.proper_iff.1 allProper)⟩
  · rw [put, Trip.spared_append, Trip.spared_grants, Backing.answers_append] at answers'
    refine ⟨_, Pool.create_of_answers α sized enough answers'.1, ?_⟩
    rw [put, Trip.spared_append, Trip.spared_grants, Backing.after_append]
    rw [made] at reenacts ⊢
    exact reenacts _ answers'.2

/-- A pool of two slots whose second and fourth request are refused, so that 11 and 14 find no
storage. An endless supply grants the others alike. -/
theorem atomic_of_refused_attempts :
    ∃ pool : Pool Nat (Journaled Rationed),
      Pool.create Nat (.word 8) 2 (Journaled.start { Rationed.endless with refused := [2, 4] }) =
        .ok pool ∧
      let commands : List (Command Nat) := [.alloc 10, .alloc 11, .alloc 12, .free (some 0),
        .alloc 13, .alloc 14, .write (some 2) 15]
      let k := (ofPool pool).after 0 commands
      (Layout.word 8).isZeroSized = false ∧
      (Backing.allocated { Rationed.endless with refused := [2, 4] }).Nodup ∧
      ((ofPool pool).served 0 commands).map (·.1) = [0, 2, 3, 4, 6] ∧
      Founds Nat (.word 8) 2 { Rationed.endless with refused := [2, 4] } ∧
      (∀ v, k.Consults commands.length v) ∧
      Backing.Answers (.word 8) Rationed.endless (Trip.spared k.pool.backing.trips) ∧
      Reenacts Nat (.word 8) 2 Rationed.endless pool commands := by
  have created : Pool.create Nat (.word 8) 2
      (Journaled.start { Rationed.endless with refused := [2, 4] }) =
      .ok ⟨.word 8, 2, [1], ⟨({ Rationed.endless with refused := [2, 4] }).afterIssue,
        [.grant 1]⟩, ∅⟩ := rfl
  have sized : (Layout.word 8).isZeroSized = false := rfl
  have nodup : (Backing.allocated { Rationed.endless with refused := [2, 4] }).Nodup :=
    List.nodup_nil
  obtain ⟨founds, runs⟩ := atomic_of_run (α := Nat) sized nodup 2
  obtain ⟨consults, -, -, reenacts⟩ := runs _ created [.alloc 10, .alloc 11, .alloc 12,
    .free (some 0), .alloc 13, .alloc 14, .write (some 2) 15]
  have answers : Backing.Answers (.word 8) Rationed.endless [.grant 1, .grant 2] :=
    ⟨rfl, rfl, trivial⟩
  exact ⟨_, created, sized, nodup, rfl, founds, consults, answers, reenacts _ answers⟩

end Custody

end Substrate
