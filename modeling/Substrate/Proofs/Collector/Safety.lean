import Substrate.Proofs.Collector.Endings

/-!
# Substrate.Proofs.Collector.Safety

No object is freed twice and no slot is lost, however owners and collectors take turns. One command
keeps the books and is orderly (`accounted_step`, `orderly_step`); from that, every state of a run
is `Safe`, and over the whole run every object ends once at most (`nodup_endings`). The main result
is `safe_of_run`.
-/

namespace Substrate

variable {α β : Type} [Backing β]

namespace Custody

variable {k : Custody α β} {n : Nat} {outside : List Slot} {c : Nat} {collector : Collector}
  {s : Slot}

/-! ## Steps -/

/-- A command that ends no object and makes none is orderly. -/
theorem orderly_of_quiet {command : Command α} (gone : k.gone command = [])
    (objects : (k.step n command).state.objects = k.objects)
    (reads : ∀ r, (k.step n command).state.pool.read r = k.pool.read r)
    (destroyed : (k.step n command).destroyed = k.spent n command) : k.Orderly n command where
  ends := by
    rw [gone]
    exact ends_of_same objects reads
  nodup := by
    rw [gone]
    exact List.nodup_nil
  destroyed := by
    rw [gone, destroyed]
    exact List.Perm.refl _

/-- A command that leaves everything as it is. -/
theorem step_keeping (h : k.Accounted n outside) {command : Command α} {reply : Reply α}
    (stepped : k.step n command = .keeping reply k) (gone : k.gone command = [])
    (spent : k.spent n command = []) :
    k.Orderly n command ∧ (k.step n command).state.Accounted (n + 1) outside := by
  refine ⟨orderly_of_quiet gone ?_ (fun r => ?_) ?_, ?_⟩
  · rw [stepped]
    rfl
  · rw [stepped]
    rfl
  · rw [stepped, spent]
    rfl
  · rw [stepped]
    exact h.mono (Nat.le_succ n)

theorem step_alloc [LawfulBacking β] (h : k.Accounted n outside) (v : α) :
    k.Orderly n (.alloc v) ∧ (k.step n (.alloc v)).state.Accounted (n + 1) outside := by
  rcases make_cases h v with ⟨s, p', made, stores, reads⟩ | ⟨e, p', made, stores, reads⟩
  · have stepped : k.step n (.alloc v) =
        ⟨.allocated s, { k with pool := p', objects := k.objects.insert n ⟨s, .live⟩ }, []⟩ := by
      simp only [step, made]
      rfl
    refine ⟨⟨?_, List.nodup_nil, ?_⟩, ?_⟩
    · rw [stepped]
      exact ends_insertLive h stores reads
    · rw [stepped, spent, made]
      exact List.Perm.refl _
    · rw [stepped]
      exact h.insertLive stores reads
  · have stepped : k.step n (.alloc v) = ⟨.noStorage e, { k with pool := p' }, [v]⟩ := by
      simp only [step, made]
      rfl
    refine ⟨orderly_of_quiet rfl ?_ ?_ ?_, ?_⟩
    · rw [stepped]
    · rw [stepped]
      exact reads
    · rw [stepped, spent, made]
    · rw [stepped]
      refine (h.withPool stores fun s live => ?_).mono (Nat.le_succ n)
      rw [reads]
      exact h.held s live

theorem step_free [LawfulBacking β] (h : k.Accounted n outside) (o : Ref) :
    k.Orderly n (.free o) ∧ (k.step n (.free o)).state.Accounted (n + 1) outside := by
  have sized : k.isZeroSized = false := h.stores.sized
  cases found : k.live? o with
  | none =>
    have stepped : k.step n (.free o) = k.skip := by simp only [step, found]
    exact step_keeping h stepped (by simp only [gone, found]) rfl
  | some ms =>
    obtain ⟨m, s⟩ := ms
    by_cases pending : k.isPendingAnywhere s = true
    · have stepped : k.step n (.free o) = k.skip := by simp [step, found, sized, pending]
      exact step_keeping h stepped (by simp [gone, found, pending]) rfl
    · have stepped : k.step n (.free o) = (k.release m s).withReply .done := by
        simp [step, found, pending]
      have ended : k.gone (.free o) = [m] := by simp [gone, found, pending]
      have live := (live?_eq_some.1 found).2
      have notPending : ∀ c, ¬ k.Pends c s := fun c pends =>
        pending (isPendingAnywhere_iff.2 ⟨c, pends⟩)
      refine ⟨⟨?_, ?_, ?_⟩, ?_⟩
      · rw [stepped, ended]
        exact ends_release live
      · rw [ended]
        exact List.pairwise_singleton _ m
      · rw [stepped, ended]
        have payload : k.payload? m = k.pool.read s := by
          rw [payload?, live]
          rfl
        have destroyed : (k.release m s).destroyed = (k.pool.read s).toList := by
          simp only [release, Pool.free]
        rw [Outcome.destroyed_withReply, destroyed, List.filterMap_cons, payload]
        cases k.pool.read s <;> exact List.Perm.refl _
      · rw [stepped]
        exact (accounted_release h live notPending).mono (Nat.le_succ n)

theorem step_write [LawfulBacking β] (h : k.Accounted n outside) (o : Ref) (v : α) :
    k.Orderly n (.write o v) ∧ (k.step n (.write o v)).state.Accounted (n + 1) outside := by
  cases found : k.live? o with
  | none =>
    have stepped : k.step n (.write o v) = k.skip := by simp only [step, found]
    have spent : k.spent n (.write o v) = [] := by
      simp only [spent, found, Option.bind_none, Option.toList_none]
    exact step_keeping h stepped rfl spent
  | some ms =>
    obtain ⟨m, s⟩ := ms
    obtain ⟨rfl, live⟩ := live?_eq_some.1 found
    have stepped : k.step n (.write (some m) v) =
        ⟨.done, { k with pool := (k.pool.write s v).state }, (k.pool.write s v).destroyed⟩ := by
      simp only [step, found]
    have reads := k.pool.read_write s v
    refine ⟨⟨⟨?_, ?_, ?_, ?_⟩, List.nodup_nil, ?_⟩, ?_⟩
    · exact fun j mem => absurd mem List.not_mem_nil
    · exact fun j mem => absurd mem List.not_mem_nil
    · intro j object _ found'
      rw [stepped]
      exact found'
    · intro j r _ notWritten found'
      have other : r ≠ s := by
        rintro rfl
        exact notWritten (congrArg some (eq_of_live h.nodup_liveSlots live found'))
      rw [stepped]
      exact (reads r).trans (if_neg other)
    · rw [stepped, spent, found]
      exact List.Perm.refl _
    · rw [stepped]
      have stores : (k.pool.write s v).state.Stores (k.liveSlots ++ outside) :=
        ⟨h.stores.sized, h.stores.perm, h.stores.nodup⟩
      refine (h.withPool stores fun r held => ?_).mono (Nat.le_succ n)
      rw [reads]
      split
      · exact ⟨v, rfl⟩
      · exact h.held r held

/-! ## Steps of collectors -/

/-- Opening a collector is orderly and keeps the books, even in the place of another one. -/
theorem step_openCollector [LawfulBacking β] (h : k.Accounted n outside) (c : Nat) :
    k.Orderly n (.openCollector c) ∧
      (k.step n (.openCollector c)).state.Accounted (n + 1) outside := by
  cases found : k.collectors[c]? with
  | none =>
    have stepped : k.step n (.openCollector c) =
        ⟨.done, { k with collectors := k.collectors.insert c (.ofLayout k.pool.layout) }, []⟩ := by
      simp only [step, found]
      rfl
    refine ⟨orderly_of_quiet ?_ ?_ ?_ ?_, ?_⟩
    · simp only [gone, found]
    · rw [stepped]
    · rw [stepped]
      exact fun r => rfl
    · rw [stepped]
      rfl
    · rw [stepped]
      exact (accounted_fresh h c).mono (Nat.le_succ n)
  | some collector =>
    have closed := accounted_close h found
    have stepped : k.step n (.openCollector c) =
        ⟨.done, { (k.close c collector).state with
          collectors := (k.close c collector).state.collectors.insert c (.ofLayout k.pool.layout) },
          (k.close c collector).destroyed⟩ := by
      simp only [step, found]
    have ended : k.gone (.openCollector c) = occupantsOf k.objects collector.sweep := by
      simp only [gone, found]
    refine ⟨⟨?_, ?_, ?_⟩, ?_⟩
    · rw [stepped, ended]
      exact (ends_close (c := c) h.stores.sized).congr rfl rfl
    · rw [ended]
      exact nodup_occupantsOf k.objects collector.sweep
    · rw [stepped, ended]
      exact (h.destroyed_close found).trans (List.Perm.of_eq (List.append_nil _).symm)
    · rw [stepped, ← layout_close k c collector]
      exact (accounted_fresh closed c).mono (Nat.le_succ n)

theorem step_closeCollector [LawfulBacking β] (h : k.Accounted n outside) (c : Nat) :
    k.Orderly n (.closeCollector c) ∧
      (k.step n (.closeCollector c)).state.Accounted (n + 1) outside := by
  cases found : k.collectors[c]? with
  | none =>
    have stepped : k.step n (.closeCollector c) = k.skip := by simp only [step, found]
    exact step_keeping h stepped (by simp only [gone, found]) rfl
  | some collector =>
    have stepped : k.step n (.closeCollector c) = (k.close c collector).withReply .done := by
      simp only [step, found]
    have ended : k.gone (.closeCollector c) = occupantsOf k.objects collector.sweep := by
      simp only [gone, found]
    refine ⟨⟨?_, ?_, ?_⟩, ?_⟩
    · rw [stepped, ended]
      exact ends_close h.stores.sized
    · rw [ended]
      exact nodup_occupantsOf k.objects collector.sweep
    · rw [stepped, ended]
      exact (h.destroyed_close found).trans (List.Perm.of_eq (List.append_nil _).symm)
    · rw [stepped]
      exact (accounted_close h found).mono (Nat.le_succ n)

/-- A command that only puts a collector into another state, or is refused. -/
theorem step_settle (h : k.Accounted n outside) {command : Command α}
    {answer : Except CollectorError Collector} (stepped : k.step n command = k.settle c answer)
    (gone : k.gone command = []) (spent : k.spent n command = [])
    (accounted : ∀ collector, answer = .ok collector →
      Accounted { k with collectors := k.collectors.insert c collector } n outside) :
    k.Orderly n command ∧ (k.step n command).state.Accounted (n + 1) outside := by
  cases answer with
  | error e => exact step_keeping h stepped gone spent
  | ok collector =>
    refine ⟨orderly_of_quiet gone ?_ ?_ ?_, ?_⟩
    · rw [stepped]
      rfl
    · rw [stepped]
      exact fun r => rfl
    · rw [stepped, spent]
      rfl
    · rw [stepped]
      exact (accounted collector rfl).mono (Nat.le_succ n)

/-- Adding an object is orderly and keeps the books; what another collector claims is refused. -/
theorem step_add (h : k.Accounted n outside) (c : Nat) (o : Ref) :
    k.Orderly n (.add c o) ∧ (k.step n (.add c o)).state.Accounted (n + 1) outside := by
  have sized : k.isZeroSized = false := h.stores.sized
  cases found : k.collectors[c]? with
  | none =>
    have stepped : k.step n (.add c o) = k.skip := by simp only [step, found]
    exact step_keeping h stepped rfl rfl
  | some collector =>
    cases named : k.live? o with
    | none =>
      have stepped : k.step n (.add c o) = k.skip := by simp only [step, found, named]
      exact step_keeping h stepped rfl rfl
    | some ms =>
      obtain ⟨m, s⟩ := ms
      by_cases elsewhere : k.isPendingElsewhere c s = true
      · have stepped : k.step n (.add c o) = k.skip := by
          simp [step, found, named, sized, elsewhere]
        exact step_keeping h stepped rfl rfl
      · have stepped : k.step n (.add c o) = k.settle c (collector.add s) := by
          simp [step, found, named, elsewhere]
        refine step_settle h stepped rfl rfl fun collector' added => ?_
        refine accounted_add h found (mem_liveSlots.2 ⟨m, (live?_eq_some.1 named).2⟩) ?_ added
        intro c' pends
        by_cases same : c' = c
        · exact same
        · exact absurd (isPendingElsewhere_iff.2 ⟨c', same, pends⟩) elsewhere

theorem step_remove (h : k.Accounted n outside) (c : Nat) (o : Ref) :
    k.Orderly n (.remove c o) ∧ (k.step n (.remove c o)).state.Accounted (n + 1) outside := by
  cases found : k.collectors[c]? with
  | none =>
    have stepped : k.step n (.remove c o) = k.skip := by simp only [step, found]
    exact step_keeping h stepped rfl rfl
  | some collector =>
    cases named : k.knownSlot? o with
    | none =>
      have stepped : k.step n (.remove c o) = k.skip := by simp only [step, found, named]
      exact step_keeping h stepped rfl rfl
    | some s =>
      have stepped : k.step n (.remove c o) = k.settle c (collector.remove s) := by
        simp only [step, found, named]
      exact step_settle h stepped rfl rfl fun collector' removed =>
        accounted_remove h found removed

theorem step_removeSlot (h : k.Accounted n outside) (c : Nat) (s : Slot) :
    k.Orderly n (.removeSlot c s) ∧
      (k.step n (.removeSlot c s)).state.Accounted (n + 1) outside := by
  cases found : k.collectors[c]? with
  | none =>
    have stepped : k.step n (.removeSlot c s) = k.skip := by simp only [step, found]
    exact step_keeping h stepped rfl rfl
  | some collector =>
    have stepped : k.step n (.removeSlot c s) = k.settle c (collector.remove s) := by
      simp only [step, found]
    exact step_settle h stepped rfl rfl fun collector' removed =>
      accounted_remove h found removed

/-- Making an object in a collector is orderly and keeps the books. -/
theorem step_track [LawfulBacking β] (h : k.Accounted n outside) (c : Nat) (v : α) :
    k.Orderly n (.track c v) ∧ (k.step n (.track c v)).state.Accounted (n + 1) outside := by
  cases found : k.collectors[c]? with
  | none =>
    have stepped : k.step n (.track c v) = k.skip := by simp only [step, found]
    exact step_keeping h stepped rfl (by simp only [spent, found])
  | some collector =>
    rcases make_cases h v with ⟨s, p', made, stores, reads⟩ | ⟨e, p', made, stores, reads⟩
    · have accounted := h.insertLive stores reads
      have nodup := stores.nodup_used
      rw [List.nodup_cons] at nodup
      have unknown : ∀ c', ¬ k.Pends c' s := fun c' pends =>
        nodup.1 (List.mem_append_left _ (h.pends_live c' s pends))
      have live : s ∈ liveSlots
          { k with pool := p', objects := k.objects.insert n ⟨s, .live⟩ } :=
        mem_liveSlots.2 ⟨n, Std.TreeMap.getElem?_insert_self⟩
      obtain ⟨collector', added⟩ := exists_add_of_made h found (congrArg (·.reply) made)
      have stepped : k.step n (.track c v) = ⟨.done, { k with
          pool := p', objects := k.objects.insert n ⟨s, .live⟩,
          collectors := k.collectors.insert c collector' }, []⟩ := by
        simp only [step, found, made, added]
        rfl
      refine ⟨⟨?_, List.nodup_nil, ?_⟩, ?_⟩
      · rw [stepped]
        exact (ends_insertLive h stores reads).congr rfl rfl
      · rw [stepped, spent, found, made]
        exact List.Perm.refl _
      · rw [stepped]
        exact accounted_add accounted found live (fun c' pends => absurd pends (unknown c')) added
    · have stepped : k.step n (.track c v) = ⟨.noStorage e, { k with pool := p' }, [v]⟩ := by
        simp only [step, found, made]
        rfl
      refine ⟨orderly_of_quiet rfl ?_ ?_ ?_, ?_⟩
      · rw [stepped]
      · rw [stepped]
        exact reads
      · rw [stepped, spent, found, made]
      · rw [stepped]
        refine (h.withPool stores fun s live => ?_).mono (Nat.le_succ n)
        rw [reads]
        exact h.held s live

theorem step_read (h : k.Accounted n outside) (o : Ref) :
    k.Orderly n (.read o) ∧ (k.step n (.read o)).state.Accounted (n + 1) outside := by
  have stepped : ∃ reply, k.step n (.read o) = .keeping reply k := by
    rw [step]
    split
    · exact ⟨_, rfl⟩
    · exact ⟨_, rfl⟩
  obtain ⟨reply, stepped⟩ := stepped
  exact step_keeping h stepped rfl rfl

theorem step_isPending (h : k.Accounted n outside) (c : Nat) (o : Ref) :
    k.Orderly n (.isPending c o) ∧ (k.step n (.isPending c o)).state.Accounted (n + 1) outside := by
  cases found : k.collectors[c]? with
  | none =>
    have stepped : k.step n (.isPending c o) = k.skip := by simp only [step, found]
    exact step_keeping h stepped rfl rfl
  | some collector =>
    cases named : k.knownSlot? o with
    | none =>
      have stepped : k.step n (.isPending c o) = k.skip := by simp only [step, found, named]
      exact step_keeping h stepped rfl rfl
    | some s =>
      have stepped : k.step n (.isPending c o) = .keeping (.flag (collector.isPending s)) k := by
        simp only [step, found, named]
      exact step_keeping h stepped rfl rfl

/-- Every command is orderly and keeps the books. -/
theorem orderly_step [LawfulBacking β] (h : k.Accounted n outside) (command : Command α) :
    k.Orderly n command ∧ (k.step n command).state.Accounted (n + 1) outside := by
  cases command with
  | alloc v => exact step_alloc h v
  | free o => exact step_free h o
  | read o => exact step_read h o
  | write o v => exact step_write h o v
  | openCollector c => exact step_openCollector h c
  | closeCollector c => exact step_closeCollector h c
  | track c v => exact step_track h c v
  | add c o => exact step_add h c o
  | remove c o => exact step_remove h c o
  | removeSlot c s => exact step_removeSlot h c s
  | isPending c o => exact step_isPending h c o
  | info => exact step_keeping h rfl rfl rfl

/-! ## Runs -/

def after (k : Custody α β) (n : Nat) (commands : List (Command α)) : Custody α β :=
  k.last (k.runFrom n commands)

def endings (k : Custody α β) (n : Nat) : List (Command α) → List Nat
  | [] => []
  | c :: cs => k.gone c ++ (k.step n c).state.endings (n + 1) cs

omit [Backing β] in
theorem last_cons (k : Custody α β) (o : Result α β) (results : List (Result α β)) :
    k.last (o :: results) = o.state.last results := by
  rw [last, List.getLast?_cons, last]
  cases results.getLast? <;> rfl

theorem after_cons (k : Custody α β) (n : Nat) (command : Command α)
    (commands : List (Command α)) :
    k.after n (command :: commands) = (k.step n command).state.after (n + 1) commands :=
  last_cons ..

/-- The books are kept in every state of a run. -/
theorem accounted_after [LawfulBacking β] (h : k.Accounted n outside)
    (commands : List (Command α)) :
    (k.after n commands).Accounted (n + commands.length) outside := by
  induction commands generalizing k n with
  | nil => exact h
  | cons command commands ih =>
    have rest := ih (orderly_step h command).2
    rw [after_cons, List.length_cons, ← Nat.add_assoc, Nat.add_right_comm]
    exact rest

/-- What commands end lives already, or is no object yet. -/
theorem live_of_mem_endings [LawfulBacking β] (h : k.Accounted n outside)
    {commands : List (Command α)} {m : Nat} (mem : m ∈ k.endings n commands) :
    (∃ s, k.objects[m]? = some ⟨s, .live⟩) ∨ k.objects[m]? = none := by
  induction commands generalizing k n with
  | nil => exact absurd mem List.not_mem_nil
  | cons command commands ih =>
    obtain ⟨⟨ends, -, -⟩, accounted⟩ := orderly_step h command
    rcases List.mem_append.1 mem with here | later
    · exact .inl (ends.live m here)
    · cases found : k.objects[m]? with
      | none => exact .inr rfl
      | some o =>
        by_cases ended : m ∈ k.gone command
        · obtain ⟨s, live⟩ := ends.live m ended
          exact .inl ⟨s, found.symm.trans live⟩
        · have kept := ends.kept m o ended found
          rcases ih accounted later with ⟨s, live⟩ | absent
          · exact .inl ⟨s, kept.symm.trans live⟩
          · rw [kept] at absent
            cases absent

/-- Over a whole run, every object ends once at most. -/
theorem nodup_endings [LawfulBacking β] (h : k.Accounted n outside)
    (commands : List (Command α)) : (k.endings n commands).Nodup := by
  induction commands generalizing k n with
  | nil => exact List.nodup_nil
  | cons command commands ih =>
    obtain ⟨⟨ends, nodup, -⟩, accounted⟩ := orderly_step h command
    rw [endings, List.nodup_append]
    refine ⟨nodup, ih accounted, ?_⟩
    rintro m here m' later rfl
    obtain ⟨s, standing, found, ended⟩ := ends.ended m here
    rcases live_of_mem_endings accounted later with ⟨s', live⟩ | absent
    · rw [found] at live
      cases live
      exact ended rfl
    · rw [found] at absent
      cases absent

/-- No slot is in two hands, and none is lost. The slots in `outside` were out before the pool was
made. -/
structure Safe (k : Custody α β) (outside : List Slot) : Prop where
  /-- Live objects are in slots of their own. -/
  apart : ∀ (m m' : Nat) (s : Slot), k.objects[m]? = some ⟨s, .live⟩ →
    k.objects[m']? = some ⟨s, .live⟩ → m = m'
  /-- No live object is in a pooled slot. -/
  unpooled : ∀ (m : Nat) (s : Slot), k.objects[m]? = some ⟨s, .live⟩ → s ∉ k.pool.pooled
  /-- No slot is pooled twice. -/
  pooled : k.pool.pooled.Nodup
  /-- What a collector has pending is live. -/
  pending : ∀ c s, k.Pends c s → ∃ m : Nat, k.objects[m]? = some ⟨s, .live⟩
  /-- No slot is pending in two collectors. -/
  once : ∀ c c' s, k.Pends c s → k.Pends c' s → c = c'
  /-- What is out is pooled or live. -/
  balance : (Backing.allocated k.pool.backing).length =
    k.pool.pooled.length + k.liveSlots.length + outside.length
  /-- A sweep frees what is pending, and each slot once. A slot that was withdrawn is left alone,
  whatever object it holds by then. -/
  sweep : ∀ (c : Nat) (collector : Collector), k.collectors[c]? = some collector →
    collector.sweep.Nodup ∧ ∀ s, s ∈ collector.sweep ↔ k.Pends c s

/-- A custody that keeps the books is safe. -/
theorem Accounted.safe (h : k.Accounted n outside) : k.Safe outside where
  apart := fun m m' s => eq_of_live h.nodup_liveSlots
  unpooled := fun m s found =>
    h.stores.not_mem_pooled (List.mem_append_left _ (mem_liveSlots.2 ⟨m, found⟩))
  pooled := (List.nodup_append.1 h.stores.nodup).1
  pending := fun c s pends => mem_liveSlots.1 (h.pends_live c s pends)
  once := h.pends_once
  balance := by rw [h.stores.length_eq, List.length_append, Nat.add_assoc]
  sweep := by
    intro c collector found
    have distinct := h.distinct c collector found
    refine ⟨Collector.nodup_sweep distinct, fun s => ?_⟩
    rw [Collector.mem_sweep distinct]
    constructor
    · exact fun pending => ⟨collector, found, pending⟩
    · rintro ⟨collector', found', pending⟩
      rw [found] at found'
      cases found'
      exact pending

/-- A pool whose books are in order makes a custody that keeps the books. -/
theorem accounted_ofPool {pool : Pool α β} (stores : pool.Stores outside) :
    (ofPool pool).Accounted 0 outside := by
  have bare : Accounted (⟨pool, ∅, ∅⟩ : Custody α β) 0 outside := by
    refine ⟨stores, fun c collector found => ?_, fun c s pends => ?_, fun c c' s pends => ?_,
      fun s live => ?_, fun m o found => ?_⟩
    · simp at found
    · obtain ⟨collector, found, -⟩ := pends
      simp at found
    · obtain ⟨collector, found, -⟩ := pends
      simp at found
    · obtain ⟨m, found⟩ := mem_liveSlots.1 live
      simp at found
    · simp at found
  exact accounted_fresh bare 0

/-- Whatever owners and collectors do, in any order: every state on the way is safe, every command
is orderly, and every object ends once at most. -/
theorem safe_of_run [LawfulBacking β] {layout : Layout} {capacity : Nat} {backing : β}
    {pool : Pool α β} (sized : layout.isZeroSized = false)
    (nodup : (Backing.allocated backing).Nodup)
    (created : Pool.create α layout capacity backing = .ok pool) (commands : List (Command α)) :
    ((ofPool pool).after 0 commands).Safe (Backing.allocated backing) ∧
      (∀ command, ((ofPool pool).after 0 commands).Orderly commands.length command) ∧
      ((ofPool pool).endings 0 commands).Nodup := by
  have start := accounted_ofPool (Pool.stores_create sized nodup created)
  have reached := accounted_after start commands
  rw [Nat.zero_add] at reached
  exact ⟨reached.safe, fun command => (orderly_step reached command).1,
    nodup_endings start commands⟩

/-- Object 0 is handed over and freed, object 5 gets its slot and is pending in another collector
while the first one, which still knows the slot, goes out of use. -/
theorem safe_of_recycled_slot :
    ∃ pool : Pool Nat Rationed, Pool.create Nat (.word 8) 2 .endless = .ok pool ∧
      let commands : List (Command Nat) := [.alloc 10, .add 0 (some 0), .remove 0 (some 0),
        .free (some 0), .openCollector 1, .alloc 11, .add 1 (some 5), .removeSlot 0 1,
        .closeCollector 0]
      (Layout.word 8).isZeroSized = false ∧ (Backing.allocated Rationed.endless).Nodup ∧
      ((ofPool pool).after 0 commands).objects[5]? = some ⟨1, .live⟩ ∧
      ((ofPool pool).after 0 commands).Safe [] ∧
      (∀ command, ((ofPool pool).after 0 commands).Orderly commands.length command) ∧
      ((ofPool pool).endings 0 commands).Nodup := by
  have created : Pool.create Nat (.word 8) 2 .endless =
      .ok ⟨.word 8, 2, [1], Rationed.endless.afterIssue, ∅⟩ := rfl
  exact ⟨_, created, rfl, List.nodup_nil, rfl, safe_of_run rfl List.nodup_nil created _⟩

end Custody

end Substrate
