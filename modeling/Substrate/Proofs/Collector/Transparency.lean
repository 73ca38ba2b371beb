import Substrate.Proofs.Collector.Conservation
import Substrate.Proofs.Pool.Trips

/-!
# Substrate.Proofs.Collector.Transparency

What an owner sees of a pool. A `Ledger` holds the payload of every live object and knows no slots:
an object is entered, read, overwritten and struck off, and the payload that goes is destroyed then.
Over a supply that never refuses, a pool does what the ledger says (`Reflects`, `reflects_step`),
whatever its capacity is and whichever slots it uses again. In a ledger a payload that is handed in
is destroyed once, or is there in the end (`Ledger.payloads_run`).

The main result is `transparent_of_run`.
-/

namespace Substrate

variable {α β β' : Type}

namespace Pool

variable [Backing β] {p : Pool α β}

/-! ## Supplies that never refuse -/

/-- A supply that never refuses grants a fresh slot. -/
theorem freshSlot_of_generous (generous : Backing.Generous p.layout p.backing) :
    ∃ s b, p.freshSlot = (.ok s, { p with backing := b }) ∧ Backing.Generous p.layout b := by
  cases sized : p.layout.isZeroSized with
  | true => exact ⟨.dangling, p.backing, by rw [freshSlot, sized]; rfl, generous⟩
  | false =>
    obtain ⟨s, granted⟩ := generous []
    have answer : (Backing.allocate p.backing p.layout).1 = .ok s := granted
    refine ⟨s, (Backing.allocate p.backing p.layout).2, ?_, generous.after [.grant s]⟩
    rw [freshSlot_of_sized sized, answer]

/-- Over a supply that never refuses, objects are always made. -/
theorem alloc_of_generous (generous : Backing.Generous p.layout p.backing) (v : α) :
    ∃ s p', p.alloc v = .keeping (.ok s) p' ∧ Backing.Generous p.layout p'.backing := by
  cases pooled : p.pooled with
  | cons s rest => exact ⟨s, _, alloc_of_pooled pooled v, generous⟩
  | nil =>
    obtain ⟨s, b, fresh, generous'⟩ := freshSlot_of_generous generous
    exact ⟨s, _, alloc_of_fresh pooled fresh v, generous'⟩

theorem generous_free (generous : Backing.Generous p.layout p.backing) (s : Slot) :
    Backing.Generous p.layout (p.free s).state.backing := by
  unfold free
  split
  · exact generous
  · change Backing.Generous p.layout (release p.layout p.backing s)
    rw [release]
    split
    · exact generous
    · exact generous.after [.giveBack s]

theorem prefill_of_generous (generous : Backing.Generous p.layout p.backing) (n : Nat) :
    ∃ p', p.prefill n = (.ok (), p') ∧ Backing.Generous p.layout p'.backing := by
  induction n generalizing p with
  | zero => exact ⟨p, rfl, generous⟩
  | succ n ih =>
    obtain ⟨s, b, fresh, generous'⟩ := freshSlot_of_generous generous
    rw [prefill, fresh]
    exact ih (p := { p with pooled := s :: p.pooled, backing := b }) generous'

theorem create_of_generous (α : Type) {layout : Layout} {b : β}
    (generous : Backing.Generous layout b) (capacity : Nat) :
    ∃ p, create α layout capacity b = .ok p ∧ Backing.Generous layout p.backing := by
  obtain ⟨p, filled, generous'⟩ := prefill_of_generous
    (p := (⟨layout, capacity, [], b, ∅⟩ : Pool α β)) generous ((capacity + 1) / 2)
  exact ⟨p, by rw [create, filled], generous'⟩

end Pool

namespace Custody

/-! ## Ledgers -/

/-- What is seen of a reply to a command: all but the slot of a new object. -/
def Reply.unplaced : Reply α → Reply α
  | allocated _ => done
  | reply => reply

/-- What is seen of an outcome: the reply without a slot, and the payloads destroyed. -/
def seen {σ : Type} (o : Outcome σ (Reply α) α) : Reply α × List α :=
  (o.reply.unplaced, o.destroyed)

/-- Is the command one of an owner, who knows no collectors? -/
def Command.isPlain : Command α → Bool
  | alloc _ | free _ | read _ | write _ _ => true
  | _ => false

end Custody

/-- The payloads of the live objects, by number. -/
abbrev Ledger (α : Type) := Std.TreeMap Nat α

namespace Ledger

open Custody

/-- The object that is named, with its payload. -/
def find? (m : Ledger α) (o : Ref) : Option (Nat × α) := do
  let i ← o
  return (i, ← m[i]?)

/-- What command number `n` does to payloads. -/
def step (m : Ledger α) (n : Nat) : Command α → Outcome (Ledger α) (Reply α) α
  | .alloc v => .keeping .done (m.insert n v)
  | .free o =>
    match find? m o with
    | none => .keeping .skipped m
    | some (i, v) => ⟨.done, m.erase i, [v]⟩
  | .read o =>
    match find? m o with
    | none => .keeping .skipped m
    | some (_, v) => .keeping (.payload v) m
  | .write o w =>
    match find? m o with
    | none => .keeping .skipped m
    | some (i, v) => ⟨.done, m.insert i w, [v]⟩
  | _ => .keeping .skipped m

def runFrom (m : Ledger α) (n : Nat) : List (Command α) → List (Outcome (Ledger α) (Reply α) α)
  | [] => []
  | c :: cs => step m n c :: runFrom (step m n c).state (n + 1) cs

def after (m : Ledger α) (n : Nat) : List (Command α) → Ledger α
  | [] => m
  | c :: cs => after (step m n c).state (n + 1) cs

/-- The payloads that a command hands in. -/
def taken (m : Ledger α) : Command α → List α
  | .alloc v => [v]
  | .write o v => if (find? m o).isSome then [v] else []
  | _ => []

/-- The payloads that commands hand in, in order. -/
def handed (m : Ledger α) (n : Nat) : List (Command α) → List α
  | [] => []
  | c :: cs => taken m c ++ handed (step m n c).state (n + 1) cs

def payloads (m : Ledger α) : List α := m.toList.map Prod.snd

variable {m : Ledger α} {n i : Nat} {o : Ref} {v : α}

theorem find?_eq_some : find? m o = some (i, v) ↔ o = some i ∧ m[i]? = some v := by
  cases o with
  | none => simp [find?]
  | some j =>
    simp only [find?, Option.bind_eq_bind, Option.bind_some, Option.some.injEq]
    cases held : m[j]? with
    | none =>
      simp only [Option.bind_none, reduceCtorEq, false_iff, not_and]
      rintro rfl
      simp [held]
    | some w =>
      simp only [Option.bind_some, Option.pure_def, Option.some.injEq, Prod.mk.injEq]
      constructor
      · rintro ⟨rfl, rfl⟩
        exact ⟨rfl, held⟩
      · rintro ⟨rfl, held'⟩
        rw [held] at held'
        exact ⟨rfl, Option.some.inj held'⟩

/-- A payload that is entered is one beside those of the other objects. -/
theorem payloads_insert (m : Ledger α) (i : Nat) (v : α) :
    (payloads (m.insert i v)).Perm (v :: payloads (m.erase i)) :=
  (Registers.toList_insert m i v).map Prod.snd

/-- The payload of an object is one of all payloads. -/
theorem payloads_of_getElem? (held : m[i]? = some v) :
    (payloads m).Perm (v :: payloads (m.erase i)) :=
  (Registers.toList_of_getElem? held).map Prod.snd

/-- The payloads before a command and those handed in are those after it and those destroyed. -/
theorem payloads_step (fresh : m[n]? = none) (command : Command α) :
    (taken m command ++ payloads m).Perm
      ((step m n command).destroyed ++ payloads (step m n command).state) := by
  cases command with
  | alloc v => exact ((Registers.toList_insert_of_fresh fresh v).map Prod.snd).symm
  | free o =>
    rw [step]
    cases named : find? m o with
    | none => exact List.Perm.refl _
    | some iv => exact payloads_of_getElem? (find?_eq_some.1 named).2
  | write o w =>
    rw [step, taken]
    cases named : find? m o with
    | none => exact List.Perm.refl _
    | some iv =>
      obtain ⟨i, v⟩ := iv
      refine ((payloads_of_getElem? (find?_eq_some.1 named).2).cons w).trans ?_
      exact (List.Perm.swap v w _).trans ((payloads_insert m i w).symm.cons v)
  | read o =>
    rw [step]
    cases find? m o <;> exact List.Perm.refl _
  | openCollector | closeCollector | track | add | remove | removeSlot | isPending | info =>
    exact List.Perm.refl _

/-- Only new objects are entered. -/
theorem fresh_step (fresh : ∀ i, n ≤ i → m[i]? = none) (command : Command α) :
    ∀ i, n + 1 ≤ i → (step m n command).state[i]? = none := by
  intro i le
  have old := fresh i (Nat.le_of_succ_le le)
  cases command with
  | alloc v =>
    change (m.insert n v)[i]? = none
    rw [Registers.getElem?_insert, if_neg (Nat.ne_of_gt le), old]
  | free o =>
    rw [step]
    cases find? m o with
    | none => exact old
    | some jv =>
      change (m.erase jv.1)[i]? = none
      rw [Registers.getElem?_erase, old, ite_self]
  | write o w =>
    rw [step]
    cases named : find? m o with
    | none => exact old
    | some jv =>
      have held := (find?_eq_some.1 named).2
      have other : i ≠ jv.1 := by
        rintro rfl
        rw [old] at held
        cases held
      change (m.insert jv.1 w)[i]? = none
      rw [Registers.getElem?_insert, if_neg other, old]
  | read o =>
    rw [step]
    cases find? m o <;> exact old
  | openCollector | closeCollector | track | add | remove | removeSlot | isPending | info =>
    exact old

/-- Over a run, a payload that is handed in is destroyed once, or that of an object in the end. -/
theorem payloads_run (fresh : ∀ i, n ≤ i → m[i]? = none) (commands : List (Command α)) :
    (handed m n commands ++ payloads m).Perm
      ((runFrom m n commands).flatMap (·.destroyed) ++ payloads (after m n commands)) := by
  induction commands generalizing m n with
  | nil => exact List.Perm.refl _
  | cons command commands ih =>
    have first := payloads_step (fresh n (Nat.le_refl n)) command
    have rest := ih (fresh_step fresh command)
    rw [handed, runFrom, after, List.flatMap_cons]
    exact balance_trans first rest

end Ledger

namespace Custody

variable [Backing β] {k : Custody α β} {n : Nat} {outside : List Slot} {layout : Layout}
  {capacity : Nat} {m : Ledger α}

/-! ## What a ledger tells of a pool -/

/-- The ledger holds the payloads of the live objects. Two of these share a slot only where all
payloads are the same. -/
structure Reflects (k : Custody α β) (n : Nat) (outside : List Slot) (layout : Layout)
    (capacity : Nat) (m : Ledger α) : Prop where
  entry : ∀ (i : Nat) (v : α), m[i]? = some v ↔
    ∃ s, k.objects[i]? = some ⟨s, .live⟩ ∧ k.pool.read s = some v
  held : ∀ (i : Nat) (s : Slot), k.objects[i]? = some ⟨s, .live⟩ → ∃ v, k.pool.read s = some v
  numbered : ∀ (i : Nat) (o : Object), k.objects[i]? = some o → i < n
  idle : ∀ s, k.isPendingAnywhere s = false
  apart : Subsingleton α ∨ k.Accounted n outside
  fits : k.pool.Fits layout capacity
  generous : Backing.Generous layout k.pool.backing

/-- A name is that of a live object here and there, or of none. -/
theorem Reflects.find (h : k.Reflects n outside layout capacity m) (o : Ref) :
    (k.live? o = none ∧ Ledger.find? m o = none) ∨
      ∃ i s v, k.live? o = some (i, s) ∧ k.objects[i]? = some ⟨s, .live⟩ ∧
        k.pool.read s = some v ∧ Ledger.find? m o = some (i, v) := by
  cases named : k.live? o with
  | some is =>
    obtain ⟨i, s⟩ := is
    obtain ⟨rfl, found⟩ := live?_eq_some.1 named
    obtain ⟨v, read⟩ := h.held i s found
    exact .inr ⟨i, s, v, rfl, found, read,
      Ledger.find?_eq_some.2 ⟨rfl, (h.entry i v).2 ⟨s, found, read⟩⟩⟩
  | none =>
    refine .inl ⟨rfl, ?_⟩
    cases entered : Ledger.find? m o with
    | none => rfl
    | some iv =>
      obtain ⟨rfl, held⟩ := Ledger.find?_eq_some.1 entered
      obtain ⟨s, found, -⟩ := (h.entry iv.1 iv.2).1 held
      rw [live?_eq_some.2 ⟨rfl, found⟩] at named
      cases named

/-- Writing to a slot changes what is read of the object in it alone. -/
theorem Reflects.read_other (h : k.Reflects n outside layout capacity m) {p' : Pool α β}
    {i : Nat} {s : Slot} {w : α}
    (reads : ∀ r, p'.read r = if r = s then some w else k.pool.read r)
    (unshared : ∀ j : Nat, k.objects[j]? = some ⟨s, .live⟩ → j = i ∨ Subsingleton α)
    {j : Nat} {r : Slot} (other : j ≠ i) (found : k.objects[j]? = some ⟨r, .live⟩) :
    p'.read r = k.pool.read r := by
  rw [reads]
  split
  · next same =>
    subst same
    obtain ⟨v, read⟩ := h.held j r found
    have := (unshared j found).resolve_left other
    rw [read, Subsingleton.elim w v]
  · rfl

/-- Entering a payload is putting it into the slot of its object. -/
theorem Reflects.put (h : k.Reflects n outside layout capacity m) {p' : Pool α β}
    {objects : Std.TreeMap Nat Object} {i : Nat} {s : Slot} {w : α}
    (reads : ∀ r, p'.read r = if r = s then some w else k.pool.read r)
    (found : ∀ j : Nat, objects[j]? = if j = i then some ⟨s, .live⟩ else k.objects[j]?)
    (unshared : ∀ j : Nat, k.objects[j]? = some ⟨s, .live⟩ → j = i ∨ Subsingleton α) :
    (∀ (j : Nat) (v : α), (m.insert i w)[j]? = some v ↔
      ∃ r, objects[j]? = some ⟨r, .live⟩ ∧ p'.read r = some v) ∧
    ∀ (j : Nat) (r : Slot), objects[j]? = some ⟨r, .live⟩ → ∃ v, p'.read r = some v := by
  constructor
  · intro j v
    rw [Registers.getElem?_insert, found]
    by_cases same : j = i
    · simp [same, reads]
    · simp only [if_neg same, h.entry j v]
      refine exists_congr fun r => and_congr_right fun live => ?_
      rw [h.read_other reads unshared same live]
  · intro j r live
    rw [found] at live
    split at live
    · cases live
      exact ⟨w, (reads s).trans (if_pos rfl)⟩
    · next other =>
      rw [h.read_other reads unshared other live]
      exact h.held j r live

/-- Making an object is what the ledger does under the next number. -/
theorem Reflects.alloc [LawfulBacking β] (h : k.Reflects n outside layout capacity m) (v : α) :
    seen (k.step n (.alloc v)) = (.done, []) ∧
      (k.step n (.alloc v)).state.Reflects (n + 1) outside layout capacity (m.insert n v) := by
  have apart := h.apart.imp_right fun accounted => (orderly_step accounted (.alloc v)).2
  have fits := h.fits.alloc v
  have generous := h.generous
  rw [← h.fits.layout_eq] at generous
  obtain ⟨s, p', made, generous'⟩ := Pool.alloc_of_generous generous v
  rw [h.fits.layout_eq] at generous'
  have reads := Pool.read_alloc (p := k.pool) (v := v) (s := s) (by rw [made]; rfl)
  have stepped : k.step n (.alloc v) = .keeping (.allocated s)
      { k with pool := p', objects := k.objects.insert n ⟨s, .live⟩ } := by
    rw [step, make, made]
    rfl
  -- Where slots are kept apart, the new one was not in use.
  have unshared : ∀ j : Nat, k.objects[j]? = some ⟨s, .live⟩ → j = n ∨ Subsingleton α := by
    intro j found
    refine .inr (h.apart.resolve_right fun accounted => ?_)
    rcases make_cases accounted v with ⟨r, q, is, stores, -⟩ | ⟨e, q, is, -, -⟩ <;>
      rw [make, made] at is <;> cases is
    exact (List.nodup_cons.1 stores.nodup_used).1
      (List.mem_append_left _ (mem_liveSlots.2 ⟨j, found⟩))
  rw [made] at fits reads
  rw [stepped] at apart ⊢
  have objects := fun j : Nat => Registers.getElem?_insert k.objects n j ⟨s, .live⟩
  obtain ⟨entry, held⟩ := h.put reads objects unshared
  refine ⟨rfl, entry, held, fun i o found => ?_, h.idle, apart, fits, generous'⟩
  rw [Outcome.state_keeping, Registers.getElem?_insert] at found
  split at found
  · next same => exact same ▸ Nat.lt_succ_self n
  · exact Nat.lt_succ_of_lt (h.numbered i o found)

theorem Reflects.write [LawfulBacking β] (h : k.Reflects n outside layout capacity m) {o : Ref}
    {i : Nat} {s : Slot} {v : α} (named : k.live? o = some (i, s))
    (found : k.objects[i]? = some ⟨s, .live⟩) (read : k.pool.read s = some v) (w : α) :
    seen (k.step n (.write o w)) = (.done, [v]) ∧
      (k.step n (.write o w)).state.Reflects (n + 1) outside layout capacity (m.insert i w) := by
  have apart := h.apart.imp_right fun accounted => (orderly_step accounted (.write o w)).2
  have stepped : k.step n (.write o w) =
      ⟨.done, { k with pool := (k.pool.write s w).state }, [v]⟩ := by
    rw [step, named]
    simp only [Pool.write, read]
    rfl
  rw [stepped] at apart ⊢
  -- The object keeps its slot, so the registers stay as they are.
  have unshared : ∀ j : Nat, k.objects[j]? = some ⟨s, .live⟩ → j = i ∨ Subsingleton α :=
    fun j found' => h.apart.symm.imp_left fun accounted =>
      eq_of_live accounted.nodup_liveSlots found' found
  have objects : ∀ j : Nat,
      k.objects[j]? = if j = i then some ⟨s, .live⟩ else k.objects[j]? := by
    intro j
    split
    · next same => rw [same, found]
    · rfl
  obtain ⟨entry, held⟩ := h.put (k.pool.read_write s w) objects unshared
  exact ⟨rfl, entry, held, fun j o found' => Nat.lt_succ_of_lt (h.numbered j o found'), h.idle,
    apart, h.fits.write s w, h.generous⟩

/-- Freeing takes the payload out of the ledger. -/
theorem Reflects.free [LawfulBacking β] (h : k.Reflects n outside layout capacity m) {o : Ref}
    {i : Nat} {s : Slot} {v : α} (named : k.live? o = some (i, s))
    (found : k.objects[i]? = some ⟨s, .live⟩) (read : k.pool.read s = some v) :
    seen (k.step n (.free o)) = (.done, [v]) ∧
      (k.step n (.free o)).state.Reflects (n + 1) outside layout capacity (m.erase i) := by
  have apart := h.apart.imp_right fun accounted => (orderly_step accounted (.free o)).2
  have generous := h.generous
  rw [← h.fits.layout_eq] at generous
  have generous' := Pool.generous_free generous s
  rw [h.fits.layout_eq] at generous'
  have stepped : k.step n (.free o) = (k.release i s).withReply .done := by
    simp only [step, named, h.idle, Bool.and_false, Bool.false_eq_true, if_false]
  have destroyed : (k.release i s).destroyed = [v] := by
    simp only [release, Pool.free, read]
    rfl
  rw [stepped] at apart ⊢
  have objects : ∀ j : Nat, (k.release i s).state.objects[j]? =
      if j = i then some ⟨s, .freed⟩ else k.objects[j]? := fun j => Registers.getElem?_insert ..
  have reads : ∀ r, (k.release i s).state.pool.read r = k.pool.read r := k.pool.read_free s
  refine ⟨by rw [seen, Outcome.destroyed_withReply, destroyed]; rfl, fun j w => ?_,
    fun j r found' => ?_, fun j o found' => ?_, h.idle, apart, h.fits.free s, generous'⟩
  · rw [Registers.getElem?_erase, Outcome.state_withReply, objects]
    simp only [reads]
    split
    · simp
    · exact h.entry j w
  · rw [Outcome.state_withReply, objects] at found'
    split at found'
    · cases found'
    · rw [Outcome.state_withReply, reads]
      exact h.held j r found'
  · rw [Outcome.state_withReply, objects] at found'
    split at found'
    · next same => exact same ▸ Nat.lt_succ_of_lt (h.numbered i _ found)
    · exact Nat.lt_succ_of_lt (h.numbered j o found')

theorem Reflects.mono (h : k.Reflects n outside layout capacity m) :
    k.Reflects (n + 1) outside layout capacity m :=
  { h with
    numbered := fun i o found => Nat.lt_succ_of_lt (h.numbered i o found)
    apart := h.apart.imp_right fun accounted => accounted.mono (Nat.le_succ n) }

/-- A command takes in the payloads that the ledger says. -/
theorem Reflects.taken_eq (h : k.Reflects n outside layout capacity m) {command : Command α}
    (plain : command.isPlain = true) : k.taken command = Ledger.taken m command := by
  cases command with
  | write o w =>
    rw [taken, Ledger.taken]
    rcases h.find o with ⟨missing, unknown⟩ | ⟨i, s, v, named, -, -, entered⟩
    · rw [missing, unknown]
      rfl
    · rw [named, entered]
      rfl
  | alloc | free | read => rfl
  | openCollector | closeCollector | track | add | remove | removeSlot | isPending | info =>
    cases plain

/-- The payloads of the live objects are those in the ledger. -/
theorem Reflects.payloads_perm (h : k.Reflects n outside layout capacity m) :
    (Ledger.payloads m).Perm k.livePayloads := by
  have same : ∀ i : Nat, m[i]? = (k.objects.filterMap fun _ o =>
      if o.standing = .live then k.pool.read o.slot else none)[i]? := by
    intro i
    refine Option.ext fun v => ?_
    rw [h.entry, Std.TreeMap.getElem?_filterMap', Option.bind_eq_some_iff]
    constructor
    · rintro ⟨s, found, read⟩
      exact ⟨_, found, by rw [if_pos rfl, read]⟩
    · rintro ⟨⟨s, standing⟩, found, read⟩
      by_cases live : standing = .live
      · rw [if_pos live] at read
        exact ⟨s, live ▸ found, read⟩
      · rw [if_neg live] at read
        cases read
  have perm := (Registers.toList_perm_of_getElem? same).map Prod.snd
  rw [Std.TreeMap.toList_filterMap, List.map_filterMap] at perm
  simpa [Ledger.payloads, livePayloads, Function.comp_def] using perm

/-- A pool does what the ledger says. -/
theorem reflects_step [LawfulBacking β] (h : k.Reflects n outside layout capacity m)
    {command : Command α} (plain : command.isPlain = true) :
    seen (k.step n command) = seen (Ledger.step m n command) ∧
      (k.step n command).state.Reflects (n + 1) outside layout capacity
        (Ledger.step m n command).state := by
  cases command with
  | alloc v => exact h.alloc v
  | free o =>
    rw [Ledger.step]
    rcases h.find o with ⟨missing, unknown⟩ | ⟨i, s, v, named, found, read, entered⟩
    · rw [step, missing, unknown]
      exact ⟨rfl, h.mono⟩
    · rw [entered]
      exact h.free named found read
  | read o =>
    rw [Ledger.step]
    rcases h.find o with ⟨missing, unknown⟩ | ⟨i, s, v, named, found, read, entered⟩
    · rw [step, missing, unknown]
      exact ⟨rfl, h.mono⟩
    · have stepped : k.step n (.read o) = .keeping (.payload v) k := by
        simp only [step, named, Option.bind_some, read]
      rw [stepped, entered]
      exact ⟨rfl, h.mono⟩
  | write o w =>
    rw [Ledger.step]
    rcases h.find o with ⟨missing, unknown⟩ | ⟨i, s, v, named, found, read, entered⟩
    · rw [step, missing, unknown]
      exact ⟨rfl, h.mono⟩
    · rw [entered]
      exact h.write named found read w
  | openCollector | closeCollector | track | add | remove | removeSlot | isPending | info =>
    cases plain

/-- Over a run, a pool does what the ledger says. -/
theorem reflects_run [LawfulBacking β] (h : k.Reflects n outside layout capacity m)
    {commands : List (Command α)} (plain : ∀ command ∈ commands, command.isPlain = true) :
    (k.runFrom n commands).map seen = (Ledger.runFrom m n commands).map seen ∧
      k.handed n commands = Ledger.handed m n commands ∧
      (k.after n commands).Reflects (n + commands.length) outside layout capacity
        (Ledger.after m n commands) := by
  induction commands generalizing k n m with
  | nil => exact ⟨rfl, rfl, h⟩
  | cons command commands ih =>
    have taken := h.taken_eq (plain command List.mem_cons_self)
    obtain ⟨first, reflects⟩ := reflects_step h (plain command List.mem_cons_self)
    obtain ⟨rest, handed, reached⟩ := ih reflects fun c mem => plain c (List.mem_cons_of_mem _ mem)
    rw [runFrom, Ledger.runFrom, List.map_cons, List.map_cons, first, rest, Custody.handed,
      Ledger.handed, taken, handed, after_cons, Ledger.after, List.length_cons,
      Nat.add_comm commands.length, ← Nat.add_assoc]
    exact ⟨rfl, rfl, reached⟩

/-- A new pool reflects the empty ledger. -/
theorem reflects_ofPool {pool : Pool α β} (apart : Subsingleton α ∨ pool.Stores outside)
    (fits : pool.Fits layout capacity) (generous : Backing.Generous layout pool.backing) :
    (ofPool pool).Reflects 0 outside layout capacity ∅ where
  entry := fun i v => by simp [ofPool]
  held := fun i s found => by simp [ofPool] at found
  numbered := fun i o found => by simp [ofPool] at found
  idle := by
    intro s
    rw [Bool.eq_false_iff, Ne, isPendingAnywhere_iff]
    rintro ⟨c, collector, found, pending⟩
    rw [ofPool, Registers.getElem?_insert] at found
    split at found
    · cases found
      unfold Collector.ofLayout at pending
      split at pending <;> cases pending
    · simp at found
  apart := apart.imp_right accounted_ofPool
  fits := fits
  generous := generous

/-- What an owner sees of a pool, and of one that keeps no slots. -/
structure Transparent (pool : Pool α β) [Backing β'] (bare : Pool α β')
    (commands : List (Command α)) : Prop where
  /-- Every command gives the same reply and destroys the same payloads with both. -/
  same : ((ofPool pool).runFrom 0 commands).map seen = ((ofPool bare).runFrom 0 commands).map seen
  /-- These are what the ledger says. -/
  ledger : ((ofPool pool).runFrom 0 commands).map seen = (Ledger.runFrom ∅ 0 commands).map seen
  /-- Each payload that is handed in is destroyed by a command once, or is that of a live object:
  none is left for the slots, in use again or given back. -/
  payloads : ((ofPool pool).handed 0 commands).Perm
    (((ofPool pool).runFrom 0 commands).flatMap (·.destroyed) ++
      ((ofPool pool).after 0 commands).livePayloads)
  /-- Taken out of use then, neither of them destroys any more. -/
  spared : ((ofPool pool).after 0 commands).pool.close.destroyed = [] ∧
    ((ofPool bare).after 0 commands).pool.close.destroyed = []
  bare : ((ofPool bare).after 0 commands).pool.pooled = []

/-- Over supplies that never refuse, a pool cannot be told from one that asks for a slot whenever an
object is made and gives it back whenever one is freed. Objects without bytes have one value at
most. -/
theorem transparent_of_run [LawfulBacking β] [Backing β'] [LawfulBacking β'] {b : β} {b' : β'}
    (single : layout.isZeroSized = true → Subsingleton α)
    (nodup : (Backing.allocated b).Nodup) (nodup' : (Backing.allocated b').Nodup)
    (generous : Backing.Generous layout b) (generous' : Backing.Generous layout b')
    (capacity : Nat) {commands : List (Command α)}
    (plain : ∀ command ∈ commands, command.isPlain = true) :
    ∃ (pool : Pool α β) (bare : Pool α β'), Pool.create α layout capacity b = .ok pool ∧
      Pool.create α layout 0 b' = .ok bare ∧ Transparent pool bare commands := by
  obtain ⟨pool, created, willing⟩ := Pool.create_of_generous α generous capacity
  obtain ⟨bare, created', willing'⟩ := Pool.create_of_generous α generous' 0
  have apart : Subsingleton α ∨ pool.Stores (Backing.allocated b) := by
    cases sized : layout.isZeroSized with
    | true => exact .inl (single sized)
    | false => exact .inr (Pool.stores_create sized nodup created)
  have apart' : Subsingleton α ∨ bare.Stores (Backing.allocated b') := by
    cases sized : layout.isZeroSized with
    | true => exact .inl (single sized)
    | false => exact .inr (Pool.stores_create sized nodup' created')
  obtain ⟨ledger, handed, reached⟩ :=
    reflects_run (reflects_ofPool apart (Pool.fits_create created) willing) plain
  obtain ⟨ledger', -, reached'⟩ :=
    reflects_run (reflects_ofPool apart' (Pool.fits_create created') willing') plain
  refine ⟨pool, bare, created, created', ledger.trans ledger'.symm, ledger, ?_,
    ⟨Pool.destroyed_close _, Pool.destroyed_close _⟩,
    List.length_eq_zero_iff.1 (Nat.le_zero.1 reached'.fits.le)⟩
  have payloads := Ledger.payloads_run (m := ∅) (n := 0) (fun i _ => by simp) commands
  have destroyed := congrArg (List.flatMap (·.2)) ledger
  rw [List.flatMap_map, List.flatMap_map] at destroyed
  have nothing : Ledger.payloads (∅ : Ledger α) = [] := rfl
  rw [nothing, List.append_nil, ← handed] at payloads
  refine payloads.trans ((reached.payloads_perm.append_left _).trans ?_)
  exact List.Perm.of_eq (congrArg (· ++ _) destroyed.symm)

/-- Slot 1 is used for object 0, for object 3 and for object 5, and the pool is full when object 1
is freed. Objects without bytes are all in one slot. -/
theorem transparent_of_recycled_slots :
    let commands : List (Command Nat) := [.alloc 10, .alloc 11, .free (some 0), .alloc 12,
      .read (some 3), .write (some 3) 13, .free (some 3), .alloc 14, .free (some 1),
      .read (some 7), .free (some 7)]
    let units : List (Command Unit) := [.alloc (), .alloc (), .free (some 0), .read (some 1)]
    Backing.Generous (.word 8) Rationed.endless ∧
    (∀ command ∈ commands, command.isPlain = true) ∧
    (∀ command ∈ units, command.isPlain = true) ∧
    (∃ pool bare : Pool Nat Rationed, Pool.create Nat (.word 8) 1 .endless = .ok pool ∧
      Pool.create Nat (.word 8) 0 .endless = .ok bare ∧ Transparent pool bare commands) ∧
    ∃ pool bare : Pool Unit Rationed, Pool.create Unit .unit 1 .endless = .ok pool ∧
      Pool.create Unit .unit 0 .endless = .ok bare ∧ Transparent pool bare units := by
  intro commands units
  have generous := Rationed.generous_of_unlimited (r := .endless) rfl rfl
  have plain : ∀ command ∈ commands, command.isPlain = true := by decide
  have plain' : ∀ command ∈ units, command.isPlain = true := by decide
  have sized : (Layout.word 8).isZeroSized = true → Subsingleton Nat := fun is => by cases is
  exact ⟨generous _, plain, plain',
    transparent_of_run sized List.nodup_nil List.nodup_nil (generous _) (generous _) 1 plain,
    transparent_of_run (fun _ => inferInstance) List.nodup_nil List.nodup_nil (generous _)
      (generous _) 1 plain'⟩

end Custody

end Substrate
