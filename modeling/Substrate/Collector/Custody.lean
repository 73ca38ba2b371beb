import Substrate.Pool.Basic
import Substrate.Collector.Basic

/-!
# Substrate.Collector.Custody

Objects of one pool, their owners, and any number of collectors over them. `Custody.step` runs one
command; it *skips* what no careful owner does, so that every sequence of commands is a use of pool
and collectors within their contract:

* an object is read, written and freed only while it lives;
* it is not freed while some collector has it pending;
* it is not added to a collector while another one has it pending;
* no collector is asked about an object that a sweep destroyed.

A claim may also be withdrawn from a slot (`Command.removeSlot`), and then from any slot: nothing is
read there, whatever has become of the objects it held.

Objects without bytes have no slot of their own, so for them only the first rule applies, and a
sweep, which only counts them, marks none as destroyed.

An object is named by the number of the command that made it. A command may also name none, and is
then skipped.
-/

namespace Substrate

/-- What became of an object. -/
inductive Standing where
  | live
  | freed
  | swept
  deriving Repr, DecidableEq

/-- An object: its slot, and what became of it. -/
structure Object where
  slot : Slot
  standing : Standing
  deriving Repr, DecidableEq

/-- A pool, the objects made from it by number, and the collectors in use by number. -/
structure Custody (α β : Type) where
  pool : Pool α β
  objects : Std.TreeMap Nat Object
  collectors : Std.TreeMap Nat Collector

namespace Custody

/-- How commands name an object: by a number, or not at all. -/
abbrev Ref := Option Nat

/-- One use of the pool or of a collector. -/
inductive Command (α : Type) where
  /-- Makes an object from the pool. -/
  | alloc (v : α)
  /-- The owner destroys object `o`. -/
  | free (o : Ref)
  | read (o : Ref)
  | write (o : Ref) (v : α)
  /-- Takes a new collector into use under number `c`; the one there before goes out of use. -/
  | openCollector (c : Nat)
  /-- Collector `c` goes out of use. -/
  | closeCollector (c : Nat)
  /-- Makes an object and adds it to collector `c`. -/
  | track (c : Nat) (v : α)
  | add (c : Nat) (o : Ref)
  | remove (c : Nat) (o : Ref)
  /-- Withdraws the claim of collector `c` on a slot, whatever the slot holds. -/
  | removeSlot (c : Nat) (s : Slot)
  | isPending (c : Nat) (o : Ref)
  /-- Asks for the pool's numbers. -/
  | info
  deriving Repr, DecidableEq

/-- What a command answers. -/
inductive Reply (α : Type) where
  | done
  | skipped
  | allocated (slot : Slot)
  | noStorage (error : AllocationError)
  | refused (error : CollectorError)
  | payload (v : α)
  | flag (b : Bool)
  | info (pooled capacity : Nat)
  deriving Repr, DecidableEq

variable {α β : Type} [Backing β]

/-- The outcome of one command. -/
abbrev Result (α β : Type) := Outcome (Custody α β) (Reply α) α

/-- No objects, and collector 0 in use. -/
def ofPool (pool : Pool α β) : Custody α β :=
  ⟨pool, ∅, (∅ : Std.TreeMap Nat Collector).insert 0 (.ofLayout pool.layout)⟩

/-- Do the objects of this pool take no storage? -/
def isZeroSized (k : Custody α β) : Bool := k.pool.layout.isZeroSized

/-- The object that is named, with its number. -/
def object? (k : Custody α β) (o : Ref) : Option (Nat × Object) := do
  let n ← o
  return (n, ← k.objects[n]?)

/-- The slot of object `o` while it lives, with the object's number. -/
def live? (k : Custody α β) (o : Ref) : Option (Nat × Slot) :=
  match k.object? o with
  | some (n, ⟨s, .live⟩) => some (n, s)
  | _ => none

/-- The slot of object `o` unless a sweep destroyed it. -/
def knownSlot? (k : Custody α β) (o : Ref) : Option Slot :=
  match k.object? o with
  | some (_, ⟨_, .swept⟩) => none
  | some (_, ⟨s, _⟩) => some s
  | none => none

/-- Has some collector the slot pending? -/
def isPendingAnywhere (k : Custody α β) (s : Slot) : Bool :=
  k.collectors.toList.any fun (_, c) => c.isPending s

/-- Has a collector other than number `c` the slot pending? -/
def isPendingElsewhere (k : Custody α β) (c : Nat) (s : Slot) : Bool :=
  k.collectors.toList.any fun (c', collector) => c' != c && collector.isPending s

/-- The payloads of the objects that live, by ascending number. -/
def livePayloads (k : Custody α β) : List α :=
  k.objects.toList.filterMap fun (_, object) =>
    if object.standing = .live then k.pool.read object.slot else none

/-! ## Single uses -/

/-- A command that is not run. -/
def skip (k : Custody α β) : Result α β := .keeping .skipped k

/-- Makes object `n` of payload `v`. -/
def make (k : Custody α β) (n : Nat) (v : α) :
    Outcome (Custody α β) (Except AllocationError Slot) α :=
  let o := k.pool.alloc v
  match o.reply with
  | .error e => ⟨.error e, { k with pool := o.state }, o.destroyed⟩
  | .ok s =>
    ⟨.ok s, { k with pool := o.state, objects := k.objects.insert n ⟨s, .live⟩ }, o.destroyed⟩

/-- Destroys object `o` in slot `s` for its owner. -/
def release (k : Custody α β) (o : Nat) (s : Slot) : Outcome (Custody α β) Unit α :=
  let freed := k.pool.free s
  ⟨(), { k with pool := freed.state, objects := k.objects.insert o ⟨s, .freed⟩ }, freed.destroyed⟩

/-- Takes collector `c` out of use: its pending objects are freed and count as swept. -/
def close (k : Custody α β) (c : Nat) (collector : Collector) : Outcome (Custody α β) Unit α :=
  let swept := collector.sweep
  let freed := k.pool.freeAll swept
  let mark := fun (object : Object) =>
    if object.standing = .live ∧ object.slot ∈ swept then { object with standing := .swept }
    else object
  let objects := if k.isZeroSized then k.objects else k.objects.map fun _ object => mark object
  ⟨(), ⟨freed.state, objects, k.collectors.erase c⟩, freed.destroyed⟩

/-- Puts collector `c` into its new state, or answers its refusal. -/
def settle (k : Custody α β) (c : Nat) : Except CollectorError Collector → Result α β
  | .ok collector => .keeping .done { k with collectors := k.collectors.insert c collector }
  | .error e => .keeping (.refused e) k

/-! ## Commands -/

/-- Runs command number `n`. -/
def step (k : Custody α β) (n : Nat) : Command α → Result α β
  | .alloc v =>
    let o := k.make n v
    match o.reply with
    | .error e => o.withReply (.noStorage e)
    | .ok s => o.withReply (.allocated s)
  | .free o =>
    match k.live? o with
    | none => k.skip
    | some (n, s) =>
      if !k.isZeroSized && k.isPendingAnywhere s then k.skip
      else (k.release n s).withReply .done
  | .read o =>
    match (k.live? o).bind fun (_, s) => k.pool.read s with
    | none => k.skip
    | some v => .keeping (.payload v) k
  | .write o v =>
    match k.live? o with
    | none => k.skip
    | some (_, s) =>
      let written := k.pool.write s v
      ⟨.done, { k with pool := written.state }, written.destroyed⟩
  | .openCollector c =>
    let closed : Outcome (Custody α β) Unit α := match k.collectors[c]? with
      | none => .keeping () k
      | some collector => k.close c collector
    let fresh := Collector.ofLayout k.pool.layout
    ⟨.done, { closed.state with collectors := closed.state.collectors.insert c fresh },
      closed.destroyed⟩
  | .closeCollector c =>
    match k.collectors[c]? with
    | none => k.skip
    | some collector => (k.close c collector).withReply .done
  | .track c v =>
    match k.collectors[c]? with
    | none => k.skip
    | some collector =>
      let made := k.make n v
      match made.reply with
      | .error e => made.withReply (.noStorage e)
      | .ok s =>
        match collector.add s with
        | .ok collector =>
          made.state.settle c (.ok collector)
        | .error e =>
          let undone := made.state.release n s
          ⟨.refused e, undone.state, made.destroyed ++ undone.destroyed⟩
  | .add c o =>
    match k.collectors[c]?, k.live? o with
    | some collector, some (_, s) =>
      if !k.isZeroSized && k.isPendingElsewhere c s then k.skip
      else k.settle c (collector.add s)
    | _, _ => k.skip
  | .remove c o =>
    match k.collectors[c]?, k.knownSlot? o with
    | some collector, some s => k.settle c (collector.remove s)
    | _, _ => k.skip
  | .removeSlot c s =>
    match k.collectors[c]? with
    | none => k.skip
    | some collector => k.settle c (collector.remove s)
  | .isPending c o =>
    match k.collectors[c]?, k.knownSlot? o with
    | some collector, some s => .keeping (.flag (collector.isPending s)) k
    | _, _ => k.skip
  | .info => .keeping (.info k.pool.pooled.length k.pool.capacity) k

/-- Runs commands, numbered from `n`: the outcome of each, in order. -/
def runFrom (k : Custody α β) (n : Nat) : List (Command α) → List (Result α β)
  | [] => []
  | c :: cs =>
    let o := k.step n c
    o :: o.state.runFrom (n + 1) cs

/-- The state after some outcomes, starting from `k`. -/
def last (k : Custody α β) (results : List (Result α β)) : Custody α β :=
  match results.getLast? with
  | none => k
  | some o => o.state

/-- Takes all collectors out of use, by ascending number. -/
def closeAll (k : Custody α β) : Outcome (Custody α β) Unit α :=
  k.collectors.toList.foldl (fun before (c, collector) =>
    let closed := before.state.close c collector
    ⟨(), closed.state, before.destroyed ++ closed.destroyed⟩) (.keeping () k)

end Custody

end Substrate
