import Mathlib.Algebra.Order.Group.Multiset
import Substrate.Proofs.Shape.Named

/-!
# Substrate.Proofs.Shape.Bag

What is in the nodes of a shape, without their order. A filled context has what is in the filling
and what is around it (`bag_plug`), on whichever side the filling hangs, so that taking pieces apart
and putting them together is addition.
-/

namespace Substrate

variable {κ α β : Type}

namespace Shape

/-- What is in the nodes, however often it is there. -/
def bag (s : Shape β) : Multiset β := s.preorder

@[simp] theorem bag_nil : (nil : Shape β).bag = 0 := rfl

@[simp] theorem bag_node (x : β) (l r : Shape β) : (node x l r).bag = x ::ₘ (l.bag + r.bag) := rfl

@[simp] theorem bag_hang (x : β) (side : Side) (s other : Shape β) :
    (hang x side s other).bag = x ::ₘ (s.bag + other.bag) := by
  cases side with
  | left => rfl
  | right => rw [hang, bag_node, add_comm]

/-- The payloads in the bag are those of the nodes in it. -/
theorem bag_payloads (s : Shape (κ × α)) : s.payloads.bag = s.bag.map Prod.snd := by
  induction s with
  | nil => rfl
  | node x l r ihl ihr => rw [payloads, bag_node, bag_node, ihl, ihr, Multiset.map_cons,
      Multiset.map_add]

theorem mem_keys_of_mem_bag {s : Shape (κ × α)} {x : κ × α} (mem : x ∈ s.bag) : x.1 ∈ s.keys :=
  List.mem_map_of_mem mem

end Shape

namespace Context

def bag : Context β → Multiset β
  | [] => 0
  | f :: C => f.label ::ₘ (f.sibling.bag + bag C)

/-- Plugging a context adds the piece to what is around it. -/
theorem bag_plug (C : Context β) (s : Shape β) : (plug C s).bag = s.bag + bag C := by
  induction C generalizing s with
  | nil => exact (add_zero _).symm
  | cons f C ih =>
    rw [plug, ih, Shape.bag_hang, bag, Multiset.cons_add, Multiset.add_cons, add_assoc]

end Context

end Substrate
