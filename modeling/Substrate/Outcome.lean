/-!
# Substrate.Outcome

What an operation on owned storage leaves behind. Storage in this library owns the payloads put
into it, and a payload has exactly one end: it is moved out to the caller, or it is destroyed.
An `Outcome` names the payloads destroyed by one operation, in the order of their destruction, so
that laws about ownership are equations between lists, or balances: what was there and what comes
in is, in some order, what is destroyed and what is there afterwards.
-/

namespace Substrate

/-- The reply of an operation, the storage after it, and the payloads it destroyed, oldest
destruction first. An operation that fails puts the payload it was given into `destroyed`. -/
structure Outcome (State Reply Payload : Type) where
  reply : Reply
  state : State
  destroyed : List Payload
  deriving Repr, DecidableEq

namespace Outcome

variable {σ ε ρ ρ' α : Type}

/-- An operation that destroys nothing. -/
def keeping (reply : ρ) (state : σ) : Outcome σ ρ α := ⟨reply, state, []⟩

/-- The same effect under another reply. -/
def withReply (o : Outcome σ ρ α) (reply : ρ') : Outcome σ ρ' α := ⟨reply, o.state, o.destroyed⟩

/-- Goes on with the reply of an operation, if it did not fail. -/
def andThen (o : Outcome σ (Except ε ρ) α) (next : ρ → σ → Outcome σ (Except ε ρ') α) :
    Outcome σ (Except ε ρ') α :=
  match o.reply with
  | .error e => o.withReply (.error e)
  | .ok r =>
    let o' := next r o.state
    ⟨o'.reply, o'.state, o.destroyed ++ o'.destroyed⟩

@[simp] theorem reply_keeping (r : ρ) (s : σ) : (keeping r s : Outcome σ ρ α).reply = r := rfl

@[simp] theorem state_keeping (r : ρ) (s : σ) : (keeping r s : Outcome σ ρ α).state = s := rfl

@[simp] theorem destroyed_keeping (r : ρ) (s : σ) :
    (keeping r s : Outcome σ ρ α).destroyed = [] := rfl

@[simp] theorem reply_withReply (o : Outcome σ ρ α) (r : ρ') : (o.withReply r).reply = r := rfl

@[simp] theorem state_withReply (o : Outcome σ ρ α) (r : ρ') :
    (o.withReply r).state = o.state := rfl

@[simp] theorem destroyed_withReply (o : Outcome σ ρ α) (r : ρ') :
    (o.withReply r).destroyed = o.destroyed := rfl

@[simp] theorem keeping_andThen (r : ρ) (s : σ) (next : ρ → σ → Outcome σ (Except ε ρ') α) :
    (keeping (.ok r) s).andThen next = next r s := rfl

end Outcome

/-! ## Balances -/

/-- Two balances in a row, of what comes in and goes out in between, make one. -/
theorem balance_trans {α : Type} {taken taken' before between destroyed destroyed' after : List α}
    (first : (taken ++ before).Perm (destroyed ++ between))
    (rest : (taken' ++ between).Perm (destroyed' ++ after)) :
    (taken ++ taken' ++ before).Perm (destroyed ++ destroyed' ++ after) := by
  rw [List.append_assoc, List.append_assoc]
  refine (List.perm_append_comm.append_left _).trans ?_
  rw [← List.append_assoc]
  refine (first.append_right _).trans ?_
  rw [List.append_assoc]
  exact (List.perm_append_comm.trans rest).append_left _

end Substrate
