/-! How an operation ends. -/
namespace MachineKeeper

/-- An operation ends with a value or an error; where arithmetic leaves its words it does not end
but stops, which no caller on the same thread can turn into an answer. -/
inductive Outcome (ε α : Type)
  | done (value : α)
  | failed (error : ε)
  | overflow
deriving DecidableEq, Repr

namespace Outcome

variable {ε δ α β : Type}

def mapError (f : ε → δ) : Outcome ε α → Outcome δ α
  | done a => done a
  | failed e => failed (f e)
  | overflow => overflow

def isDone : Outcome ε α → Bool
  | done _ => true
  | _ => false

protected def bind (x : Outcome ε α) (f : α → Outcome ε β) : Outcome ε β :=
  match x with
  | done a => f a
  | failed e => failed e
  | overflow => overflow

instance : Monad (Outcome ε) where
  pure := done
  bind := Outcome.bind

@[simp] theorem done_bind (a : α) (f : α → Outcome ε β) : (done a : Outcome ε α) >>= f = f a := rfl

def ofExcept : Except ε α → Outcome ε α
  | .ok a => done a
  | .error e => failed e

end Outcome

end MachineKeeper
