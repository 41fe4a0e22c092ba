import MachineKeeper.World

/-! Operations on the world. The world is returned whatever the outcome, so what an operation
leaves behind when it fails can be spoken of in the same way as when it succeeds. -/
namespace MachineKeeper

def Action (ε α : Type) : Type := World → Outcome ε α × World

namespace Action

variable {ε δ α β : Type}

protected def pure (a : α) : Action ε α := fun w => (.done a, w)

protected def bind (m : Action ε α) (f : α → Action ε β) : Action ε β := fun w =>
  match m w with
  | (.done a, w) => f a w
  | (.failed e, w) => (.failed e, w)
  | (.overflow, w) => (.overflow, w)

instance : Monad (Action ε) where
  pure := Action.pure
  bind := Action.bind

def fail (error : ε) : Action ε α := fun w => (.failed error, w)

def mapError (f : ε → δ) (m : Action ε α) : Action δ α := fun w =>
  match m w with
  | (outcome, w) => (outcome.mapError f, w)

/-- Turns a failure into a value. An overflow still stops the operation. -/
def attempt (m : Action ε α) : Action δ (Except ε α) := fun w =>
  match m w with
  | (.done a, w) => (.done (.ok a), w)
  | (.failed e, w) => (.done (.error e), w)
  | (.overflow, w) => (.overflow, w)

def ofExcept : Except ε α → Action ε α
  | .ok a => .pure a
  | .error e => .fail e

theorem pure_run (a : α) (w : World) : (pure a : Action ε α) w = (.done a, w) := rfl

theorem bind_run (m : Action ε α) (f : α → Action ε β) (w : World) :
    (m >>= f) w = match m w with
      | (.done a, w) => f a w
      | (.failed e, w) => (.failed e, w)
      | (.overflow, w) => (.overflow, w) := rfl

end Action

end MachineKeeper
