/-! What the last passes saw of a machine. -/
namespace MachineKeeper

inductive Phase
  | awaitingDependencies
  | awaitingBootstrap
  | creating
  | verifying
  | ready
  | drifted
  | deleting
  | deleted
  | paused
deriving DecidableEq, Repr, Inhabited

namespace Phase

def all : List Phase :=
  [awaitingDependencies, awaitingBootstrap, creating, verifying, ready, drifted, deleting, deleted,
    paused]

def text : Phase → String
  | awaitingDependencies => "awaiting-dependencies"
  | awaitingBootstrap => "awaiting-bootstrap"
  | creating => "creating"
  | verifying => "verifying"
  | ready => "ready"
  | drifted => "drifted"
  | deleting => "deleting"
  | deleted => "deleted"
  | paused => "paused"

def ofText? (text : String) : Option Phase := all.find? fun phase => phase.text == text

theorem ofText?_text (phase : Phase) : ofText? phase.text = some phase := by
  cases phase <;> decide

end Phase

/-- An address under which a machine is reached from outside the host. Machines are bridged onto
the host's network, so there is no other kind. -/
structure Address where
  address : String
deriving DecidableEq, Repr

structure Status where
  phase : Phase
  ready : Bool
  provisioned : Bool
  addresses : List Address
  providerId : Option String
  failureMessage : Option String
deriving DecidableEq, Repr

namespace Status

def initial : Status where
  phase := .awaitingDependencies
  ready := false
  provisioned := false
  addresses := []
  providerId := none
  failureMessage := none

instance : Inhabited Status := ⟨initial⟩

/-- Drops everything that was read off a live domain. -/
def clearObservations (s : Status) : Status :=
  { s with ready := false, provisioned := false, addresses := [], providerId := none }

end Status

end MachineKeeper
