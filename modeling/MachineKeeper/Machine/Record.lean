import MachineKeeper.Machine.Spec
import MachineKeeper.Machine.Status

/-! The stored desired state of one machine, with the status that passes write to it. -/
namespace MachineKeeper

/-- Links to the objects that a machine hangs off; a machine is acted on once all are set. -/
structure Prerequisites where
  ownerLinked : Bool
  clusterLinked : Bool
  clusterProvisioned : Bool
deriving DecidableEq, Repr

namespace Prerequisites

def none : Prerequisites := ⟨false, false, false⟩

def all : Prerequisites := ⟨true, true, true⟩

def satisfied (p : Prerequisites) : Bool := p.ownerLinked && p.clusterLinked && p.clusterProvisioned

end Prerequisites

structure Record where
  spec : Spec
  status : Status
  version : UInt64
  deletionRequested : Bool
  paused : Bool
  /-- Holds the record in the store until the machine is gone from the host. -/
  finalizer : Bool
  prerequisites : Prerequisites
  bootstrapSecret : Option String
deriving DecidableEq, Repr

namespace Record

def ofSpec (spec : Spec) : Record where
  spec := spec
  status := .initial
  version := 0
  deletionRequested := false
  paused := false
  finalizer := true
  prerequisites := .none
  bootstrapSecret := .none

abbrev name (r : Record) : String := r.spec.name

end Record

end MachineKeeper
