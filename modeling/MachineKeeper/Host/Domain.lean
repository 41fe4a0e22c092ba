import MachineKeeper.Host.Descriptor

/-! Domains as a host knows them. -/
namespace MachineKeeper

inductive PowerState
  | noState
  | running
  | blocked
  | paused
  | shutdown
  | shutoff
  | crashed
  | suspended
deriving DecidableEq, Repr, Inhabited

namespace PowerState

def text : PowerState → String
  | noState => "no-state"
  | running => "running"
  | blocked => "blocked"
  | paused => "paused"
  | shutdown => "shutdown"
  | shutoff => "shutoff"
  | crashed => "crashed"
  | suspended => "pm-suspended"

/-- Anything but a domain that is powered off still holds resources of the host. -/
def isActive (s : PowerState) : Bool := s ≠ shutoff && s ≠ noState

end PowerState

structure Interface where
  name : String
  hardwareAddress : Option String
  addresses : List String
deriving DecidableEq, Repr

structure Domain where
  descriptor : DomainDescriptor
  state : PowerState
  vcpus : UInt32
  maxMemoryKib : UInt64
  interfaces : List Interface
deriving DecidableEq, Repr

structure DomainInfo where
  state : PowerState
  maxMemoryKib : UInt64
  memoryKib : UInt64
  vcpus : UInt32
deriving DecidableEq, Repr

def Domain.info (d : Domain) : DomainInfo := ⟨d.state, d.maxMemoryKib, d.maxMemoryKib, d.vcpus⟩

end MachineKeeper
