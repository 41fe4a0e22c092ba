import MachineKeeper.Bytes
import MachineKeeper.Host.Descriptor

/-! Volumes as a host keeps them. -/
namespace MachineKeeper

inductive Content
  /-- Never written: reads back as this many zeros. -/
  | blank (size : Nat)
  | written (data : Bytes)
deriving DecidableEq, Repr

namespace Content

def size : Content → Nat
  | blank size => size
  | written data => data.length

def bytes : Content → Bytes
  | blank size => .zeros size
  | written data => data

end Content

structure Volume where
  descriptor : VolumeDescriptor
  path : String
  content : Content
deriving DecidableEq, Repr

def volumePath (pool volume : String) : String := "/var/lib/libvirt/" ++ pool ++ "/" ++ volume

/-- A new volume. One of a size in bytes that lies over nothing is full of zeros; others start
out empty. -/
def Volume.create (pool : String) (descriptor : VolumeDescriptor) : Volume where
  descriptor := descriptor
  path := volumePath pool descriptor.name
  content := match descriptor.capacity, descriptor.backing? with
    | .bytes count, none => .blank count.toNat
    | _, _ => .blank 0

end MachineKeeper
