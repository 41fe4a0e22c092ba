/-! What a machine should look like, and what everything of it is called. Creating and destroying a machine
agree on what to touch without any stored mapping, because everything on the host is named after it. -/
namespace MachineKeeper

structure Names where
  domain : String
  diskVolume : String
  seedVolume : String
deriving DecidableEq, Repr

def Names.of (machine : String) : Names where
  domain := machine
  diskVolume := machine ++ ".qcow2"
  seedVolume := machine ++ "-cloudinit.iso"

/-- The identifier under which a machine's domain is known outside the host. -/
def providerId (machine : String) : String := "libvirt:///" ++ machine

/-- How the key of a reconcile pass is written. -/
def passKey (machine : String) : String := "machine." ++ machine

structure Spec where
  name : String
  network : String
  storagePool : String
  cpu : UInt32
  /-- In MiB. -/
  memory : UInt64
  /-- In GiB. -/
  diskSize : UInt64
  backingImagePath : String
  backingImageFormat : String
  /-- Cloud-config text; empty until the bootstrap data is known. -/
  userData : String
deriving DecidableEq, Repr

def Spec.ofName (name : String) : Spec where
  name := name
  network := "default"
  storagePool := "default"
  cpu := 1
  memory := 1024
  diskSize := 10
  backingImagePath := ""
  backingImageFormat := "qcow2"
  userData := ""

def Spec.names (spec : Spec) : Names := .of spec.name

end MachineKeeper
