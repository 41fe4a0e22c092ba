/-! Descriptions of volumes and domains, and the XML that a host takes them in. -/
namespace MachineKeeper

def xmlEntity : Char → List Char
  | '&' => "&amp;".toList
  | '<' => "&lt;".toList
  | '>' => "&gt;".toList
  | '\'' => "&apos;".toList
  | '"' => "&quot;".toList
  | c => [c]

def xmlEscape (text : String) : String := String.ofList (text.toList.flatMap xmlEntity)

inductive Capacity
  | bytes (count : UInt64)
  | gib (count : UInt64)
deriving DecidableEq, Repr

structure BackingStore where
  path : String
  format : String
deriving DecidableEq, Repr

structure VolumeDescriptor where
  name : String
  capacity : Capacity
  format : String
  backing? : Option BackingStore
deriving DecidableEq, Repr

namespace Capacity

def bytesPerGib : Nat := 1024 * 1024 * 1024

/-- The most that fits in 64 bits stands for everything above. -/
def inBytes : Capacity → UInt64
  | bytes count => count
  | gib count => (min (count.toNat * bytesPerGib) (UInt64.size - 1)).toUInt64

def unit : Capacity → String
  | bytes _ => "bytes"
  | gib _ => "GiB"

def count : Capacity → UInt64
  | bytes count => count
  | gib count => count

end Capacity

namespace VolumeDescriptor

/-- A growing disk over an image that the host already has. -/
def overlay (name : String) (gib : UInt64) (backingPath backingFormat : String) :
    VolumeDescriptor :=
  ⟨name, .gib gib, "qcow2", some ⟨backingPath, backingFormat⟩⟩

def raw (name : String) (size : UInt64) : VolumeDescriptor := ⟨name, .bytes size, "raw", none⟩

def backingXml (b : BackingStore) : String :=
  "  <backingStore>\n" ++
  "    <path>" ++ xmlEscape b.path ++ "</path>\n" ++
  "    <format type='" ++ xmlEscape b.format ++ "'/>\n" ++
  "  </backingStore>\n"

def xml (v : VolumeDescriptor) : String :=
  "<volume>\n" ++
  "  <name>" ++ xmlEscape v.name ++ "</name>\n" ++
  "  <capacity unit='" ++ v.capacity.unit ++ "'>" ++ toString v.capacity.count.toNat ++
    "</capacity>\n" ++
  "  <target>\n" ++
  "    <format type='" ++ xmlEscape v.format ++ "'/>\n" ++
  "  </target>\n" ++
  (v.backing?.elim "" backingXml) ++
  "</volume>\n"

end VolumeDescriptor

structure DomainDescriptor where
  name : String
  memoryMib : UInt64
  vcpus : UInt32
  diskPath : String
  seedPath : String
  network : String
deriving DecidableEq, Repr

/-- The disk boots; the cloud-init image is a drive that cannot be written to. -/
def DomainDescriptor.xml (d : DomainDescriptor) : String :=
  "<domain type='kvm'>\n" ++
  "  <name>" ++ xmlEscape d.name ++ "</name>\n" ++
  "  <memory unit='MiB'>" ++ toString d.memoryMib.toNat ++ "</memory>\n" ++
  "  <vcpu>" ++ toString d.vcpus.toNat ++ "</vcpu>\n" ++
  "  <os>\n" ++
  "    <type arch='x86_64'>hvm</type>\n" ++
  "    <boot dev='hd'/>\n" ++
  "  </os>\n" ++
  "  <devices>\n" ++
  "    <disk type='file' device='disk'>\n" ++
  "      <driver name='qemu' type='qcow2'/>\n" ++
  "      <source file='" ++ xmlEscape d.diskPath ++ "'/>\n" ++
  "      <target dev='vda' bus='virtio'/>\n" ++
  "    </disk>\n" ++
  "    <disk type='file' device='cdrom'>\n" ++
  "      <driver name='qemu' type='raw'/>\n" ++
  "      <source file='" ++ xmlEscape d.seedPath ++ "'/>\n" ++
  "      <target dev='hda' bus='ide'/>\n" ++
  "      <readonly/>\n" ++
  "    </disk>\n" ++
  "    <interface type='network'>\n" ++
  "      <source network='" ++ xmlEscape d.network ++ "'/>\n" ++
  "      <model type='virtio'/>\n" ++
  "    </interface>\n" ++
  "    <serial type='pty'>\n" ++
  "      <target type='isa-serial' port='0'>\n" ++
  "        <model name='isa-serial'/>\n" ++
  "      </target>\n" ++
  "    </serial>\n" ++
  "    <console type='pty'>\n" ++
  "      <target type='serial' port='0'/>\n" ++
  "    </console>\n" ++
  "  </devices>\n" ++
  "</domain>\n"

end MachineKeeper
