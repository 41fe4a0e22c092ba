import MachineKeeper.Host.Descriptor
import MachineKeeper.Xml.Reader

/-! Reading descriptors back from their XML, as the host that takes them does. -/
namespace MachineKeeper

/-- A number below a bound, of decimal digits. -/
def natural? (bound : Nat) (text : String) : Option Nat :=
  let digits := text.toList
  let number := Nat.ofDigitChars 10 digits 0
  if digits ≠ [] ∧ digits.all Char.isDigit ∧ number < bound then some number else none

def Capacity.ofUnit? (count : UInt64) : String → Option Capacity
  | "bytes" => some (.bytes count)
  | "GiB" => some (.gib count)
  | _ => none

def DomainDescriptor.ofXml? (xml : String) : Option DomainDescriptor := do
  let pieces ← Xml.read? xml
  match Xml.texts "name" pieces, Xml.texts "memory" pieces, Xml.texts "vcpu" pieces,
      Xml.attributes "source" pieces with
  | [name], [memory], [vcpus], [[⟨"file", disk⟩], [⟨"file", seed⟩], [⟨"network", network⟩]] =>
    let memory ← natural? UInt64.size memory
    let vcpus ← natural? UInt32.size vcpus
    return ⟨name, memory.toUInt64, vcpus.toUInt32, disk, seed, network⟩
  | _, _, _, _ => none

def VolumeDescriptor.ofXml? (xml : String) : Option VolumeDescriptor := do
  let pieces ← Xml.read? xml
  let (name, capacity) ← match Xml.texts "name" pieces, Xml.attributes "capacity" pieces,
      Xml.texts "capacity" pieces with
    | [name], [[⟨"unit", unit⟩]], [count] => do
      let count ← natural? UInt64.size count
      let capacity ← Capacity.ofUnit? count.toUInt64 unit
      some (name, capacity)
    | _, _, _ => none
  match Xml.attributes "format" pieces, Xml.texts "path" pieces with
  | [[⟨"type", format⟩]], [] => return ⟨name, capacity, format, none⟩
  | [[⟨"type", format⟩], [⟨"type", backing⟩]], [path] => return ⟨name, capacity, format, some ⟨path, backing⟩⟩
  | _, _ => none

end MachineKeeper
