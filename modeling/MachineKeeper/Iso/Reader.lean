import MachineKeeper.Iso.Image

/-! Reading an image back, as whoever mounts it does: the volume descriptor tells where the root
directory is, and its records tell where the files are. -/
namespace MachineKeeper.Iso

def slice? (offset length : Nat) (bytes : Bytes) : Option Bytes :=
  if offset + length ≤ bytes.length then some ((bytes.drop offset).take length) else none

def ofLittle : Bytes → Nat
  | [] => 0
  | byte :: rest => byte.toNat + 256 * ofLittle rest

/-- The 32-bit number at `offset`, of whose two forms the first is read. -/
def number32? (offset : Nat) (bytes : Bytes) : Option Nat := ofLittle <$> slice? offset 4 bytes

structure Entry where
  identifier : Bytes
  sector : Nat
  size : Nat
  isDirectory : Bool
deriving DecidableEq, Repr

def Entry.ofRecord? (record : Bytes) : Option Entry := do
  let sector ← number32? 2 record
  let size ← number32? 10 record
  let flags ← record[25]?
  let length ← record[32]?
  let identifier ← slice? 33 length.toNat record
  return ⟨identifier, sector, size, flags &&& directoryFlag ≠ 0⟩

/-- The entries of a directory, whose records begin with their length. It ends with its bytes or at a
record of no length, which is none. -/
def entries? : Bytes → Option (List Entry)
  | [] => some []
  | length :: rest =>
    if _ : length = 0 then some []
    else do
      let entry ← slice? 0 length.toNat (length :: rest) >>= Entry.ofRecord?
      let later ← entries? ((length :: rest).drop length.toNat)
      return entry :: later
termination_by directory => directory.length
decreasing_by
  have : length.toNat ≠ 0 := fun zero => absurd (UInt8.toNat_inj.mp zero) ‹_›
  simp only [List.length_drop, List.length_cons]
  omega

/-- The identifier without the version behind it. -/
def withoutVersion (identifier : Bytes) : Bytes :=
  if (utf8 ";1").isSuffixOf identifier then identifier.take (identifier.length - 2) else identifier

def Entry.read? (image : Bytes) (entry : Entry) : Option File := do
  let name ← ofUtf8? (withoutVersion entry.identifier)
  let data ← slice? (entry.sector * sectorSize) entry.size image
  return ⟨name, data⟩

def descriptor? (image : Bytes) : Option Bytes := slice? (systemSectors * sectorSize) sectorSize image

def volumeName? (image : Bytes) : Option Bytes := descriptor? image >>= slice? 40 32

def files? (image : Bytes) : Option (List File) := do
  let descriptor ← descriptor? image
  let root ← Entry.ofRecord? (descriptor.drop 156)
  let directory ← slice? (root.sector * sectorSize) root.size image
  let entries ← entries? directory
  (entries.filter fun entry => !entry.isDirectory).mapM (Entry.read? image)

end MachineKeeper.Iso
