import MachineKeeper.Iso.Layout

/-! Writing an ISO 9660 image: one root directory with plain files. Files stand in the order of
their names, so the image does not depend on the order in which they are given. -/
namespace MachineKeeper.Iso

inductive Error
  | invalidLabel (label : String)
  | invalidFileName (name : String)
  | duplicateFile (name : String)
  | fileTooLarge (name : String)
  | directoryFull
deriving DecidableEq, Repr

def Error.message : Error → String
  | invalidLabel label => "volume label '" ++ label ++ "' must be at most 32 ASCII characters"
  | invalidFileName name => "invalid file name '" ++ name ++ "'"
  | duplicateFile name => "duplicate file name '" ++ name ++ "'"
  | fileTooLarge name => "file '" ++ name ++ "' is too large"
  | directoryFull => "too many files for a single directory sector"

structure File where
  name : String
  data : Bytes
deriving DecidableEq, Repr

structure Extent where
  file : File
  start : Nat
deriving DecidableEq, Repr

def isAscii (text : String) : Bool := text.toList.all fun c => c.toNat < 128

/-- A label has 32 bytes of its own in the volume descriptor. -/
def validLabel (label : String) : Bool := label.utf8ByteSize ≤ 32 && isAscii label

/-- A name gets a version suffix of two bytes, and an identifier has at most 222. -/
def validFileName (name : String) : Bool :=
  name ≠ "" && name.utf8ByteSize + 2 ≤ 222 && isAscii name &&
    name.toList.all fun c => c ≠ '/' && c ≠ ';' && c ≠ '\x00'

def firstRepeated? : List File → Option String
  | a :: b :: rest => if a.name = b.name then some a.name else firstRepeated? (b :: rest)
  | _ => none

/-- Gives files their places one after another from sector `next` on, and the sector behind them.
A length must fit in 32 bits and so must every sector number. -/
def allocate (next : Nat) : List File → Except Error (List Extent × Nat)
  | [] => .ok ([], next)
  | file :: rest => do
    if !validFileName file.name then throw (.invalidFileName file.name)
    let size := file.data.length
    if size ≥ UInt32.size then throw (.fileTooLarge file.name)
    let following := next + sectorsFor size
    if following ≥ UInt32.size then throw (.fileTooLarge file.name)
    let (extents, total) ← allocate following rest
    return (⟨file, next⟩ :: extents, total)

def Extent.record (e : Extent) : Bytes :=
  directoryRecord (utf8 (e.file.name ++ ";1")) e.start.toUInt32 e.file.data.length.toUInt32 0

def rootDirectory (extents : List Extent) : Bytes :=
  rootRecord 0 ++ rootRecord 1 ++ extents.flatMap Extent.record

def build (label : String) (files : List File) : Except Error Bytes := do
  if !validLabel label then throw (.invalidLabel label)
  let files := files.mergeSort fun a b => a.name ≤ b.name
  if let some name := firstRepeated? files then throw (.duplicateFile name)
  let (extents, total) ← allocate firstFileSector files
  let root := rootDirectory extents
  if root.length > sectorSize then throw .directoryFull
  return Bytes.zeros (systemSectors * sectorSize) ++
    toSectors (primaryDescriptor label total.toUInt32) ++ toSectors terminator ++
    toSectors lowPathTable ++ toSectors highPathTable ++ toSectors root ++
    extents.flatMap fun e => toSectors e.file.data

end MachineKeeper.Iso
