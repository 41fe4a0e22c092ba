import MachineKeeper.Iso.Image
import MachineKeeper.Outcome

/-! An image as it comes about in memory: in zeros, each part is written where it belongs. A part that would
reach over the end of what it is written into stops the making, and so does a size that no memory has. -/
namespace MachineKeeper.Iso

open Bytes

structure Part where
  offset : Nat
  data : Bytes

def Part.write? (buffer : Bytes) (part : Part) : Option Bytes :=
  let behind := part.offset + part.data.length
  if behind ≤ buffer.length then some (buffer.take part.offset ++ part.data ++ buffer.drop behind) else none

/-- Zeros into which the parts are written one after another. -/
def assemble? (size : Nat) (parts : List Part) : Option Bytes := parts.foldlM Part.write? (zeros size)

def fieldInPlace? (offset width : Nat) (text : String) : Option Part := do
  let data ← Part.write? (List.replicate width 0x20) ⟨0, utf8 text⟩
  return ⟨offset, data⟩

def recordInPlace? (identifier : Bytes) (location size : UInt32) (flags : UInt8) : Option Bytes :=
  let length := 33 + identifier.length + if identifier.length % 2 = 0 then 1 else 0
  assemble? length [⟨0, [length.toUInt8]⟩, ⟨2, both32 location⟩, ⟨10, both32 size⟩, ⟨18, recordingDate⟩,
    ⟨25, [flags]⟩, ⟨28, both16 1⟩, ⟨32, [identifier.length.toUInt8]⟩, ⟨33, identifier⟩]

def rootRecordInPlace? (identifier : UInt8) : Option Bytes :=
  recordInPlace? [identifier] rootDirectorySector directorySize directoryFlag

def primaryInPlace? (label : String) (totalSectors : UInt32) : Option Bytes := do
  let system ← fieldInPlace? 8 32 ""
  let volume ← fieldInPlace? 40 32 label
  let root ← rootRecordInPlace? 0
  let volumeSet ← fieldInPlace? 190 128 ""
  let publisher ← fieldInPlace? 318 128 ""
  let preparer ← fieldInPlace? 446 128 ""
  let application ← fieldInPlace? 574 128 "PROVISIONER"
  let copyright ← fieldInPlace? 702 37 ""
  let summary ← fieldInPlace? 739 37 ""
  let bibliography ← fieldInPlace? 776 37 ""
  assemble? sectorSize [⟨0, [1]⟩, ⟨1, utf8 "CD001"⟩, ⟨6, [1]⟩, system, volume, ⟨80, both32 totalSectors⟩,
    ⟨120, both16 1⟩, ⟨124, both16 1⟩, ⟨128, both16 sectorSize.toUInt16⟩, ⟨132, both32 pathTableSize⟩,
    ⟨140, little32 lowPathTableSector⟩, ⟨148, big32 highPathTableSector⟩, ⟨156, root⟩, volumeSet, publisher,
    preparer, application, copyright, summary, bibliography, ⟨813, volumeDate "1970010100000000"⟩,
    ⟨830, volumeDate "1970010100000000"⟩, ⟨847, volumeDate "0000000000000000"⟩,
    ⟨864, volumeDate "0000000000000000"⟩, ⟨881, [1]⟩]

def terminatorInPlace? : Option Bytes :=
  assemble? sectorSize [⟨0, [255]⟩, ⟨1, utf8 "CD001"⟩, ⟨6, [1]⟩]

def pathTableInPlace? (sector parent : Bytes) : Option Bytes :=
  assemble? pathTableSize.toNat [⟨0, [1]⟩, ⟨2, sector⟩, ⟨6, parent⟩]

def Extent.recordInPlace? (e : Extent) : Option Bytes :=
  Iso.recordInPlace? (utf8 (e.file.name ++ ";1")) e.start.toUInt32 e.file.data.length.toUInt32 0

def rootDirectoryInPlace? (extents : List Extent) : Option Bytes := do
  let self ← rootRecordInPlace? 0
  let parent ← rootRecordInPlace? 1
  let records ← extents.mapM Extent.recordInPlace?
  return self ++ parent ++ records.flatten

def atSector (sector : Nat) (data : Bytes) : Part := ⟨sector * sectorSize, data⟩

/-- Nothing in memory has so many bytes. -/
def memoryBound : Nat := UInt64.size / 2

def imageInPlace? (label : String) (root : Bytes) (extents : List Extent) (total : Nat) : Option Bytes := do
  if total * sectorSize ≥ memoryBound then none
  let primary ← primaryInPlace? label total.toUInt32
  let terminator ← terminatorInPlace?
  let lowPaths ← pathTableInPlace? (little32 rootDirectorySector) (little16 1)
  let highPaths ← pathTableInPlace? (big32 rootDirectorySector) (big16 1)
  assemble? (total * sectorSize) (
    [atSector systemSectors primary, atSector 17 terminator, atSector lowPathTableSector.toNat lowPaths,
      atSector highPathTableSector.toNat highPaths, atSector rootDirectorySector.toNat root] ++
    extents.map fun e => atSector e.start e.file.data)

/-- What does not fit where it belongs leaves no answer at all. -/
def orStop {α : Type} : Option α → Outcome Error α
  | some a => .done a
  | none => .overflow

def layInPlace (label : String) (sorted : List File) : Outcome Error Bytes := do
  let (extents, total) ← .ofExcept (allocate firstFileSector sorted)
  let root ← orStop (rootDirectoryInPlace? extents)
  if root.length > sectorSize then .failed .directoryFull
  else orStop (imageInPlace? label root extents total)

/-- The image of a volume with the given label and files, made in place. -/
def buildInPlace (label : String) (files : List File) : Outcome Error Bytes :=
  if !validLabel label then .failed (.invalidLabel label)
  else
    let sorted := files.mergeSort fun a b => a.name ≤ b.name
    match firstRepeated? sorted with
    | some name => .failed (.duplicateFile name)
    | none => layInPlace label sorted

end MachineKeeper.Iso
