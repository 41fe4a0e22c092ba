import MachineKeeper.Bytes

/-! The fixed structures of an ISO 9660 image with a single directory. Each is written as the list
of its fields in order. All dates are fixed, so an image depends on its label and files only. -/
namespace MachineKeeper.Iso

open Bytes

def sectorSize : Nat := 2048

/-- Sectors 0 to 15 are left to the system. -/
def systemSectors : Nat := 16

def lowPathTableSector : UInt32 := 18
def highPathTableSector : UInt32 := 19
def rootDirectorySector : UInt32 := 20
def firstFileSector : Nat := 21

def pathTableSize : UInt32 := 10

def directorySize : UInt32 := 2048

def directoryFlag : UInt8 := 2

/-- The first second of 1970, as a directory record has it. -/
def recordingDate : Bytes := [70, 1, 1, 0, 0, 0, 0]

/-- A date in a volume descriptor: sixteen digits and an offset from Greenwich. -/
def volumeDate (digits : String) : Bytes := utf8 digits ++ [0]

def sectorsFor (length : Nat) : Nat := (length + sectorSize - 1) / sectorSize

def toSectors (bytes : Bytes) : Bytes := padTo (sectorsFor bytes.length * sectorSize) 0 bytes

def field (width : Nat) (text : String) : Bytes := padTo width 0x20 (utf8 text)

/-- One entry of a directory. Records start at even offsets, so one that would end at an odd one
has a byte of padding. -/
def directoryRecord (identifier : Bytes) (location size : UInt32) (flags : UInt8) : Bytes :=
  let padding := if identifier.length % 2 = 0 then [0] else []
  [(33 + identifier.length + padding.length).toUInt8, 0] ++ both32 location ++ both32 size ++
    recordingDate ++ [flags, 0, 0] ++ both16 1 ++ [identifier.length.toUInt8] ++ identifier ++ padding

def rootRecord (identifier : UInt8) : Bytes :=
  directoryRecord [identifier] rootDirectorySector directorySize directoryFlag

def primaryDescriptor (label : String) (totalSectors : UInt32) : Bytes :=
  [1] ++ utf8 "CD001" ++ [1, 0] ++ field 32 "" ++ field 32 label ++ zeros 8 ++
    both32 totalSectors ++ zeros 32 ++ both16 1 ++ both16 1 ++ both16 sectorSize.toUInt16 ++
    both32 pathTableSize ++ little32 lowPathTableSector ++ zeros 4 ++ big32 highPathTableSector ++
    zeros 4 ++ rootRecord 0 ++ field 128 "" ++ field 128 "" ++ field 128 "" ++
    field 128 "PROVISIONER" ++ field 37 "" ++ field 37 "" ++ field 37 "" ++
    volumeDate "1970010100000000" ++ volumeDate "1970010100000000" ++
    volumeDate "0000000000000000" ++ volumeDate "0000000000000000" ++ [1]

def terminator : Bytes := [255] ++ utf8 "CD001" ++ [1]

def lowPathTable : Bytes := [1, 0] ++ little32 rootDirectorySector ++ little16 1 ++ [0, 0]

def highPathTable : Bytes := [1, 0] ++ big32 rootDirectorySector ++ big16 1 ++ [0, 0]

end MachineKeeper.Iso
