/-! Byte strings and the bytes of texts. -/
namespace MachineKeeper

abbrev Bytes := List UInt8

def utf8 (text : String) : Bytes := text.toUTF8.data.toList

def ofUtf8? (bytes : Bytes) : Option String := String.fromUTF8? ⟨bytes.toArray⟩

namespace Bytes

def little32 (n : UInt32) : Bytes :=
  [n.toUInt8, (n >>> 8).toUInt8, (n >>> 16).toUInt8, (n >>> 24).toUInt8]

def big32 (n : UInt32) : Bytes := (little32 n).reverse

/-- A 32-bit number in both byte orders, lowest byte first to begin with. -/
def both32 (n : UInt32) : Bytes := little32 n ++ big32 n

def little16 (n : UInt16) : Bytes := [n.toUInt8, (n >>> 8).toUInt8]

def big16 (n : UInt16) : Bytes := (little16 n).reverse

def both16 (n : UInt16) : Bytes := little16 n ++ big16 n

def zeros (count : Nat) : Bytes := List.replicate count 0

/-- `bytes` followed by as many copies of `filler` as `width` asks for. -/
def padTo (width : Nat) (filler : UInt8) (bytes : Bytes) : Bytes :=
  bytes ++ List.replicate (width - bytes.length) filler

theorem length_padTo {width : Nat} {filler : UInt8} {bytes : Bytes} (fits : bytes.length ≤ width) :
    (padTo width filler bytes).length = width := by
  simp [padTo]; omega

end Bytes

end MachineKeeper
