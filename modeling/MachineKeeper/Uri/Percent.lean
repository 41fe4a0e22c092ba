import MachineKeeper.Bytes
import MachineKeeper.Decimal.Number

/-! Percent encoding: characters that cannot stand in a part of a URI are written as their bytes,
each with a percent sign and two digits. Which characters that are depends on the part. -/
namespace MachineKeeper.Uri

def percentDigit (n : UInt8) : Char := Char.ofNat (if n < 10 then n.toNat + 48 else n.toNat + 55)

def percentByte (b : UInt8) : List Char := ['%', percentDigit (b / 16), percentDigit (b % 16)]

/-- Controls and all characters outside ASCII are written as bytes wherever they stand. -/
def isControl (c : Char) : Bool := c.toNat < 32 || 126 < c.toNat

def percentEncode (reserved : List Char) (cs : List Char) : List Char :=
  cs.flatMap fun c =>
    if isControl c || reserved.contains c then (utf8 (String.singleton c)).flatMap percentByte
    else [c]

def reservedInFragment : List Char := [' ', '"', '<', '>', '\x60']

def reservedInPath : List Char := reservedInFragment ++ ['#', '?', '\x7b', '\x7d']

def reservedInUserinfo : List Char :=
  reservedInPath ++ ['/', ':', ';', '=', '@', '[', '\\', ']', '^', '|']

def reservedInQuery : List Char := [' ', '"', '#', '<', '>']

/-- Reads bytes off a text: written ones are decoded, and other characters stand for their own. -/
def percentDecode : List Char → Bytes
  | '%' :: a :: b :: rest =>
    match Decimal.ofDigits? 16 [a, b] with
    | some n => n.toUInt8 :: percentDecode rest
    | none => 0x25 :: percentDecode (a :: b :: rest)
  | c :: rest => utf8 (String.singleton c) ++ percentDecode rest
  | [] => []

end MachineKeeper.Uri
