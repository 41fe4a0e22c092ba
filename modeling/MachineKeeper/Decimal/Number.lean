/-! Decimal numbers, and the 64-bit binary numbers nearest to them. -/
namespace MachineKeeper.Decimal

def digitValue (c : Char) : Nat := c.toNat - '0'.toNat

def ofDigits (base : Nat) (digits : List Char) : Nat :=
  digits.foldl (fun n c => n * base + digitValue c) 0

def hexValue? (c : Char) : Option Nat :=
  if c.isDigit then some (digitValue c)
  else if 'a' ≤ c && c ≤ 'f' then some (c.toNat - 'a'.toNat + 10)
  else if 'A' ≤ c && c ≤ 'F' then some (c.toNat - 'A'.toNat + 10)
  else none

/-- The number that digits write in a base up to sixteen, if there are some and all are digits of
that base. -/
def ofDigits? (base : Nat) (digits : List Char) : Option Nat :=
  if digits.isEmpty then none
  else digits.foldlM (fun n c => do
    let d ← hexValue? c
    if d < base then some (n * base + d) else none) 0

/-- An exponent that takes every number that is written with it out of range; larger ones are cut
down to it. -/
def exponentBound : Nat := 1024 * 1024 * 1024 * 1024

/-- A number with a fraction and a power of ten: `digits * 10 ^ scale`. -/
structure Scientific where
  digits : Nat
  scale : Int
deriving DecidableEq, Repr

def Scientific.ofParts (whole fraction : List Char) (exponent : Int) : Scientific :=
  ⟨ofDigits 10 (whole ++ fraction), exponent - fraction.length⟩

/-- The nearest 64-bit binary number. Powers of ten that are out of range in any case are not
worked out. -/
def Scientific.toFloat (s : Scientific) : Float :=
  let magnitude := ((Nat.toDigits 10 s.digits).length : Int) + s.scale
  if s.digits = 0 || magnitude < -400 then 0.0
  else if magnitude > 400 then Float.ofBits 0x7FF0000000000000
  else Float.ofScientific s.digits (s.scale < 0) s.scale.natAbs

end MachineKeeper.Decimal
