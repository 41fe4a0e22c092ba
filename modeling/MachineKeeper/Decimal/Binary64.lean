/-! The decimal text of a 64-bit binary floating-point number: the fewest digits that read back as
the same number, and of those the nearest. Numbers are taken apart into exact integers. -/
namespace MachineKeeper.Binary64

/-- A positive number as `mantissa * 2 ^ exponent`, with the ends of the interval of reals that are
rounded to it. All three are numerators over the same denominator. -/
structure Interval where
  low : Nat
  value : Nat
  high : Nat
  denominator : Nat
  /-- Whether the ends are rounded to the number too. -/
  closed : Bool
deriving Repr

def intervalOfBits (bits : UInt64) : Interval :=
  let fraction := (bits &&& 0xFFFFFFFFFFFFF).toNat
  let biased := ((bits >>> 52) &&& 0x7FF).toNat
  let mantissa := if biased = 0 then fraction else fraction + Nat.pow 2 52
  let exponent : Int := (if biased = 0 then 1 else biased : Nat) - 1075
  -- In quarters of the last place, as the interval below a power of two is half as wide.
  let below := if fraction = 0 ∧ biased > 1 then 1 else 2
  let up := Nat.pow 2 exponent.toNat
  let down := Nat.pow 2 (-exponent).toNat
  { low := (4 * mantissa - below) * up, value := 4 * mantissa * up, high := (4 * mantissa + 2) * up,
    denominator := 4 * down, closed := mantissa % 2 = 0 }

def Interval.holds (i : Interval) (digits : Nat) (scale : Int) : Bool :=
  let point := digits * Nat.pow 10 scale.toNat * i.denominator
  let unit := Nat.pow 10 (-scale).toNat
  if i.closed then i.low * unit ≤ point && point ≤ i.high * unit
  else i.low * unit < point && point < i.high * unit

/-- The number's neighbours on the grid of multiples of `10 ^ scale`: the one that is not above it,
and which of the two is nearer, the even one on a tie. -/
def Interval.neighbours (i : Interval) (scale : Int) : Nat × Nat :=
  let numerator := i.value * Nat.pow 10 (-scale).toNat
  let denominator := i.denominator * Nat.pow 10 scale.toNat
  let floor := numerator / denominator
  let rest := 2 * (numerator % denominator)
  let upper := rest > denominator || (rest = denominator && floor % 2 = 1)
  if upper then (floor + 1, floor) else (floor, floor + 1)

/-- The number of decimal digits before the point of a number of 1 or more, and minus the zeros
behind the point of a smaller one. -/
def Interval.magnitude (i : Interval) : Int :=
  let whole := i.value / i.denominator
  if whole > 0 then (Nat.toDigits 10 whole).length
  else
    let inverse := (i.denominator - 1) / i.value
    1 - ((Nat.toDigits 10 inverse).length : Int)

def Interval.search (i : Interval) (magnitude : Int) : Nat → Nat → Nat × Int
  | _, 0 => (0, 0)
  | count, fuel + 1 =>
    let scale := magnitude - count
    let (near, far) := i.neighbours scale
    if i.holds near scale then (near, scale)
    else if i.holds far scale then (far, scale)
    else search i magnitude (count + 1) fuel

def stripZeros : Nat → Nat → Int → Nat × Int
  | 0, digits, scale => (digits, scale)
  | fuel + 1, digits, scale =>
    if digits > 0 ∧ digits % 10 = 0 then stripZeros fuel (digits / 10) (scale + 1)
    else (digits, scale)

/-- The shortest decimal digits of a positive finite number and their scale. -/
def shortest (bits : UInt64) : List Char × Int :=
  let i := intervalOfBits bits
  let (digits, scale) := i.search i.magnitude 1 18
  let (digits, scale) := stripZeros 20 digits scale
  ((toString digits).toList, scale)

def positional (digits : List Char) (scale : Int) : List Char :=
  let point := (digits.length : Int) + scale
  if scale ≥ 0 then digits ++ List.replicate scale.toNat '0' ++ ['.', '0']
  else if point > 0 then digits.take point.toNat ++ '.' :: digits.drop point.toNat
  else '0' :: '.' :: List.replicate (-point).toNat '0' ++ digits

/-- Digits with an exponent: one digit before the point, and no point without digits behind it. -/
def scientific (digits : List Char) (scale : Int) : List Char :=
  let exponent := (digits.length : Int) + scale - 1
  let fraction := digits.drop 1
  digits.take 1 ++ (if fraction.isEmpty then [] else '.' :: fraction) ++
    'e' :: (toString exponent).toList

inductive Notation
  | positional
  /-- Positional from `-low` zeros behind the point up to `high` digits before it. -/
  | bounded (low high : Int)
deriving DecidableEq, Repr

def signed (negative : Bool) (text : String) : String := if negative then "-" ++ text else text

def render (style : Notation) (x : Float) : String :=
  let bits := x.toBits
  let negative := bits >>> 63 = 1
  let magnitude := bits &&& 0x7FFFFFFFFFFFFFFF
  if magnitude > 0x7FF0000000000000 then "NaN"
  else if magnitude = 0x7FF0000000000000 then signed negative "inf"
  else if magnitude = 0 then signed negative "0.0"
  else
    let (digits, scale) := shortest magnitude
    let point := (digits.length : Int) + scale
    let chars := match style with
      | .positional => positional digits scale
      | .bounded low high =>
        if low < point ∧ point ≤ high then positional digits scale else scientific digits scale
    signed negative (String.ofList chars)

end MachineKeeper.Binary64
