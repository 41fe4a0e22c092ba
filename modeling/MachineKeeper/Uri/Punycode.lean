/-! Punycode: labels of domain names in ASCII. What is not ASCII is left out and written behind,
as the differences between its characters in order, each with its place. -/
namespace MachineKeeper.Uri.Punycode

def digit (n : Nat) : Char := Char.ofNat (if n < 26 then n + 97 else n + 22)

def threshold (place bias : Nat) : Nat := min 26 (max 1 (place - bias))

theorem threshold_bounds (place bias : Nat) :
    1 ≤ threshold place bias ∧ threshold place bias ≤ 26 := by
  unfold threshold; omega

/-- A difference in digits of falling weight, the lowest first. -/
def digits (bias place n : Nat) : List Char :=
  let t := threshold place bias
  if n < t then [digit n]
  else digit (t + (n - t) % (36 - t)) :: digits bias (place + 36) ((n - t) / (36 - t))
termination_by n
decreasing_by
  have ⟨low, _⟩ := threshold_bounds place bias
  exact Nat.lt_of_le_of_lt (Nat.div_le_self _ _) (by omega)

def scale (place n : Nat) : Nat :=
  if 455 < n then scale (place + 36) (n / 35) else place + 36 * n / (n + 38)
termination_by n
decreasing_by omega

def adapt (n count : Nat) (first : Bool) : Nat :=
  let n := if first then n / 700 else n / 2
  scale 0 (n + n / count)

structure Progress where
  written : List Char
  difference : Nat
  bias : Nat
  count : Nat

/-- Goes over one character of the label, in search of those that equal `next`. -/
def visit (basic next : Nat) (p : Progress) (c : Char) : Progress :=
  if c.toNat < next then { p with difference := p.difference + 1 }
  else if c.toNat = next then
    { written := p.written ++ digits p.bias 36 p.difference
      difference := 0
      bias := adapt p.difference (p.count + 1) (p.count = basic)
      count := p.count + 1 }
  else p

def extend (label : List Char) (basic : Nat) : List Nat → Nat → Progress → Progress
  | [], _, p => p
  | next :: rest, current, p =>
    let p := { p with difference := p.difference + (next - current) * (p.count + 1) }
    let p := label.foldl (visit basic next) p
    extend label basic rest (next + 1) { p with difference := p.difference + 1 }

def encode (label : List Char) : List Char :=
  let plain := label.filter fun c => c.toNat < 128
  let others := (label.filter fun c => 128 ≤ c.toNat).map Char.toNat
  let order := (others.mergeSort).eraseDups
  let start : Progress := ⟨[], 0, 72, plain.length⟩
  plain ++ (if plain.isEmpty then [] else ['-']) ++
    (extend label plain.length order 128 start).written

end MachineKeeper.Uri.Punycode
