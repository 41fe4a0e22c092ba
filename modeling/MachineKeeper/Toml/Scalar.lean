import MachineKeeper.Decimal.Binary64
import MachineKeeper.Decimal.Number
import MachineKeeper.Document.Node
import MachineKeeper.Text.Split
import MachineKeeper.Toml.Date

/-! Values of TOML that are written without quotes: truth values, numbers and dates. -/
namespace MachineKeeper.Toml.Scalar

open Document (Node Leaf)
open Decimal (exponentBound ofDigits?)

/-- Takes the underscores out of a number, each of which must stand between two digits. -/
def digits? (isDigit : Char → Bool) : List Char → Option (List Char)
  | [] => none
  | [c] => if isDigit c then some [c] else none
  | c :: '_' :: rest =>
    if isDigit c then (digits? isDigit rest).map (c :: ·) else none
  | c :: rest => if isDigit c then (digits? isDigit rest).map (c :: ·) else none

def decimal? (cs : List Char) : Option (List Char) := do
  let digits ← digits? Char.isDigit cs
  if cs.length > 1 && cs.head? = some '0' then none else some digits

def signed : List Char → Bool × List Char
  | '+' :: rest => (false, rest)
  | '-' :: rest => (true, rest)
  | cs => (false, cs)

/-- An integer. Where 64 bits are too few a message tells how many it takes, and where 128 bits are
too few there is no value. -/
def ofInteger (i : Int) : Node :=
  if -Nat.pow 2 63 ≤ i ∧ i < UInt64.size then .leaf (.ofInteger i)
  else if -Nat.pow 2 127 ≤ i ∧ i < Nat.pow 2 127 then .leaf (.ofWideInteger i "i128")
  else if 0 ≤ i ∧ i < Nat.pow 2 128 then .leaf (.ofWideInteger i "u128")
  else .broken

def based? : List Char → Option Node
  | '0' :: c :: rest => do
    let base ← [('x', 16), ('o', 8), ('b', 2)].lookup c
    let digits ← digits? (fun c => (ofDigits? base [c]).isSome) rest
    return ofInteger (← ofDigits? base digits)
  | _ => none

def integer? (cs : List Char) : Option Node := do
  let (negative, cs) := signed cs
  let n ← ofDigits? 10 (← decimal? cs)
  return ofInteger (if negative then -(n : Int) else n)

def exponent? (cs : List Char) : Option Int := do
  let (negative, cs) := signed cs
  let n ← ofDigits? 10 (← digits? Char.isDigit cs)
  return if negative then -((min n exponentBound : Nat) : Int) else (min n exponentBound : Nat)

/-- A finite number with a fraction, an exponent or both. One that is too large has no value. -/
def fraction? (cs : List Char) : Option Node := do
  let (negative, cs) := signed cs
  let (number, exponent) := splitFirst (fun c => c = 'e' || c = 'E') cs
  let (whole, fraction) := splitFirst (· = '.') number
  if fraction.isNone && exponent.isNone then none
  let whole ← decimal? whole
  let fraction ← match fraction with
    | some cs => digits? Char.isDigit cs
    | none => some []
  let exponent ← match exponent with
    | some cs => exponent? cs
    | none => some 0
  let magnitude := (Decimal.Scientific.ofParts whole fraction exponent).toFloat
  return if magnitude.isInf then .broken
    else
      let number := if negative then -magnitude else magnitude
      .leaf (.ofFraction (Binary64.render .positional number))

def word? (cs : List Char) : Option Node :=
  let (negative, word) := signed cs
  if word = ['i', 'n', 'f'] then some (.leaf (.ofFraction (if negative then "-inf" else "inf")))
  else if word = ['n', 'a', 'n'] then some (.leaf (.ofFraction "NaN"))
  else none

/-- A date has no reading; like a record without a field of any known name it fits where fields may
all be left out. -/
def date? (cs : List Char) : Option Node :=
  if Date.isDateOrTime cs then some (.record [] true) else none

def ofChars? (cs : List Char) : Option Node :=
  if cs = ['t', 'r', 'u', 'e'] then some (.leaf (.ofFlag true))
  else if cs = ['f', 'a', 'l', 's', 'e'] then some (.leaf (.ofFlag false))
  else based? cs <|> integer? cs <|> fraction? cs <|> word? cs <|> date? cs

end MachineKeeper.Toml.Scalar
