import MachineKeeper.Decimal.Number
import MachineKeeper.Text.Split

/-! Internet addresses in URIs: their written forms are many, the form in which they are kept is
one. -/
namespace MachineKeeper.Uri

/-- A number in one part of an address: hexadecimal behind `0x`, octal behind `0`. -/
def ipv4Number? : List Char → Option Nat
  | ['0'] => some 0
  | '0' :: x :: rest =>
    if x = 'x' || x = 'X' then (if rest.isEmpty then some 0 else Decimal.ofDigits? 16 rest)
    else Decimal.ofDigits? 8 (x :: rest)
  | digits => Decimal.ofDigits? 10 digits

def hostParts (host : List Char) : List (List Char) :=
  match (splitAll '.' host).reverse with
  | [] :: rest => rest.reverse
  | rest => rest.reverse

def endsInNumber (host : List Char) : Bool :=
  match (hostParts host).getLast? with
  | some part => (!part.isEmpty && part.all Char.isDigit) || (ipv4Number? part).isSome
  | none => false

/-- The number that all parts give: the last fills what the others leave of 32 bits. -/
def ipv4Value? (parts : List Nat) : Option Nat :=
  match parts.reverse with
  | [] => none
  | last :: before =>
    let count := before.length
    if count > 3 || last ≥ Nat.pow 256 (4 - count) || before.any (· > 255) then none
    else some (last + before.reverse.foldl (fun n part => n * 256 + part) 0 * Nat.pow 256 (4 - count))

def ipv4? (host : List Char) : Option String := do
  let value ← ipv4Value? (← (hostParts host).mapM ipv4Number?)
  let part (k : Nat) : String := toString (value / Nat.pow 256 k % 256)
  return ".".intercalate [part 3, part 2, part 1, part 0]

def ipv6Group? (digits : List Char) : Option Nat :=
  if digits.length ≤ 4 then Decimal.ofDigits? 16 digits else none

def decimalByte? (digits : List Char) : Option Nat := do
  if digits.all Char.isDigit && (digits.length = 1 || digits.head? ≠ some '0') then
    let n ← Decimal.ofDigits? 10 digits
    if n ≤ 255 then some n else none
  else none

def embeddedGroups? (text : List Char) : Option (List Nat) := do
  match ← (splitAll '.' text).mapM decimalByte? with
  | [a, b, c, d] => return [a * 256 + b, c * 256 + d]
  | _ => none

/-- The groups between single colons; the last may be a version 4 address. -/
def ipv6Groups? (last : Bool) (text : List Char) : Option (List Nat) :=
  if text.isEmpty then some []
  else
    let parts := splitAll ':' text
    let final := parts.getLast?.getD []
    if last && final.contains '.' then do
      return (← parts.dropLast.mapM ipv6Group?) ++ (← embeddedGroups? final)
    else parts.mapM ipv6Group?

def splitGap : List Char → List Char × Option (List Char)
  | ':' :: ':' :: rest => ([], some rest)
  | c :: rest =>
    let (front, back) := splitGap rest
    (c :: front, back)
  | [] => ([], none)

/-- The eight groups of a version 6 address. Two colons stand for one or more groups of zeros. -/
def ipv6Value? (text : List Char) : Option (List Nat) := do
  match splitGap text with
  | (_, none) =>
    let groups ← ipv6Groups? true text
    if groups.length = 8 then some groups else none
  | (front, some back) =>
    let front ← ipv6Groups? false front
    let back ← ipv6Groups? true back
    let known := front.length + back.length
    if known ≤ 7 then some (front ++ List.replicate (8 - known) 0 ++ back) else none

def zerosAhead (groups : List Nat) : Nat := (groups.takeWhile (· = 0)).length

def longestZeros : Nat → List Nat → Nat × Nat
  | _, [] => (0, 0)
  | position, group :: rest =>
    let here := zerosAhead (group :: rest)
    let later := longestZeros (position + 1) rest
    if here ≥ later.2 then (position, here) else later

def groupText (groups : List Nat) : String :=
  ":".intercalate (groups.map fun n => String.ofList (Nat.toDigits 16 n))

/-- The kept form of a version 6 address: the longest run of zeros is left out. -/
def ipv6Text (groups : List Nat) : String :=
  let (position, count) := longestZeros 0 groups
  if count < 2 then groupText groups
  else groupText (groups.take position) ++ "::" ++ groupText (groups.drop (position + count))

def ipv6? (text : List Char) : Option String := (ipv6Value? text).map ipv6Text

end MachineKeeper.Uri
