import MachineKeeper.Decimal.Binary64
import MachineKeeper.Decimal.Number
import MachineKeeper.Document.Node
import MachineKeeper.Document.Reader

/-! Reading JSON text. The reader takes characters off the front of the text and hands on the rest;
no rest means that the text is not well formed at some point of what was read, and nothing behind
that point is looked at. -/
namespace MachineKeeper.Json.Reader

open Document (Node Leaf)

/-- A record may be given as the list of its fields, which must not be longer than it. -/
def dialect : Document.Dialect := ⟨true, false⟩

def isBlank (c : Char) : Bool := c = ' ' || c = '\n' || c = '\t' || c = '\r'

def skipBlanks (cs : List Char) : List Char := cs.dropWhile isBlank

def hex4? : List Char → Option (Nat × List Char)
  | a :: b :: c :: d :: rest => (Decimal.ofDigits? 16 [a, b, c, d]).map (·, rest)
  | _ => none

def simpleEscape? : Char → Option Char
  | '"' => some '"'
  | '\\' => some '\\'
  | '/' => some '/'
  | 'b' => some '\x08'
  | 'f' => some '\x0c'
  | 'n' => some '\n'
  | 'r' => some '\r'
  | 't' => some '\t'
  | _ => none

def ofSurrogates (high low : Nat) : Char :=
  Char.ofNat (0x10000 + (high - 0xD800) * 0x400 + (low - 0xDC00))

def isHighSurrogate (n : Nat) : Bool := 0xD800 ≤ n && n ≤ 0xDBFF
def isLowSurrogate (n : Nat) : Bool := 0xDC00 ≤ n && n ≤ 0xDFFF

/-- The rest of a string behind its opening quote: the text, unless a surrogate has no partner, and
what comes behind the closing quote. -/
def stringBody : Nat → List Char → List Char → Bool → Option (Option String × List Char)
  | 0, _, _, _ => none
  | fuel + 1, cs, acc, readable =>
    match cs with
    | [] => none
    | '"' :: rest => some (if readable then some (String.ofList acc.reverse) else none, rest)
    | '\\' :: 'u' :: rest => do
      let (high, rest) ← hex4? rest
      if isHighSurrogate high then
        match rest with
        | '\\' :: 'u' :: more =>
          let (low, behind) ← hex4? more
          if isLowSurrogate low then stringBody fuel behind (ofSurrogates high low :: acc) readable
          else stringBody fuel rest acc false
        | _ => stringBody fuel rest acc false
      else if isLowSurrogate high then stringBody fuel rest acc false
      else stringBody fuel rest (Char.ofNat high :: acc) readable
    | '\\' :: c :: rest => do
      let c ← simpleEscape? c
      stringBody fuel rest (c :: acc) readable
    | c :: rest => if c.toNat < 32 then none else stringBody fuel rest (c :: acc) readable

def stringNode : Option String → Node
  | some text => .leaf (.ofText text)
  | none => .unreadable

/-- The significant digits of a number as far as they fit in 64 bits, and how many did not. -/
def significand : List Char → Nat → Nat → Nat × Nat
  | [], n, dropped => (n, dropped)
  | c :: rest, n, dropped =>
    let next := n * 10 + (c.toNat - 48)
    if dropped = 0 ∧ next < UInt64.size then significand rest next dropped
    else significand rest n (dropped + 1)

def tenTo (k : Nat) : Float := Float.ofScientific 1 false k

/-- Scales by powers of ten that are representable themselves; `none` where the result is not
finite. -/
def scaled : Nat → Float → Int → Option Float
  | 0, f, _ => some f
  | fuel + 1, f, exponent =>
    if exponent.natAbs ≤ 308 then
      if exponent ≥ 0 then
        let product := f * tenTo exponent.toNat
        if product.isInf then none else some product
      else some (f / tenTo exponent.natAbs)
    else if f == 0.0 then some f
    else if exponent ≥ 0 then none
    else scaled fuel (f / 1e308) (exponent + 308)

/-- A number that is not an integer of 64 bits: the leaf with its text, or nothing to read where it
is too large. -/
def fractionNode (negative : Bool) (whole fraction : List Char) (exponent : Int) : Node :=
  let (n, dropped) := significand whole 0 0
  let (n, left) := significand fraction n 0
  let places : Int := dropped - (fraction.length - left : Nat)
  let total := places + exponent
  let number := if n = 0 then some 0.0
    else scaled (min total.natAbs 1000000 / 308 + 2) (Float.ofNat n) total
  match number with
  | some f =>
    .leaf (.ofFraction (Binary64.render (.bounded (-5) 16) (if negative then -f else f)))
  | none => .unreadable

def digits (cs : List Char) : List Char × List Char := cs.span Char.isDigit

def exponent? (cs : List Char) : Option (Option Int × List Char) :=
  match cs with
  | e :: rest =>
    if e = 'e' || e = 'E' then
      let (negative, rest) := match rest with
        | '+' :: rest => (false, rest)
        | '-' :: rest => (true, rest)
        | rest => (false, rest)
      let (ds, rest) := digits rest
      if ds.isEmpty then none
      else
        let n : Nat := ds.foldl (fun n c => min (n * 10 + (c.toNat - 48)) (Nat.pow 2 31)) 0
        some (some (if negative then -(n : Int) else n), rest)
    else some (none, cs)
  | [] => some (none, [])

def number (negative : Bool) (cs : List Char) : Node × Option (List Char) :=
  let (whole, rest) := digits cs
  if whole.isEmpty || (whole.length > 1 && whole.head? = some '0') then (.broken, none)
  else
    let fraction? := match rest with
      | '.' :: rest =>
        let (ds, rest) := digits rest
        if ds.isEmpty then none else some (some ds, rest)
      | rest => some (none, rest)
    match fraction? with
    | none => (.broken, none)
    | some (fraction, rest) =>
      match exponent? rest with
      | none => (.broken, none)
      | some (exponent, rest) =>
        let n : Nat := whole.foldl (fun n c => n * 10 + (c.toNat - 48)) 0
        let isInteger := fraction.isNone && exponent.isNone &&
          (if negative then 0 < n && n ≤ Nat.pow 2 63 else n < UInt64.size)
        if isInteger then (.leaf (.ofInteger (if negative then -(n : Int) else n)), some rest)
        else (fractionNode negative whole (fraction.getD []) (exponent.getD 0), some rest)

def literal (expected : List Char) (leaf : Leaf) (cs : List Char) : Node × Option (List Char) :=
  if expected.isPrefixOf cs then (.leaf leaf, some (cs.drop expected.length)) else (.broken, none)

mutual

def value : Nat → List Char → Node × Option (List Char)
  | 0, _ => (.broken, none)
  | fuel + 1, cs =>
    match skipBlanks cs with
    | '"' :: rest =>
      match stringBody (rest.length + 1) rest [] true with
      | some (text?, rest) => (stringNode text?, some rest)
      | none => (.broken, none)
    | '[' :: rest =>
      match skipBlanks rest with
      | ']' :: rest => (.list [] true, some rest)
      | rest =>
        let (found, rest) := items fuel rest
        (.list found rest.isSome, rest)
    | '\x7b' :: rest =>
      match skipBlanks rest with
      | '\x7d' :: rest => (.record [] true, some rest)
      | rest =>
        let (found, rest) := members fuel rest
        (.record found rest.isSome, rest)
    | 'n' :: rest => literal ['u', 'l', 'l'] (.ofNothing "null") rest
    | 't' :: rest => literal ['r', 'u', 'e'] (.ofFlag true) rest
    | 'f' :: rest => literal ['a', 'l', 's', 'e'] (.ofFlag false) rest
    | '-' :: rest => number true rest
    | rest => number false rest

def items : Nat → List Char → List Node × Option (List Char)
  | 0, _ => ([], none)
  | fuel + 1, cs =>
    if (skipBlanks cs).head? = some ']' then ([], none)
    else
      match value fuel cs with
      | (item, none) => ([item], none)
      | (item, some rest) =>
        match skipBlanks rest with
        | ',' :: rest =>
          let (more, rest) := items fuel rest
          (item :: more, rest)
        | ']' :: rest => ([item], some rest)
        | _ => ([item], none)

def members : Nat → List Char → List (Node × Node) × Option (List Char)
  | 0, _ => ([], none)
  | fuel + 1, cs =>
    match skipBlanks cs with
    | '"' :: rest =>
      match stringBody (rest.length + 1) rest [] true with
      | none => ([(.broken, .broken)], none)
      | some (name?, rest) =>
        let key := stringNode name?
        match skipBlanks rest with
        | ':' :: rest =>
          match value fuel rest with
          | (member, none) => ([(key, member)], none)
          | (member, some rest) =>
            match skipBlanks rest with
            | ',' :: rest =>
              let (more, rest) := members fuel rest
              ((key, member) :: more, rest)
            | '\x7d' :: rest => ([(key, member)], some rest)
            | _ => ([(key, member)], none)
        | _ => ([(key, .broken)], none)
    | _ => ([(.broken, .broken)], none)

end

end MachineKeeper.Json.Reader

namespace MachineKeeper.Json

def document (text : String) : Document :=
  let cs := text.toList
  match Reader.value (2 * cs.length + 2) cs with
  | (root, none) => ⟨root, false, []⟩
  | (root, some rest) => ⟨root, (Reader.skipBlanks rest).isEmpty, []⟩

def read {α : Type} (reader : Document.NodeReader α) (text : String) :
    Except Document.ReadError α :=
  (document text).read Reader.dialect reader

end MachineKeeper.Json
