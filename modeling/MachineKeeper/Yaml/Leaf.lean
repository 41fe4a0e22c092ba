import MachineKeeper.Decimal.Binary64
import MachineKeeper.Decimal.Number
import MachineKeeper.Document.Node
import MachineKeeper.Yaml.Scalar

/-! What scalars can be read as. Any scalar is a text; a plain one may also be nothing, a truth
value or a number, by how it looks. -/
namespace MachineKeeper.Yaml.Leaf

open Document (Leaf Mismatch)

def isNull (text : String) : Bool := text ∈ ["null", "Null", "NULL", "~"]

def flag? (text : String) : Option Bool :=
  if text ∈ ["true", "True", "TRUE"] then some true
  else if text ∈ ["false", "False", "FALSE"] then some false
  else none

def signed : List Char → Option Char × List Char
  | c :: rest => if c = '+' || c = '-' then (some c, rest) else (none, c :: rest)
  | [] => (none, [])

def isZeroLed (digits : List Char) : Bool :=
  digits.length > 1 && digits.head? = some '0' && digits.all Char.isDigit

def natural? (cs : List Char) : Option Nat :=
  let based : Option Nat := match cs with
    | '0' :: 'x' :: rest => Decimal.ofDigits? 16 rest
    | '0' :: 'o' :: rest => Decimal.ofDigits? 8 rest
    | '0' :: 'b' :: rest => Decimal.ofDigits? 2 rest
    | _ => none
  based <|> (if isZeroLed cs then none else Decimal.ofDigits? 10 cs)

/-- A whole number: whether it has a minus sign, and what is behind the sign. -/
def integer? (cs : List Char) : Option (Bool × Nat) :=
  match signed cs with
  | (sign, digits) => (natural? digits).map (sign = some '-', ·)

def digitsOf (cs : List Char) : List Char × List Char := cs.span Char.isDigit

def exponent? : List Char → Option Int
  | [] => some 0
  | e :: rest =>
    if e = 'e' || e = 'E' then
      let (sign, digits) := signed rest
      match Decimal.ofDigits? 10 digits with
      | some n =>
        let n : Nat := min n Decimal.exponentBound
        some (if sign = some '-' then -(n : Int) else n)
      | none => none
    else none

/-- A finite number with a point or an exponent, by its text. At least one digit stands before or
behind the point. -/
def fraction? (cs : List Char) : Option String :=
  let (sign, unsigned) := signed cs
  let (whole, rest) := digitsOf unsigned
  let (fraction, rest) := match rest with
    | '.' :: rest => digitsOf rest
    | rest => ([], rest)
  if whole.isEmpty && fraction.isEmpty then none
  else
    match exponent? rest with
    | none => none
    | some exponent =>
      let magnitude := (Decimal.Scientific.ofParts whole fraction exponent).toFloat
      if magnitude.isInf then none
      else some (Binary64.render .positional (if sign = some '-' then -magnitude else magnitude))

def float? (text : String) : Option String :=
  if text ∈ [".inf", ".Inf", ".INF", "+.inf", "+.Inf", "+.INF"] then some "inf"
  else if text ∈ ["-.inf", "-.Inf", "-.INF"] then some "-inf"
  else if text ∈ [".nan", ".NaN", ".NAN"] then some "NaN"
  else fraction? text.toList

/-- A whole number as messages show it. Numbers without a sign have 64 or 128 bits, as have those
below zero; beyond that they are none. -/
def ofInteger? (negative : Bool) (n : Nat) : Option Leaf :=
  if negative then
    if n ≤ Nat.pow 2 63 then some { Document.Leaf.ofInteger (-(n : Int)) with integer? := none }
    else if n ≤ Nat.pow 2 127 then some (.ofWideInteger (-(n : Int)) "i128")
    else none
  else if n < UInt64.size then some (.ofInteger n)
  else if n < Nat.pow 2 128 then some (.ofWideInteger n "u128")
  else none

def ofNumber? (text : String) : Option Leaf :=
  (integer? text.toList).bind (fun (negative, n) => ofInteger? negative n)

def ofLook (text : String) : Leaf :=
  if text = "" || isNull text then .ofNothing "unit value"
  else
    let float? := if isZeroLed (signed text.toList).2 then none else float? text
    match flag? text, ofNumber? text, float? with
    | some b, _, _ => .ofFlag b
    | none, some number, _ => number
    | none, none, some float => .ofFraction float
    | none, none, none => .ofText text

def typeTag? : String → Option ((String → Option Leaf) × String)
  | "tag:yaml.org,2002:bool" => some (fun t => (flag? t).map .ofFlag, "a boolean")
  | "tag:yaml.org,2002:int" => some (ofNumber?, "an integer")
  | "tag:yaml.org,2002:float" => some (fun t => (float? t).map .ofFraction, "a float")
  | "tag:yaml.org,2002:null" =>
    some (fun t => if isNull t then some (.ofNothing "unit value") else none, "null")
  | _ => none

/-- How messages show a scalar, or what is wrong with it: a scalar must be what its tag says. Tags
that name no type of the standard leave a plain scalar to its look. -/
def described (tag? : Option String) (style : Style) (text : String) : Leaf :=
  match tag? with
  | none => if style = .plain then ofLook text else .ofText text
  | some tag =>
    match typeTag? tag with
    | some (read?, expected) =>
      (read? text).getD
        { shown := "", fault? := some (.invalidValue (Leaf.ofText text).shown expected) }
    | none => if tag.startsWith "!" && style = .plain then ofLook text else .ofText text

def isAbsent (tag? : Option String) (style : Style) (text : String) : Bool :=
  style = .plain && match tag? with
    | none => text = "" || isNull text
    | some tag => tag = "tag:yaml.org,2002:null" && isNull text

def absenceFault? (tag? : Option String) (style : Style) (text : String) : Option Mismatch :=
  if style = .plain && tag? = some "tag:yaml.org,2002:null" && !isNull text then
    some (.invalidValue (Leaf.ofText text).shown "null")
  else none

/-- A number or a truth value is read off a plain scalar whatever its tag, and off a literal block
with the tag of the type. -/
def readsAs (typeTag : String) (tag? : Option String) (style : Style) : Bool :=
  style = .plain || (style = .literal && tag? = some ("tag:yaml.org,2002:" ++ typeTag))

def ofScalar (tag? : Option String) (style : Style) (text : String) : Leaf :=
  let d := described tag? style text
  { d with
    text? := some text
    integer? :=
      if readsAs "int" tag? style then
        match integer? text.toList with
        | some (false, n) => if n < UInt64.size then some (n : Int) else none
        | _ => none
      else none
    flag? := if readsAs "bool" tag? style then flag? text else none
    absent := isAbsent tag? style text
    emptyRecord := style = .plain && text = ""
    absenceFault? := absenceFault? tag? style text }

end MachineKeeper.Yaml.Leaf
