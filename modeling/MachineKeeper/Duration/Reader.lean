import MachineKeeper.Duration.Units
import MachineKeeper.Text.Split

/-! Reading a length of time from text such as `1h 30m` or `2.5s`: numbers with a unit each, added
up. Blanks may stand anywhere outside a unit, also inside a number. The reader is a machine that
takes one character at a time, so reading a text is a fold over it. -/
namespace MachineKeeper.Duration

/-- A decimal number: its whole part, and the digits after the point over a power of ten. -/
structure Quantity where
  whole : Nat
  fraction? : Option (Nat × Nat)
deriving DecidableEq, Repr

inductive Mode
  /-- No digit of the next number yet; blanks began at byte `start`. -/
  | before (start : Nat)
  | whole (n : Nat)
  /-- Behind the point; a fault is reported at byte `mark`. -/
  | fraction (n numerator denominator mark : Nat)
  /-- Inside a unit, whose letters so far are in reverse. -/
  | unit (quantity : Quantity) (letters : List Char)
deriving DecidableEq, Repr

structure Reading where
  mode : Mode
  total : Duration
  started : Bool
  /-- The byte at which the next character stands. -/
  offset : Nat
deriving DecidableEq, Repr

def Reading.initial : Reading := ⟨.before 0, zero, false, 0⟩

def digit? (c : Char) : Option Nat := if c.isDigit then some (c.toNat - '0'.toNat) else none

def isUnitLetter (c : Char) : Bool := c.isAlpha || c == 'µ'

/-- One unit's worth of a fraction, which must come out even. -/
def share (base numerator denominator : Nat) : Except DurationError Nat := do
  let product ← bounded (numerator * base)
  if product % denominator = 0 then return product / denominator else throw .tooLarge

/-- Adds a number of units to a total: the whole part first, then the fraction. -/
def addUnits (total : Duration) (quantity : Quantity) (unit : TimeUnit) :
    Except DurationError Duration := do
  let seconds ← bounded (quantity.whole * unit.seconds)
  let nanos ← bounded (quantity.whole * unit.nanos)
  let total ← total.add seconds nanos
  match quantity.fraction?, unit.fractionBase? with
  | none, _ => return total
  | some _, none => throw .tooLarge
  | some (numerator, denominator), some (seconds, nanos) => do
    let seconds ← share seconds numerator denominator
    let nanos ← share nanos numerator denominator
    total.add seconds nanos

def finishUnit (total : Duration) (quantity : Quantity) (letters : List Char) :
    Except DurationError Duration :=
  let name := String.ofList letters.reverse
  match TimeUnit.ofName? name with
  | some unit => addUnits total quantity unit
  | none => .error (if letters.isEmpty then .unitNeeded quantity.whole else .unknownUnit name)

def Reading.step (r : Reading) (c : Char) : Except DurationError Reading :=
  let next := r.offset + c.utf8Size
  match r.mode with
  | .before start =>
    match digit? c with
    | some d => .ok { r with mode := .whole d, started := true, offset := next }
    | none =>
      if isBlank c then .ok { r with offset := next } else .error (.numberExpected start)
  | .whole n =>
    match digit? c with
    | some d => do
      let n ← bounded (n * 10 + d)
      return { r with mode := .whole n, offset := next }
    | none =>
      if isBlank c then .ok { r with offset := next }
      else if isUnitLetter c then .ok { r with mode := .unit ⟨n, none⟩ [c], offset := next }
      else if c = '.' then .ok { r with mode := .fraction n 0 1 r.offset, offset := next }
      else .error (.invalidCharacter r.offset)
  | .fraction n numerator denominator mark =>
    match digit? c with
    | some d => do
      let denominator ← bounded (denominator * 10)
      let numerator ← bounded (numerator * 10 + d)
      return { r with mode := .fraction n numerator denominator next, offset := next }
    | none =>
      if isBlank c then
        .ok { r with mode := .fraction n numerator denominator next, offset := next }
      else if !isUnitLetter c || denominator = 1 then .error (.invalidCharacter mark)
      else .ok { r with mode := .unit ⟨n, some (numerator, denominator)⟩ [c], offset := next }
  | .unit quantity letters =>
    match digit? c with
    | some d => do
      let total ← finishUnit r.total quantity letters
      return { r with mode := .whole d, total, offset := next }
    | none =>
      if isBlank c then do
        let total ← finishUnit r.total quantity letters
        return { r with mode := .before next, total, offset := next }
      else if isUnitLetter c then
        .ok { r with mode := .unit quantity (c :: letters), offset := next }
      else .error (.invalidCharacter r.offset)

def Reading.finish (r : Reading) : Except DurationError Duration :=
  match r.mode with
  | .before _ => if r.started then .ok r.total else .error .empty
  | .whole n => finishUnit r.total ⟨n, none⟩ []
  | .fraction n numerator denominator mark =>
    if denominator = 1 then .error (.invalidCharacter mark)
    else finishUnit r.total ⟨n, some (numerator, denominator)⟩ []
  | .unit quantity letters => finishUnit r.total quantity letters

/-- The length of time that a text gives. A lone `0` needs no unit. -/
def ofText (text : String) : Except DurationError Duration :=
  if text = "0" then .ok zero
  else do
    let reading ← text.toList.foldlM Reading.step .initial
    reading.finish

end MachineKeeper.Duration
