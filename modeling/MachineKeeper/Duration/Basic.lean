/-! Lengths of time in whole nanoseconds. -/
namespace MachineKeeper

/-- A length of time: whole seconds, and the nanoseconds of the last incomplete one. -/
structure Duration where
  seconds : UInt64
  nanos : Fin 1000000000
deriving DecidableEq, Repr

inductive DurationError
  | empty
  | numberExpected (offset : Nat)
  | invalidCharacter (offset : Nat)
  | unitNeeded (number : Nat)
  | unknownUnit (text : String)
  | tooLarge
  /-- The last nanosecond of the last representable second is passed in the final carry, where
  the sum is no longer checked: the calculation stops. -/
  | overflow
deriving DecidableEq, Repr

namespace DurationError

def message : DurationError → String
  | empty => "value was empty"
  | numberExpected offset => "expected number at " ++ toString offset
  | invalidCharacter offset => "invalid character at " ++ toString offset
  | unitNeeded n => "time unit needed, for example " ++ toString n ++ "sec or " ++ toString n ++ "ms"
  | unknownUnit text => "unknown time unit \"" ++ text ++ "\", supported units: ns, us/µs, ms, sec, "
      ++ "min, hours, days, weeks, months, years (and few variations)"
  | tooLarge => "number is too large or cannot be represented without a lack of precision "
      ++ "(values below 1ns are not supported)"
  | overflow => "overflow when adding durations"

end DurationError

namespace Duration

def ofSeconds (seconds : UInt64) : Duration := ⟨seconds, 0⟩

def zero : Duration := ofSeconds 0

def bounded (n : Nat) : Except DurationError Nat :=
  if n < UInt64.size then .ok n else .error .tooLarge

/-- Adds seconds and nanoseconds. A sum of exactly one second in nanoseconds is carried last and
unchecked; every other carry is checked. -/
def add (d : Duration) (seconds nanos : Nat) : Except DurationError Duration := do
  let nanos ← bounded (d.nanos.val + nanos)
  let carry := if nanos > 1000000000 then nanos / 1000000000 else 0
  let rest := if nanos > 1000000000 then nanos % 1000000000 else nanos
  let more ← bounded (seconds + carry)
  let total ← bounded (d.seconds.toNat + more)
  if within : rest < 1000000000 then
    return ⟨total.toUInt64, rest, within⟩
  else if total + 1 < UInt64.size then
    return ⟨(total + 1).toUInt64, 0⟩
  else
    throw .overflow

end Duration

end MachineKeeper
