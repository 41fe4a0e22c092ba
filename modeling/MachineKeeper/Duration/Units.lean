import MachineKeeper.Duration.Basic

/-! Units of time and their names, and a length of time written in them: each that is not zero, from years down
to nanoseconds. -/
namespace MachineKeeper

inductive TimeUnit
  | nanosecond
  | microsecond
  | millisecond
  | second
  | minute
  | hour
  | day
  | week
  | month
  | year
deriving DecidableEq, Repr

namespace TimeUnit

def names : TimeUnit → List String
  | nanosecond => ["nanos", "nsec", "ns"]
  | microsecond => ["usec", "us", "µs"]
  | millisecond => ["millis", "msec", "ms"]
  | second => ["seconds", "second", "secs", "sec", "s"]
  | minute => ["minutes", "minute", "min", "mins", "m"]
  | hour => ["hours", "hour", "hrs", "hr", "h"]
  | day => ["days", "day", "d"]
  | week => ["weeks", "week", "wks", "wk", "w"]
  | month => ["months", "month", "M"]
  | year => ["years", "year", "yrs", "yr", "y"]

def all : List TimeUnit :=
  [nanosecond, microsecond, millisecond, second, minute, hour, day, week, month, year]

def ofName? (name : String) : Option TimeUnit := all.find? fun unit => unit.names.contains name

def nanos : TimeUnit → Nat
  | nanosecond => 1
  | microsecond => 1000
  | millisecond => 1000000
  | _ => 0

/-- Seconds in a unit of a second or more. A month is 30.44 days and a year 365.25 days. -/
def seconds : TimeUnit → Nat
  | second => 1
  | minute => 60
  | hour => 3600
  | day => 86400
  | week => 604800
  | month => 2630016
  | year => 31557600
  | _ => 0

/-- What one unit is worth, in seconds and nanoseconds, when only a fraction of it is taken.
Seconds and minutes split into nanoseconds; longer units split into whole seconds only, and a
nanosecond does not split. -/
def fractionBase? : TimeUnit → Option (Nat × Nat)
  | nanosecond => none
  | microsecond => some (0, 1000)
  | millisecond => some (0, 1000000)
  | second => some (0, 1000000000)
  | minute => some (0, 60000000000)
  | unit => some (unit.seconds, 0)

end TimeUnit

namespace Duration

def parts (d : Duration) : List (Nat × String) :=
  let seconds := d.seconds.toNat
  let inYear := seconds % TimeUnit.year.seconds
  let inMonth := inYear % TimeUnit.month.seconds
  let inDay := inMonth % TimeUnit.day.seconds
  let years := seconds / TimeUnit.year.seconds
  let months := inYear / TimeUnit.month.seconds
  let days := inMonth / TimeUnit.day.seconds
  let plural (n : Nat) (name : String) := if n > 1 then name ++ "s" else name
  [(years, plural years "year"), (months, plural months "month"), (days, plural days "day"),
    (inDay / 3600, "h"), (inDay % 3600 / 60, "m"), (inDay % 60, "s"),
    (d.nanos.val / 1000000, "ms"), (d.nanos.val / 1000 % 1000, "us"), (d.nanos.val % 1000, "ns")]

def text (d : Duration) : String :=
  match d.parts.filter fun (n, _) => n ≠ 0 with
  | [] => "0s"
  | shown => " ".intercalate (shown.map fun (n, name) => toString n ++ name)

end Duration

end MachineKeeper
