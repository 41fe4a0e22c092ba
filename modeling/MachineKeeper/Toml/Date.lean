/-! Dates and times of day in TOML. Nothing here has a use for their values, so what counts is
whether a text is one of them. -/
namespace MachineKeeper.Toml.Date

def number? (count : Nat) (cs : List Char) : Option (Nat × List Char) :=
  let (digits, rest) := cs.span Char.isDigit
  if digits.length = count then some (digits.foldl (fun n c => n * 10 + (c.toNat - 48)) 0, rest)
  else none

def numberUpTo? (limit count : Nat) (cs : List Char) : Option (Nat × List Char) := do
  let (n, rest) ← number? count cs
  if n ≤ limit then some (n, rest) else none

def expect? (c : Char) : List Char → Option (List Char)
  | d :: rest => if d = c then some rest else none
  | [] => none

def isLeap (year : Nat) : Bool := year % 4 = 0 && (year % 100 ≠ 0 || year % 400 = 0)

def daysIn (year month : Nat) : Nat :=
  if month = 2 then (if isLeap year then 29 else 28)
  else if month ∈ [4, 6, 9, 11] then 30
  else 31

def date? (cs : List Char) : Option (List Char) := do
  let (year, cs) ← number? 4 cs
  let cs ← expect? '-' cs
  let (month, cs) ← numberUpTo? 12 2 cs
  let cs ← expect? '-' cs
  let (day, cs) ← numberUpTo? (daysIn year month) 2 cs
  if month = 0 || day = 0 then none else some cs

def fraction? : List Char → Option (List Char)
  | '.' :: rest =>
    match rest.span Char.isDigit with
    | ([], _) => none
    | (_, rest) => some rest
  | cs => some cs

/-- Takes seconds off the front, if they are there. A minute may have a leap second. -/
def seconds? : List Char → Option (List Char)
  | ':' :: rest => do
    let (_, rest) ← numberUpTo? 60 2 rest
    fraction? rest
  | cs => some cs

def time? (cs : List Char) : Option (List Char) := do
  let (_, cs) ← numberUpTo? 23 2 cs
  let cs ← expect? ':' cs
  let (_, cs) ← numberUpTo? 59 2 cs
  seconds? cs

def offset? : List Char → Option (List Char)
  | [] => some []
  | sign :: rest =>
    if sign = 'Z' || sign = 'z' then some rest
    else if sign = '+' || sign = '-' then do
      let (_, rest) ← numberUpTo? 23 2 rest
      let rest ← expect? ':' rest
      let (_, rest) ← numberUpTo? 59 2 rest
      return rest
    else none

def timeAfterDate? : List Char → Option (List Char)
  | [] => some []
  | c :: rest => if c = 'T' || c = 't' || c = ' ' then time? rest >>= offset? else none

/-- Whether a text is a date, a time of day, or a date with a time. -/
def isDateOrTime (cs : List Char) : Bool :=
  time? cs == some [] || (date? cs >>= timeAfterDate?) == some []

end MachineKeeper.Toml.Date
