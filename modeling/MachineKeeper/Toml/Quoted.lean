import MachineKeeper.Decimal.Number

/-! Quoted text in TOML. Each of the four kinds is read from behind its opening quotes; the rest
begins behind the closing ones. -/
namespace MachineKeeper.Toml.Quoted

/-- Whether a character may stand for itself on a line: no control character other than the tab. -/
def isPlain (c : Char) : Bool := c = '\t' || (32 ≤ c.toNat && c.toNat ≠ 127)

def isSpace (c : Char) : Bool := c = ' ' || c = '\t'

def simpleEscape? (c : Char) : Option Char :=
  [('b', '\x08'), ('t', '\t'), ('n', '\n'), ('f', '\x0c'), ('r', '\r'), ('e', '\x1b'), ('"', '"'),
    ('\\', '\\')].lookup c

def charOf? (n : Nat) : Option Char := if n.isValidChar then some (Char.ofNat n) else none

def hexEscape? (digits : List Char) : Option Char := Decimal.ofDigits? 16 digits >>= charOf?

def escape? : List Char → Option (Char × List Char)
  | 'x' :: rest => (hexEscape? (rest.take 2)).bind fun c =>
    if rest.length < 2 then none else some (c, rest.drop 2)
  | 'u' :: rest => (hexEscape? (rest.take 4)).bind fun c =>
    if rest.length < 4 then none else some (c, rest.drop 4)
  | 'U' :: rest => (hexEscape? (rest.take 8)).bind fun c =>
    if rest.length < 8 then none else some (c, rest.drop 8)
  | c :: rest => (simpleEscape? c).map fun c => (c, rest)
  | [] => none

theorem length_lt_of_escape? {cs rest : List Char} {c : Char} (h : escape? cs = some (c, rest)) :
    rest.length < cs.length := by
  unfold escape? at h
  split at h
  · obtain ⟨_, _, h⟩ := Option.bind_eq_some_iff.1 h
    split at h <;> simp at h
    rw [← h.2, List.length_drop, List.length_cons]; omega
  · obtain ⟨_, _, h⟩ := Option.bind_eq_some_iff.1 h
    split at h <;> simp at h
    rw [← h.2, List.length_drop, List.length_cons]; omega
  · obtain ⟨_, _, h⟩ := Option.bind_eq_some_iff.1 h
    split at h <;> simp at h
    rw [← h.2, List.length_drop, List.length_cons]; omega
  · obtain ⟨_, _, h⟩ := Option.map_eq_some_iff.1 h
    simp at h
    simp [← h.2]
  · simp at h

def line? (cs acc : List Char) : Option (String × List Char) :=
  match cs with
  | [] => none
  | '"' :: rest => some (String.ofList acc.reverse, rest)
  | '\\' :: rest =>
    match h : escape? rest with
    | some (c, more) =>
      have := length_lt_of_escape? h
      line? more (c :: acc)
    | none => none
  | c :: rest => if isPlain c then line? rest (c :: acc) else none
termination_by cs.length

def literalLine? : List Char → List Char → Option (String × List Char)
  | [], _ => none
  | '\'' :: rest, acc => some (String.ofList acc.reverse, rest)
  | c :: rest, acc => if isPlain c then literalLine? rest (c :: acc) else none

def endsLine (cs : List Char) : Bool :=
  match cs.dropWhile isSpace with
  | '\n' :: _ => true
  | '\r' :: '\n' :: _ => true
  | _ => false

/-- Text over several lines, with escapes. A backslash at the end of a line takes with it the line
ending and all blanks up to the next other character; while it does, `skipping` is set. Up to two
quotes may stand before the closing three. -/
def lines? (skipping : Bool) (cs acc : List Char) : Option (String × List Char) :=
  match cs with
  | [] => none
  | '"' :: '"' :: '"' :: '"' :: '"' :: rest =>
    some (String.ofList ('"' :: '"' :: acc).reverse, rest)
  | '"' :: '"' :: '"' :: '"' :: rest => some (String.ofList ('"' :: acc).reverse, rest)
  | '"' :: '"' :: '"' :: rest => some (String.ofList acc.reverse, rest)
  | '\\' :: rest =>
    if endsLine rest then lines? true rest acc
    else
      match h : escape? rest with
      | some (c, more) =>
        have := length_lt_of_escape? h
        lines? false more (c :: acc)
      | none => none
  | '\r' :: '\n' :: rest =>
    if skipping then lines? true rest acc else lines? false rest ('\n' :: '\r' :: acc)
  | c :: rest =>
    if skipping && (isSpace c || c = '\n') then lines? true rest acc
    else if isPlain c || c = '\n' then lines? false rest (c :: acc)
    else none
termination_by cs.length

def literalLines? : List Char → List Char → Option (String × List Char)
  | [], _ => none
  | '\'' :: '\'' :: '\'' :: '\'' :: '\'' :: rest, acc =>
    some (String.ofList ('\'' :: '\'' :: acc).reverse, rest)
  | '\'' :: '\'' :: '\'' :: '\'' :: rest, acc => some (String.ofList ('\'' :: acc).reverse, rest)
  | '\'' :: '\'' :: '\'' :: rest, acc => some (String.ofList acc.reverse, rest)
  | '\r' :: '\n' :: rest, acc => literalLines? rest ('\n' :: '\r' :: acc)
  | c :: rest, acc => if isPlain c || c = '\n' then literalLines? rest (c :: acc) else none

/-- A line ending right behind opening quotes does not belong to the text. -/
def dropLineEnd : List Char → List Char
  | '\n' :: rest => rest
  | '\r' :: '\n' :: rest => rest
  | cs => cs

def short? : List Char → Option (String × List Char)
  | '"' :: rest => line? rest []
  | '\'' :: rest => literalLine? rest []
  | _ => none

def any? : List Char → Option (String × List Char)
  | '"' :: '"' :: '"' :: rest => lines? false (dropLineEnd rest) []
  | '\'' :: '\'' :: '\'' :: rest => literalLines? (dropLineEnd rest) []
  | cs => short? cs

end MachineKeeper.Toml.Quoted
