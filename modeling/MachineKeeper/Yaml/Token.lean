import MachineKeeper.Bytes
import MachineKeeper.Yaml.Scalar

/-! The tokens of a YAML text. A word that stands where a key may stand is held back until it is
known whether a colon follows; a fault of the text that is met before takes it away together with
all that is held back behind it. -/
namespace MachineKeeper.Yaml

inductive Token
  | version (major minor : Nat)
  | tagHandle (handle replacement : String)
  | documentStart
  | documentEnd
  | textEnd
  | blockSequence
  | blockMapping
  | blockEnd
  | flowSequence
  | flowSequenceEnd
  | flowMapping
  | flowMappingEnd
  /-- A dash. -/
  | item
  | comma
  | key
  | value
  | alias (name : String)
  | anchor (name : String)
  | tag (handle suffix : String)
  | scalar (text : String) (style : Style)
deriving DecidableEq, Repr

structure PossibleKey where
  /-- Whether nothing else will do there. -/
  required : Bool
  /-- The number of the token that begins there. -/
  number : Nat
  index : Nat
  line : Nat
  column : Nat
deriving DecidableEq, Repr

structure Scan where
  cursor : Cursor
  /-- Tokens that are held back, in order. -/
  held : List Token
  /-- How many tokens have been handed on. -/
  handed : Nat
  /-- The least column inside the innermost block collection, 0 outside of all. -/
  margin : Nat
  /-- The margins of the collections around. -/
  outer : List Nat
  keyAllowed : Bool
  /-- Where a key may have begun, in the innermost brackets first and outside of all last. -/
  keys : List (Option PossibleKey)
  ended : Bool

namespace Scan

def start (text : List Char) : Scan := ⟨.start text, [], 0, 0, [], true, [none], false⟩

def inFlow (s : Scan) : Bool := s.keys.length > 1

def add (token : Token) (s : Scan) : Scan := { s with held := s.held ++ [token] }

def addAt (number : Nat) (token : Token) (s : Scan) : Scan :=
  { s with held := s.held.insertIdx (number - s.handed) token }

/-- Whether a key that began there cannot end here: keys end on their line, and soon. -/
def isStale (c : Cursor) (key : PossibleKey) : Bool :=
  key.line < c.line || key.index + 1024 < c.index

def dropStale? (s : Scan) : Option Scan := do
  let stale (key? : Option PossibleKey) (test : PossibleKey → Bool) : Bool :=
    key?.any fun key => isStale s.cursor key && test key
  if s.keys.any (stale · PossibleKey.required) then none
  else
    some { s with keys := s.keys.map fun key? => if stale key? fun _ => true then none else key? }

/-- Sets the place in the innermost brackets; one that is required must not be given up. -/
def setKey? (key? : Option PossibleKey) (s : Scan) : Option Scan :=
  match s.keys with
  | [] => some s
  | current :: around =>
    if current.any PossibleKey.required then none else some { s with keys := key? :: around }

def giveUpKey? (s : Scan) : Option Scan := s.setKey? none

def noteKey? (s : Scan) : Option Scan :=
  let c := s.cursor
  let required := !s.inFlow && s.margin = c.column + 1
  if s.keyAllowed then
    s.setKey? (some ⟨required, s.handed + s.held.length, c.index, c.line, c.column⟩)
  else some s

def indent (column : Nat) (place : Token → Scan → Scan) (token : Token) (s : Scan) : Scan :=
  if !s.inFlow && s.margin ≤ column then
    place token { s with margin := column + 1, outer := s.margin :: s.outer }
  else s

def endBlocks (margin : Nat) : Nat → List Nat → List Token → List Token × Nat × List Nat
  | current, next :: outer, held =>
    if margin < current then endBlocks margin next outer (held ++ [.blockEnd])
    else (held, current, next :: outer)
  | current, [], held => (held, current, [])

def outdent (margin : Nat) (s : Scan) : Scan :=
  if s.inFlow then s
  else
    let (held, margin, outer) := endBlocks margin s.margin s.outer s.held
    { s with held, margin, outer }

/-- Goes to where the next token begins. In front of a possible key outside brackets tabs are no
blanks. -/
def toNext : Nat → Scan → Scan
  | 0, s => s
  | fuel + 1, s =>
    let c := s.cursor
    let c := if c.column = 0 && c.next? = some '\ufeff' then c.skip 1 else c
    let tabs := s.inFlow || !s.keyAllowed
    let c := (c.span fun ch => ch = ' ' || (tabs && ch = '\t')).2.skipComment
    match c.takeBreak? with
    | some (_, c) => toNext fuel { s with cursor := c, keyAllowed := s.keyAllowed || !s.inFlow }
    | none => { s with cursor := c }

def takeMark (count : Nat) (token : Token) (s : Scan) : Scan :=
  { s with cursor := s.cursor.skip count }.add token

def takeEnd? (s : Scan) : Option Scan := do
  let s ← (s.outdent 0).giveUpKey?
  return { s with keyAllowed := false, ended := true }.add .textEnd

def takeDivider? (token : Token) (s : Scan) : Option Scan := do
  let s ← (s.outdent 0).giveUpKey?
  return { s with keyAllowed := false }.takeMark 3 token

def takeOpening? (token : Token) (s : Scan) : Option Scan := do
  let s ← s.noteKey?
  return { s with keys := none :: s.keys, keyAllowed := true }.takeMark 1 token

def takeClosing? (token : Token) (s : Scan) : Option Scan := do
  let s ← s.giveUpKey?
  let keys := if s.inFlow then s.keys.tail else s.keys
  return { s with keys, keyAllowed := false }.takeMark 1 token

def takeComma? (s : Scan) : Option Scan := do
  let s ← s.giveUpKey?
  return { s with keyAllowed := true }.takeMark 1 .comma

def takeItem? (s : Scan) : Option Scan := do
  if !s.inFlow && !s.keyAllowed then none
  let s ← (s.indent s.cursor.column add .blockSequence).giveUpKey?
  return { s with keyAllowed := true }.takeMark 1 .item

def takeKey? (s : Scan) : Option Scan := do
  if !s.inFlow && !s.keyAllowed then none
  let s ← (s.indent s.cursor.column add .blockMapping).giveUpKey?
  return { s with keyAllowed := !s.inFlow }.takeMark 1 .key

/-- Takes the colon of a value. The key may have begun before without a mark. -/
def takeValue? (s : Scan) : Option Scan :=
  match s.keys with
  | some key :: around =>
    let s := { s.addAt key.number .key with keys := none :: around, keyAllowed := false }
    some ((s.indent key.column (addAt key.number) .blockMapping).takeMark 1 .value)
  | _ =>
    if !s.inFlow && !s.keyAllowed then none
    else
      let s := s.indent s.cursor.column add .blockMapping
      some ({ s with keyAllowed := !s.inFlow }.takeMark 1 .value)

def takeName? (token : String → Token) (s : Scan) : Option Scan := do
  let s ← s.noteKey?
  let (name, c) := (s.cursor.skip 1).span isNameChar
  let ends := endsWord c.rest || c.next?.any (· ∈ ['?', ':', ',', ']', '\x7d', '%', '@', '\x60'])
  if name.isEmpty || !ends then none
  return { s with cursor := c, keyAllowed := false }.add (token (String.ofList name))

def takeScalar? (style : Style) (take? : Cursor → Option Scalar.Taken) (s : Scan) :
    Option Scan := do
  let s ← s.noteKey?
  let taken ← take? s.cursor
  return { s with cursor := taken.cursor, keyAllowed := taken.below }.add
    (.scalar (String.ofList taken.text) style)

def takeBlock? (folded : Bool) (s : Scan) : Option Scan := do
  let s ← s.giveUpKey?
  let taken ← Scalar.block? folded s.margin s.cursor
  return { s with cursor := taken.cursor, keyAllowed := true }.add
    (.scalar (String.ofList taken.text) (if folded then .folded else .literal))

def isTagChar (c : Char) : Bool := isNameChar c ||
  c ∈ [';', '/', '?', ':', '@', '&', '=', '+', '$', '.', '!', '~', '*', '\'', '(', ')']

def percentBytes : List Char → Bytes × List Char
  | '%' :: a :: b :: rest =>
    match Decimal.ofDigits? 16 [a, b] with
    | some n =>
      let (bytes, rest) := percentBytes rest
      (n.toUInt8 :: bytes, rest)
    | none => ([], '%' :: a :: b :: rest)
  | rest => ([], rest)

def tagText? (verbatim : Bool) : Nat → Cursor → Option (List Char × Cursor)
  | 0, _ => none
  | fuel + 1, c =>
    let (run, c) := c.span fun ch => isTagChar ch || (verbatim && ch ∈ [',', '[', ']'])
    if c.next? = some '%' then do
      let (bytes, rest) := percentBytes c.rest
      let text ← ofUtf8? bytes
      if bytes.isEmpty then none
      let (more, c) ← tagText? verbatim fuel (c.jump (3 * bytes.length) rest)
      return (run ++ text.toList ++ more, c)
    else some (run, c)

/-- Takes a tag handle: an exclamation mark, and a name with another one if that is there. -/
def tagHandle? (c : Cursor) : Option (List Char × Cursor) :=
  if c.next? = some '!' then
    let (name, c) := (c.skip 1).span isNameChar
    some (if c.next? = some '!' then ('!' :: name ++ ['!'], c.skip 1) else ('!' :: name, c))
  else none

def verbatimTag? (c : Cursor) : Option (Token × Cursor) := do
  let c := c.skip 2
  let (text, c) ← tagText? true (c.rest.length + 1) c
  if text.isEmpty || c.next? ≠ some '>' then none
  return (.tag "" (String.ofList text), c.skip 1)

def shortTag? (c : Cursor) : Option (Token × Cursor) := do
  let (handle, c) ← tagHandle? c
  let (text, c) ← tagText? false (c.rest.length + 1) c
  if handle.length > 1 && handle.getLast? = some '!' then
    if text.isEmpty then none
    return (.tag (String.ofList handle) (String.ofList text), c)
  else
    let suffix := String.ofList (handle.drop 1 ++ text)
    return (if suffix = "" then .tag "" "!" else .tag "!" suffix, c)

def takeTag? (s : Scan) : Option Scan := do
  let s ← s.noteKey?
  let (token, c) ←
    if (s.cursor.skip 1).next? = some '<' then verbatimTag? s.cursor else shortTag? s.cursor
  let ends := endsWord c.rest || (s.inFlow && c.next? = some ',')
  if ends then some ({ s with cursor := c, keyAllowed := false }.add token) else none

def versionPart? (c : Cursor) : Option (Nat × Cursor) :=
  let (digits, c) := c.span Char.isDigit
  if digits.length ≤ 9 then (Decimal.ofDigits? 10 digits).map (·, c) else none

def versionDirective? (c : Cursor) : Option (Token × Cursor) := do
  let (major, c) ← versionPart? (c.span isSpace).2
  if c.next? ≠ some '.' then none
  let (minor, c) ← versionPart? (c.skip 1)
  return (.version major minor, c)

def tagDirective? (c : Cursor) : Option (Token × Cursor) := do
  let (handle, c) ← tagHandle? (c.span isSpace).2
  if handle ≠ ['!'] && handle.getLast? ≠ some '!' then none
  if !c.next?.any isSpace then none
  let c := (c.span isSpace).2
  let (text, c) ← tagText? true (c.rest.length + 1) c
  if text.isEmpty || !endsWord c.rest then none
  return (.tagHandle (String.ofList handle) (String.ofList text), c)

def takeDirective? (s : Scan) : Option Scan := do
  let s ← (s.outdent 0).giveUpKey?
  let (name, c) := (s.cursor.skip 1).span isNameChar
  if !endsWord c.rest then none
  let (token, c) ←
    if name = ['Y', 'A', 'M', 'L'] then versionDirective? c
    else if name = ['T', 'A', 'G'] then tagDirective? c
    else none
  return { s with cursor := ← c.endLine?, keyAllowed := false }.add token

def isIndicator (c : Char) : Bool :=
  c ∈ ['-', '?', ':', ',', '[', ']', '\x7b', '\x7d', '#', '&', '*', '!', '|', '>', '\'', '"', '%', '@',
    '\x60']

def startsPlain (inFlow : Bool) : List Char → Bool
  | [] => false
  | c :: rest =>
    !(isSpace c || isBreak c || isIndicator c) ||
      (c = '-' && !rest.head?.any isSpace) ||
      (!inFlow && (c = '?' || c = ':') && !endsWord rest)

def takeToken? (s : Scan) : Option Scan :=
  let c := s.cursor
  match c.rest with
  | [] => s.takeEnd?
  | ch :: rest =>
    let marked := s.inFlow || endsWord rest
    if c.column = 0 && ch = '%' then s.takeDirective?
    else if c.column = 0 && startsMark '-' c.rest then s.takeDivider? .documentStart
    else if c.column = 0 && startsMark '.' c.rest then s.takeDivider? .documentEnd
    else if ch = '[' then s.takeOpening? .flowSequence
    else if ch = '\x7b' then s.takeOpening? .flowMapping
    else if ch = ']' then s.takeClosing? .flowSequenceEnd
    else if ch = '\x7d' then s.takeClosing? .flowMappingEnd
    else if ch = ',' then s.takeComma?
    else if ch = '-' && endsWord rest then s.takeItem?
    else if ch = '?' && marked then s.takeKey?
    else if ch = ':' && marked then s.takeValue?
    else if ch = '*' then s.takeName? .alias
    else if ch = '&' then s.takeName? .anchor
    else if ch = '!' then s.takeTag?
    else if ch = '|' && !s.inFlow then s.takeBlock? false
    else if ch = '>' && !s.inFlow then s.takeBlock? true
    else if ch = '\'' then s.takeScalar? .quoted (Scalar.quoted? false)
    else if ch = '"' then s.takeScalar? .quoted (Scalar.quoted? true)
    else if startsPlain s.inFlow c.rest then
      s.takeScalar? .plain (Scalar.plain? s.inFlow s.margin)
    else none

def advance? (s : Scan) : Option Scan := do
  let s ← (s.toNext (s.cursor.rest.length + 1)).dropStale?
  let c := s.cursor
  -- The end of the text counts as a line of its own.
  (s.outdent (if c.rest.isEmpty then 0 else c.column + 1)).takeToken?

/-- Hands on the tokens up to the first at which a key may have begun. -/
def release (s : Scan) : List Token × Scan :=
  let waiting := s.keys.filterMap fun key? => key?.map fun key => key.number - s.handed
  let count := waiting.foldl min s.held.length
  (s.held.take count, { s with held := s.held.drop count, handed := s.handed + count })

def tokens : Nat → Scan → List Token
  | 0, _ => []
  | fuel + 1, s =>
    match s.dropStale? with
    | none => []
    | some s =>
      let (ready, s) := s.release
      if s.ended then ready
      else
        match s.advance? with
        | none => ready
        | some s => ready ++ tokens fuel s

end Scan

def isAllowed (c : Char) : Bool :=
  let n := c.toNat
  c = '\t' || c = '\n' || c = '\r' || (0x20 ≤ n && n ≤ 0x7E) || n = 0x85 ||
    (0xA0 ≤ n && n ≤ 0xFFFD) || 0x10000 ≤ n

/-- The tokens of a text up to where it is not well formed; at the end of one that is well formed
stands `textEnd`. -/
def Token.ofText (text : String) : List Token :=
  let cs := text.toList
  if cs.all isAllowed then (Scan.start cs).tokens (cs.length + 2) else []

end MachineKeeper.Yaml
