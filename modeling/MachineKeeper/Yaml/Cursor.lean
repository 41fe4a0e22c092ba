/-! A place in a YAML text, by line and column. -/
namespace MachineKeeper.Yaml

structure Cursor where
  rest : List Char
  /-- Characters before. -/
  index : Nat
  /-- Line ends before. -/
  line : Nat
  /-- Characters since the last line end. -/
  column : Nat
deriving Repr

def isSpace (c : Char) : Bool := c = ' ' || c = '\t'

def isBreak (c : Char) : Bool :=
  c = '\n' || c = '\r' || c = '\u0085' || c = '\u2028' || c = '\u2029'

/-- Whether words end here: at a blank, at a line end and at the end of the text. -/
def endsWord : List Char → Bool
  | [] => true
  | c :: _ => isSpace c || isBreak c

def isNameChar (c : Char) : Bool := c.isAlphanum || c = '_' || c = '-'

/-- Whether a text goes on with a line of three equal marks, as between documents. -/
def startsMark (mark : Char) : List Char → Bool
  | a :: b :: c :: rest => a = mark && b = mark && c = mark && endsWord rest
  | _ => false

namespace Cursor

def start (text : List Char) : Cursor := ⟨text, 0, 0, 0⟩

/-- Goes on by `count` characters, none of which ends a line, to where `rest` begins. -/
def jump (c : Cursor) (count : Nat) (rest : List Char) : Cursor :=
  { c with rest, index := c.index + count, column := c.column + count }

def skip (c : Cursor) (count : Nat) : Cursor := c.jump count (c.rest.drop count)

def span (c : Cursor) (test : Char → Bool) : List Char × Cursor :=
  let (run, rest) := c.rest.span test
  (run, c.jump run.length rest)

def next? (c : Cursor) : Option Char := c.rest.head?

/-- Takes a line end, which is read as the returned character. -/
def takeBreak? (c : Cursor) : Option (Char × Cursor) :=
  let below (count : Nat) (rest : List Char) : Cursor := ⟨rest, c.index + count, c.line + 1, 0⟩
  match c.rest with
  | '\r' :: '\n' :: rest => some ('\n', below 2 rest)
  | b :: rest =>
    if b = '\u2028' || b = '\u2029' then some (b, below 1 rest)
    else if isBreak b then some ('\n', below 1 rest)
    else none
  | [] => none

def skipComment (c : Cursor) : Cursor :=
  if c.next? = some '#' then (c.span fun ch => !isBreak ch).2 else c

/-- Skips the rest of a line with nothing but blanks and a comment on it, and its end. -/
def endLine? (c : Cursor) : Option Cursor :=
  let c := (c.span isSpace).2.skipComment
  match c.takeBreak? with
  | some (_, c) => some c
  | none => if c.rest.isEmpty then some c else none

def atDivider (c : Cursor) : Bool :=
  c.column = 0 && (startsMark '-' c.rest || startsMark '.' c.rest)

end Cursor

end MachineKeeper.Yaml
