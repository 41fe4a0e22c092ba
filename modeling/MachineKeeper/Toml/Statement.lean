import MachineKeeper.Toml.Quoted
import MachineKeeper.Toml.Scalar
import MachineKeeper.Toml.Tree

/-! The statements of a TOML text: headers, and values under keys. Readers take characters off the
front of the text and hand on the rest, or nothing where the text is not well formed. -/
namespace MachineKeeper.Toml

inductive Statement
  | value (key : Key) (value : Value)
  | table (key : Key)
  /-- A header that may come again. -/
  | listed (key : Key)

open Quoted (isSpace isPlain)

def skipSpaces (cs : List Char) : List Char := cs.dropWhile isSpace

def skipLines? (inComment : Bool) : List Char → Option (List Char)
  | [] => some []
  | '\n' :: rest => skipLines? false rest
  | '\r' :: '\n' :: rest => skipLines? false rest
  | c :: rest =>
    if inComment then (if isPlain c then skipLines? true rest else none)
    else if isSpace c then skipLines? false rest
    else if c = '#' then skipLines? true rest
    else some (c :: rest)

def endLine? (cs : List Char) : Option (List Char) :=
  match skipSpaces cs with
  | [] => some []
  | '\n' :: rest => some rest
  | '\r' :: '\n' :: rest => some rest
  | '#' :: rest => skipLines? true rest
  | _ => none

def isDelimiter (c : Char) : Bool :=
  isSpace c || c ∈ ['\n', '\r', '#', '"', '\'', '=', ',', '[', ']', '\x7b', '\x7d']

def isKeyChar (c : Char) : Bool := c.isAlphanum || c = '_' || c = '-'

def keyPart? (cs : List Char) : Option (String × List Char) :=
  match cs with
  | [] => none
  | c :: _ =>
    if c = '"' || c = '\'' then Quoted.short? cs
    else
      match cs.span isKeyChar with
      | ([], _) => none
      | (part, rest) => some (String.ofList part, rest)

/-- The most parts that a key may have before its last, and the most brackets and braces that may
be open at once. -/
def depthLimit : Nat := 80

/-- Takes a key off the front, with the blanks around its parts. The parts before are in reverse. -/
def keyAfter? : Nat → List String → List Char → Option (Key × List Char)
  | 0, _, _ => none
  | room + 1, before, cs => do
    let (part, rest) ← keyPart? (skipSpaces cs)
    match skipSpaces rest with
    | '.' :: rest => keyAfter? room (part :: before) rest
    | rest => return (⟨before.reverse, part⟩, rest)

def key? (cs : List Char) : Option (Key × List Char) := keyAfter? (depthLimit + 1) [] cs

def keyOfValue? (cs : List Char) : Option (Key × List Char) := do
  match ← key? cs with
  | (key, '=' :: rest) => return (key, skipSpaces rest)
  | _ => none

/-- Takes an unquoted value off the front. A date and a time may have a blank between them. -/
def scalar? (cs : List Char) : Option (Document.Node × List Char) :=
  let (front, rest) := cs.span fun c => !isDelimiter c
  let spaced : Option (List Char × List Char) := match rest with
    | ' ' :: more =>
      match more.span fun c => !isDelimiter c with
      | ([], _) => none
      | (back, rest) => some (front ++ ' ' :: back, rest)
    | _ => none
  let (text, rest) := spaced.getD (front, rest)
  (Scalar.ofChars? text).map fun node => (node, rest)

mutual

/-- Takes a value off the front, in which brackets are nested no deeper than `room` allows. -/
def value? : Nat → Nat → List Char → Option (Value × List Char)
  | 0, _, _ => none
  | fuel + 1, room, cs =>
    match cs with
    | '[' :: rest => if room = 0 then none else items? fuel (room - 1) [] rest
    | '\x7b' :: rest => if room = 0 then none else members? fuel (room - 1) (.empty .inline) rest
    | c :: _ =>
      if c = '"' || c = '\'' then
        (Quoted.any? cs).map fun (text, rest) => (.leaf (.leaf (.ofText text)), rest)
      else (scalar? cs).map fun (node, rest) => (.leaf node, rest)
    | [] => none

def items? : Nat → Nat → List Value → List Char → Option (Value × List Char)
  | 0, _, _, _ => none
  | fuel + 1, room, before, cs => do
    match ← skipLines? false cs with
    | ']' :: rest => return (.array before.reverse, rest)
    | cs =>
      let (item, rest) ← value? fuel room cs
      match ← skipLines? false rest with
      | ']' :: rest => return (.array (item :: before).reverse, rest)
      | ',' :: rest => items? fuel room (item :: before) rest
      | _ => none

def members? : Nat → Nat → Table → List Char → Option (Value × List Char)
  | 0, _, _, _ => none
  | fuel + 1, room, table, cs => do
    match ← skipLines? false cs with
    | '\x7d' :: rest => return (table.toValue, rest)
    | cs =>
      let (key, rest) ← keyOfValue? cs
      let (value, rest) ← value? fuel room rest
      let table ← table.addValue? key value
      match ← skipLines? false rest with
      | '\x7d' :: rest => return (table.toValue, rest)
      | ',' :: rest => members? fuel room table rest
      | _ => none

end

def header? : List Char → Option (Statement × List Char)
  | '[' :: rest => do
    match ← key? rest with
    | (key, ']' :: ']' :: rest) => return (.listed key, rest)
    | _ => none
  | cs => do
    match ← key? cs with
    | (key, ']' :: rest) => return (.table key, rest)
    | _ => none

def statement? (cs : List Char) : Option (Statement × List Char) :=
  match cs with
  | '[' :: rest => header? rest
  | cs => do
    let (key, rest) ← keyOfValue? cs
    let (value, rest) ← value? (2 * cs.length) depthLimit rest
    return (.value key value, rest)

def statements? : Nat → List Char → Option (List Statement)
  | 0, _ => none
  | fuel + 1, cs => do
    match ← skipLines? false cs with
    | [] => return []
    | cs =>
      let (statement, rest) ← statement? cs
      return statement :: (← statements? fuel (← endLine? rest))

/-- The tables of a text as far as it is read, and the header under which it goes on. -/
structure Progress where
  root : Table
  /-- The parts of the header, none at the start. -/
  current : List String

namespace Progress

def initial : Progress := ⟨.empty .header, []⟩

def add? (p : Progress) : Statement → Option Progress
  | .value key value =>
    (p.root.changeAt? false (·.addValue? key value) p.current).map ({ p with root := · })
  | .table key => (p.root.addTable? key).map (⟨·, key.parents ++ [key.last]⟩)
  | .listed key => (p.root.addListed? key).map (⟨·, key.parents ++ [key.last]⟩)

end Progress

end MachineKeeper.Toml
