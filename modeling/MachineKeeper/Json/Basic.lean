/-! JSON values, and writing them as text. Objects keep the order of their members. -/
namespace MachineKeeper

inductive Json
  | null
  | bool (b : Bool)
  | number (n : Nat)
  | string (s : String)
  | array (items : List Json)
  | object (members : List (String × Json))
deriving Repr, Inhabited

namespace Json

def hexDigit (n : Nat) : Char := if n < 10 then Char.ofNat (n + 48) else Char.ofNat (n + 87)

/-- A character inside a string. Control characters, the quote and the backslash are escaped, and
nothing else is. -/
def escapeChar (c : Char) : List Char :=
  if c = '"' then ['\\', '"']
  else if c = '\\' then ['\\', '\\']
  else if c = '\n' then ['\\', 'n']
  else if c = '\r' then ['\\', 'r']
  else if c = '\t' then ['\\', 't']
  else if c = '\x08' then ['\\', 'b']
  else if c = '\x0c' then ['\\', 'f']
  else if c.toNat < 32 then ['\\', 'u', '0', '0', hexDigit (c.toNat / 16), hexDigit (c.toNat % 16)]
  else [c]

def quote (s : String) : List Char := '"' :: s.toList.flatMap escapeChar ++ ['"']

mutual

def chars : Json → List Char
  | null => "null".toList
  | bool b => (if b then "true" else "false").toList
  | number n => (toString n).toList
  | string s => quote s
  | array items => '[' :: itemChars items
  | object members => '\x7b' :: memberChars members

def itemChars : List Json → List Char
  | [] => [']']
  | [item] => item.chars ++ [']']
  | item :: rest => item.chars ++ ',' :: itemChars rest

def memberChars : List (String × Json) → List Char
  | [] => ['\x7d']
  | [(name, value)] => quote name ++ ':' :: value.chars ++ ['\x7d']
  | (name, value) :: rest => quote name ++ ':' :: value.chars ++ ',' :: memberChars rest

end

def compact (j : Json) : String := String.ofList j.chars

mutual

/-- The characters of a value with a line for each part, which is indented by two blanks a level. -/
def prettyChars (indent : Nat) : Json → List Char
  | array (first :: rest) => '[' :: prettyItems indent (first :: rest)
  | object (first :: rest) => '\x7b' :: prettyMembers indent (first :: rest)
  | value => value.chars

def prettyItems (indent : Nat) : List Json → List Char
  | [] => '\n' :: List.replicate indent ' ' ++ [']']
  | [item] => '\n' :: List.replicate (indent + 2) ' ' ++ prettyChars (indent + 2) item ++
      '\n' :: List.replicate indent ' ' ++ [']']
  | item :: rest => '\n' :: List.replicate (indent + 2) ' ' ++ prettyChars (indent + 2) item ++
      ',' :: prettyItems indent rest

def prettyMembers (indent : Nat) : List (String × Json) → List Char
  | [] => '\n' :: List.replicate indent ' ' ++ ['\x7d']
  | [(name, value)] => '\n' :: List.replicate (indent + 2) ' ' ++ quote name ++
      ':' :: ' ' :: prettyChars (indent + 2) value ++ '\n' :: List.replicate indent ' ' ++ ['\x7d']
  | (name, value) :: rest => '\n' :: List.replicate (indent + 2) ' ' ++ quote name ++
      ':' :: ' ' :: prettyChars (indent + 2) value ++ ',' :: prettyMembers indent rest

end

def pretty (j : Json) : String := String.ofList (j.prettyChars 0)

def ofOption (value? : Option Json) : Json := value?.getD null

end Json

end MachineKeeper
