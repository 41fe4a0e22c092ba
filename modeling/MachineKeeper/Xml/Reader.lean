import MachineKeeper.Text.Split

/-! Reading XML in which names are of letters, the values of attributes stand between single quotes, and there are
no references but those to the five predefined entities. -/
namespace MachineKeeper.Xml

structure Attribute where
  name : String
  value : String
deriving DecidableEq, Repr

inductive Tag
  | opening (name : String) (attributes : List Attribute)
  | empty (name : String) (attributes : List Attribute)
  | closing (name : String)
deriving DecidableEq, Repr

structure Piece where
  tag : Tag
  text : String
deriving DecidableEq, Repr

def resolve? : List Char → Option (List Char)
  | [] => some []
  | '&' :: 'a' :: 'm' :: 'p' :: ';' :: rest => ('&' :: ·) <$> resolve? rest
  | '&' :: 'l' :: 't' :: ';' :: rest => ('<' :: ·) <$> resolve? rest
  | '&' :: 'g' :: 't' :: ';' :: rest => ('>' :: ·) <$> resolve? rest
  | '&' :: 'a' :: 'p' :: 'o' :: 's' :: ';' :: rest => ('\'' :: ·) <$> resolve? rest
  | '&' :: 'q' :: 'u' :: 'o' :: 't' :: ';' :: rest => ('"' :: ·) <$> resolve? rest
  | '&' :: _ => none
  | c :: rest => (c :: ·) <$> resolve? rest

def text? (cs : List Char) : Option String := String.ofList <$> resolve? cs

def isName (text : String) : Bool := text ≠ "" && text.toList.all Char.isAlpha

def name? (cs : List Char) : Option String :=
  let name := String.ofList cs
  if isName name then some name else none

/-- What is in front of the quote that a value begins with: a blank, the attribute's name and an equality sign. -/
def key? : List Char → Option String
  | ' ' :: rest =>
    match splitFirst (· == '=') rest with
    | (name, some []) => name? name
    | _ => none
  | _ => none

/-- The attributes of a tag that is cut at its quotes, and whether a slash ends it. Behind what comes `first` there
are a value and what follows it, in turn. -/
def attributes? (first : List Char) : List (List Char) → Option (List Attribute × Bool)
  | [] => if first = [] then some ([], false) else if first = ['/'] then some ([], true) else none
  | [_] => none
  | value :: next :: rest => do
    let name ← key? first
    let value ← text? value
    let (later, ended) ← attributes? next rest
    return (⟨name, value⟩ :: later, ended)

def tag? : List Char → Option Tag
  | '/' :: name => Tag.closing <$> name? name
  | cs =>
    match splitAll '\'' (cs.dropWhile Char.isAlpha) with
    | [] => none
    | first :: rest => do
      let name ← name? (cs.takeWhile Char.isAlpha)
      let (attributes, ended) ← attributes? first rest
      return if ended then .empty name attributes else .opening name attributes

/-- Splits behind the first `>` that does not stand between quotes. -/
def tagEnd? (quoted : Bool) : List Char → Option (List Char × List Char)
  | [] => none
  | c :: rest =>
    if c = '>' && !quoted then some ([], rest)
    else do
      let (front, back) ← tagEnd? (quoted != (c == '\'')) rest
      return (c :: front, back)

def piece? (cs : List Char) : Option Piece := do
  let (tag, text) ← tagEnd? false cs
  let tag ← tag? tag
  let text ← text? text
  return ⟨tag, text⟩

/-- The pieces of a document. The sign `<` begins a tag wherever it stands. -/
def read? (xml : String) : Option (List Piece) :=
  match splitAll '<' xml.toList with
  | [] :: pieces => pieces.mapM piece?
  | _ => none

def texts (name : String) (pieces : List Piece) : List String :=
  pieces.filterMap fun
    | ⟨.opening other _, text⟩ => if other = name then some text else none
    | _ => none

def attributes (name : String) (pieces : List Piece) : List (List Attribute) :=
  pieces.filterMap fun
    | ⟨.opening other attributes, _⟩ => if other = name then some attributes else none
    | ⟨.empty other attributes, _⟩ => if other = name then some attributes else none
    | _ => none

/-- A tag without the values of its attributes. -/
def Tag.outline : Tag → Tag
  | .opening name attributes => .opening name (attributes.map fun a => ⟨a.name, ""⟩)
  | .empty name attributes => .empty name (attributes.map fun a => ⟨a.name, ""⟩)
  | .closing name => .closing name

def outline (pieces : List Piece) : List Tag := pieces.map fun piece => piece.tag.outline

end MachineKeeper.Xml
