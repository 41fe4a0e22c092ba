import MachineKeeper.Document.Node

/-! The tables of a TOML text. Each table remembers how it came about, because that decides what
may still be added to it. -/
namespace MachineKeeper.Toml

inductive Origin
  | header
  /-- On the way to a table with a header. -/
  | implied
  /-- On the way to a value with a dotted key. -/
  | dotted
  /-- Written between braces, complete at once. -/
  | inline
deriving DecidableEq, Repr

inductive Value
  | leaf (node : Document.Node)
  | array (items : List Value)
  /-- Tables of one name, each under a header of its own. The last comes first. -/
  | tables (items : List (Origin × List (String × Value)))
  /-- Entries stand in the order of their keys. -/
  | table (origin : Origin) (entries : List (String × Value))
deriving Inhabited

structure Table where
  origin : Origin
  entries : List (String × Value)

/-- A key with what stands before its last dot. -/
structure Key where
  parents : List String
  last : String
deriving DecidableEq, Repr

namespace Table

def empty (origin : Origin) : Table := ⟨origin, []⟩

def toValue (t : Table) : Value := .table t.origin t.entries

def find? (t : Table) (key : String) : Option Value := t.entries.lookup key

def put (key : String) (value : Value) (t : Table) : Table :=
  let (before, rest) := t.entries.span fun (other, _) => other < key
  let after := match rest with
    | (other, _) :: more => if other = key then more else rest
    | [] => []
  { t with entries := before ++ (key, value) :: after }

def putNew? (key : String) (value : Value) (t : Table) : Option Table :=
  if (t.find? key).isSome then none else some (t.put key value)

/-- Changes the table at the end of a path, and makes those that are not there. A dotted key does
not reach into tables with a header; a complete table is not reached into at all. -/
def changeAt? (dotted : Bool) (change : Table → Option Table) : List String → Table → Option Table
  | [], t => change t
  | key :: path, t =>
    match t.find? key with
    | none => do
      let made ← changeAt? dotted change path (.empty (if dotted then .dotted else .implied))
      return t.put key made.toValue
    | some (.table origin entries) =>
      if origin = .inline || (dotted && origin = .header) then none
      else do
        let changed ← changeAt? dotted change path ⟨origin, entries⟩
        return t.put key changed.toValue
    | some (.tables ((origin, entries) :: earlier)) => do
      let changed ← changeAt? dotted change path ⟨origin, entries⟩
      return t.put key (.tables ((changed.origin, changed.entries) :: earlier))
    | some _ => none

/-- Adds a value. All values with the same front of a dotted key must be added with dotted keys. -/
def addValue? (key : Key) (value : Value) : Table → Option Table :=
  changeAt? (!key.parents.isEmpty) (fun t =>
    if key.parents.isEmpty || t.origin = .dotted then t.putNew? key.last value
    else none) key.parents

/-- Adds a table under a header, which may have been implied before. -/
def addTable? (key : Key) : Table → Option Table :=
  changeAt? false (fun t =>
    match t.find? key.last with
    | none => some (t.put key.last (.table .header []))
    | some (.table .implied entries) => some (t.put key.last (.table .header entries))
    | some _ => none) key.parents

def addListed? (key : Key) : Table → Option Table :=
  changeAt? false (fun t =>
    match t.find? key.last with
    | none => some (t.put key.last (.tables [(.header, [])]))
    | some (.tables earlier) => some (t.put key.last (.tables ((.header, []) :: earlier)))
    | some _ => none) key.parents

end Table

mutual

def Value.node : Value → Document.Node
  | .leaf node => node
  | .array items => .list (itemNodes items) true
  | .tables items => .list (tableNodes items).reverse true
  | .table _ entries => .record (entryNodes entries) true

def itemNodes : List Value → List Document.Node
  | [] => []
  | value :: rest => value.node :: itemNodes rest

def tableNodes : List (Origin × List (String × Value)) → List Document.Node
  | [] => []
  | (_, entries) :: rest => .record (entryNodes entries) true :: tableNodes rest

def entryNodes : List (String × Value) → List (Document.Node × Document.Node)
  | [] => []
  | (key, value) :: rest => (.leaf (.ofText key), value.node) :: entryNodes rest

end

end MachineKeeper.Toml
