import MachineKeeper.Text.Quoted
import MachineKeeper.Document.Mismatch

/-! The content of a structured text, whatever its format, as far as the text is well formed.
Whoever takes a document apart in order meets the first fault of the text where it stands, behind
everything that comes before it. -/
namespace MachineKeeper.Document

/-- A value without parts, by the readings that its format allows. -/
structure Leaf where
  shown : String
  text? : Option String := none
  integer? : Option Int := none
  flag? : Option Bool := none
  /-- Whether it stands for an optional value that is not there. -/
  absent : Bool := false
  /-- Whether it stands for a record without fields. -/
  emptyRecord : Bool := false
  /-- What is wrong with it whatever is expected, where it is not what its tag says. -/
  fault? : Option Mismatch := none
  /-- Why it cannot be said whether an optional value is there. -/
  absenceFault? : Option Mismatch := none
deriving DecidableEq, Repr

namespace Leaf

open Mismatch (quoted)

def ofText (text : String) : Leaf := { shown := "string " ++ quotedText text, text? := some text }

def ofFlag (b : Bool) : Leaf :=
  { shown := "boolean " ++ quoted (if b then "true" else "false"), flag? := some b }

def ofInteger (i : Int) : Leaf :=
  { shown := "integer " ++ quoted (toString i), integer? := some i }

/-- An integer that takes more than 64 bits, which no field of a machine does. -/
def ofWideInteger (i : Int) (width : String) : Leaf :=
  { shown := "integer " ++ quoted (toString i) ++ " as " ++ width }

def ofFraction (text : String) : Leaf := { shown := "floating point " ++ quoted text }

def ofNothing (shown : String) : Leaf := { shown, absent := true }

end Leaf

inductive Node
  | leaf (leaf : Leaf)
  /-- `closed` says whether the text goes on well formed to the end of the list. -/
  | list (items : List Node) (closed : Bool)
  | record (entries : List (Node × Node)) (closed : Bool)
  /-- Stands for a node that is written elsewhere, by its number. -/
  | reference (number : Nat)
  /-- Has its place in the text, but no value: it can be passed over and nothing else. -/
  | unreadable
  | broken
deriving Repr, Inhabited

namespace Node

/-- How a message names a node; only what is well formed as a whole has a name. -/
def shown? : Node → Option String
  | leaf l => some l.shown
  | list _ _ => some "sequence"
  | record _ _ => some "map"
  | reference _ | unreadable | broken => none

mutual

/-- Whether the text is well formed from the start of a node to its end. -/
def wellFormed : Node → Bool
  | leaf _ => true
  | reference _ => true
  | list items closed => allWellFormed items && closed
  | record entries closed => entriesWellFormed entries && closed
  | unreadable => true
  | broken => false

def allWellFormed : List Node → Bool
  | [] => true
  | n :: rest => n.wellFormed && allWellFormed rest

def entriesWellFormed : List (Node × Node) → Bool
  | [] => true
  | (key, value) :: rest => key.wellFormed && value.wellFormed && entriesWellFormed rest

end

end Node

end MachineKeeper.Document

namespace MachineKeeper

structure Document where
  root : Document.Node
  /-- Whether nothing else stands behind it. -/
  complete : Bool
  /-- The nodes that references stand for. -/
  shared : List (Nat × Document.Node)
deriving Repr, Inhabited

end MachineKeeper
