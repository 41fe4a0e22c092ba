import MachineKeeper.Bytes
import MachineKeeper.Failure
import MachineKeeper.Text.Split

/-! A tree of files, and what a path leads to in it. Places in the tree are lists of names that
start at the root. -/
namespace MachineKeeper

structure FileTree where
  here : List String
  /-- The files. A directory is there as far as it leads to one of them or to the working
  directory. -/
  files : List (List String × Bytes)

namespace FileTree

def maxPathLength : Nat := 4095

def maxNameLength : Nat := 255

def content? (t : FileTree) (place : List String) : Option Bytes := t.files.lookup place

def isDirectory (t : FileTree) (place : List String) : Bool :=
  place.isPrefixOf t.here || t.files.any fun (file, _) => place.isPrefixOf file && place ≠ file

/-- Where names lead from a place. Every name but the last has to lead to a directory. -/
def follow (t : FileTree) (place : List String) : List String → Except FileError (List String)
  | [] => .ok place
  | name :: rest =>
    if !t.isDirectory place then .error .notDirectory
    else if name = "" || name = "." then t.follow place rest
    else if name = ".." then t.follow place.dropLast rest
    else if name.utf8ByteSize > maxNameLength then .error .nameTooLong
    else
      let next := place ++ [name]
      if t.isDirectory next || (t.content? next).isSome then t.follow next rest
      else .error .notFound

def names (path : String) : List String := (splitAll '/' path.toList).map String.ofList

def locate (t : FileTree) (path : String) : Except FileError (List String) :=
  if '\x00' ∈ path.toList then .error .containsNul
  else if path.utf8ByteSize > maxPathLength then .error .nameTooLong
  else if path = "" then .error .notFound
  else t.follow (if path.toList.head? = some '/' then [] else t.here) (names path)

def read (t : FileTree) (path : String) : Except FileError Bytes := do
  match t.content? (← t.locate path) with
  | some content => .ok content
  | none => .error .isDirectory

end FileTree

end MachineKeeper
