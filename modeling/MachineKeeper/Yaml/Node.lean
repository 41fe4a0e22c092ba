import MachineKeeper.Document.Node
import MachineKeeper.Yaml.Leaf
import MachineKeeper.Yaml.Token

/-! Nodes of a YAML text, from its tokens. A node is read as far as there are tokens for it; where
no tokens are left behind it the text is not well formed, and what has been read is all there is. -/
namespace MachineKeeper.Yaml

open Document (Node)

structure Anchor where
  place : Nat
  number : Nat
deriving DecidableEq, Repr

/-- Anchors, and the nodes that they are set on. A new anchor's number tells how many names have
been used before, so an anchor whose name is not new shares its number with the next one whose
name is. -/
structure Anchors where
  numbers : List (String × Nat)
  count : Nat
  nodes : List (Anchor × Node)

namespace Anchors

def empty : Anchors := ⟨[], 0, []⟩

def number? (a : Anchors) (name : String) : Option Nat := a.numbers.lookup name

def set (name : String) (a : Anchors) : Anchor × Anchors :=
  let number := a.numbers.length
  let numbers := (name, number) :: a.numbers.filter fun (other, _) => other ≠ name
  (⟨a.count, number⟩, { a with numbers, count := a.count + 1 })

def put (anchor : Anchor) (node : Node) (a : Anchors) : Anchors :=
  { a with nodes := (anchor, node) :: a.nodes }

/-- The nodes by the numbers of their anchors. Of several with one number the last counts, which
comes first. -/
def shared (a : Anchors) : List (Nat × Node) :=
  (a.nodes.mergeSort fun (a, _) (b, _) => b.place ≤ a.place).map fun (a, node) => (a.number, node)

end Anchors

structure Left where
  tokens? : Option (List Token)
  anchors : Anchors

abbrev Handles := List (String × String)

def Handles.standard : Handles := [("!", "!"), ("!!", "tag:yaml.org,2002:")]

structure Properties where
  anchor? : Option String
  tag? : Option (String × String)
  tokens : List Token

def Properties.ofTokens : List Token → Properties
  | .anchor name :: .tag handle suffix :: rest => ⟨some name, some (handle, suffix), rest⟩
  | .anchor name :: rest => ⟨some name, none, rest⟩
  | .tag handle suffix :: .anchor name :: rest => ⟨some name, some (handle, suffix), rest⟩
  | .tag handle suffix :: rest => ⟨none, some (handle, suffix), rest⟩
  | rest => ⟨none, none, rest⟩

/-- A tag in full, if there is one; `none` is for a handle that is not known. -/
def fullTag? (handles : Handles) : Option (String × String) → Option (Option String)
  | none => some none
  | some (handle, suffix) =>
    if handle = "" then some (some suffix)
    else (handles.lookup handle).map fun replacement => some (replacement ++ suffix)

/-- The node of a scalar. A lone exclamation mark is as good as no tag. -/
def scalarNode (tag? : Option String) (style : Style) (text : String) : Node :=
  .leaf (Leaf.ofScalar (if tag? = some "!" then none else tag?) style text)

def unwritten (tag? : Option String) : Node := .leaf (Leaf.ofScalar tag? .plain "")

namespace Node

mutual

/-- Reads a node. In a block, block collections may begin here; `indentless` says whether the items
of a list may stand no further in than what they belong to. -/
def take (handles : Handles) (block indentless : Bool) :
    Nat → List Token → Anchors → Node × Left
  | 0, _, a => (.broken, ⟨none, a⟩)
  | fuel + 1, tokens, a =>
    match tokens with
    | .alias name :: rest =>
      match a.number? name with
      | some number => (.reference number, ⟨some rest, a⟩)
      | none => (.broken, ⟨none, a⟩)
    | _ =>
      let p := Properties.ofTokens tokens
      match fullTag? handles p.tag?, p.anchor? with
      | none, _ => (.broken, ⟨none, a⟩)
      | some tag?, none => takeContent handles block indentless fuel tag? p a
      | some tag?, some name =>
        let (anchor, a) := a.set name
        let (node, left) := takeContent handles block indentless fuel tag? p a
        match node with
        | .broken => (node, left)
        | _ => (node, { left with anchors := left.anchors.put anchor node })

def takeContent (handles : Handles) (block indentless : Bool) :
    Nat → Option String → Properties → Anchors → Node × Left
  | 0, _, _, a => (.broken, ⟨none, a⟩)
  | fuel + 1, tag?, p, a =>
    let ofItems : List Node × Left → Node × Left := fun (items, left) =>
      (.list items left.tokens?.isSome, left)
    let ofEntries : List (Node × Node) × Left → Node × Left := fun (entries, left) =>
      (.record entries left.tokens?.isSome, left)
    match p.tokens, block, indentless with
    | [], _, _ => (.broken, ⟨none, a⟩)
    | .item :: rest, _, true => ofItems (takeIndentless handles fuel (.item :: rest) a)
    | .scalar text style :: rest, _, _ => (scalarNode tag? style text, ⟨some rest, a⟩)
    | .flowSequence :: rest, _, _ => ofItems (takeFlowItems handles true fuel rest a)
    | .flowMapping :: rest, _, _ => ofEntries (takeFlowEntries handles true fuel rest a)
    | .blockSequence :: rest, true, _ => ofItems (takeBlockItems handles fuel rest a)
    | .blockMapping :: rest, true, _ => ofEntries (takeBlockEntries handles fuel rest a)
    | rest, _, _ =>
      if p.anchor?.isSome || p.tag?.isSome then (unwritten tag?, ⟨some rest, a⟩)
      else (.broken, ⟨none, a⟩)

def takeUnless (handles : Handles) (stops : List Token) (block indentless : Bool) :
    Nat → List Token → Anchors → Node × Left
  | 0, _, a => (.broken, ⟨none, a⟩)
  | fuel + 1, tokens, a =>
    if tokens.head?.any (· ∈ stops) then (unwritten none, ⟨some tokens, a⟩)
    else take handles block indentless fuel tokens a

def takeValue (handles : Handles) (stops : List Token) (block : Bool) :
    Nat → List Token → Anchors → Node × Left
  | 0, _, a => (.broken, ⟨none, a⟩)
  | fuel + 1, tokens, a =>
    match tokens with
    | [] => (.broken, ⟨none, a⟩)
    | .value :: rest => takeUnless handles stops block block fuel rest a
    | rest => (unwritten none, ⟨some rest, a⟩)

def takeBlockItems (handles : Handles) : Nat → List Token → Anchors → List Node × Left
  | 0, _, a => ([], ⟨none, a⟩)
  | fuel + 1, tokens, a =>
    match tokens with
    | .blockEnd :: rest => ([], ⟨some rest, a⟩)
    | .item :: rest =>
      match takeUnless handles [.item, .blockEnd] true false fuel rest a with
      | (item, ⟨none, a⟩) => ([item], ⟨none, a⟩)
      | (item, ⟨some rest, a⟩) =>
        let (more, left) := takeBlockItems handles fuel rest a
        (item :: more, left)
    | _ => ([], ⟨none, a⟩)

def takeIndentless (handles : Handles) : Nat → List Token → Anchors → List Node × Left
  | 0, _, a => ([], ⟨none, a⟩)
  | fuel + 1, tokens, a =>
    match tokens with
    | [] => ([], ⟨none, a⟩)
    | .item :: rest =>
      match takeUnless handles [.item, .key, .value, .blockEnd] true false fuel rest a with
      | (item, ⟨none, a⟩) => ([item], ⟨none, a⟩)
      | (item, ⟨some rest, a⟩) =>
        let (more, left) := takeIndentless handles fuel rest a
        (item :: more, left)
    | rest => ([], ⟨some rest, a⟩)

def takeBlockEntries (handles : Handles) :
    Nat → List Token → Anchors → List (Node × Node) × Left
  | 0, _, a => ([], ⟨none, a⟩)
  | fuel + 1, tokens, a =>
    let stops : List Token := [.key, .value, .blockEnd]
    match tokens with
    | .blockEnd :: rest => ([], ⟨some rest, a⟩)
    | .key :: rest =>
      match takeUnless handles stops true true fuel rest a with
      | (key, ⟨none, a⟩) => ([(key, .broken)], ⟨none, a⟩)
      | (key, ⟨some rest, a⟩) =>
        match takeValue handles stops true fuel rest a with
        | (value, ⟨none, a⟩) => ([(key, value)], ⟨none, a⟩)
        | (value, ⟨some rest, a⟩) =>
          let (more, left) := takeBlockEntries handles fuel rest a
          ((key, value) :: more, left)
    | _ => ([], ⟨none, a⟩)

/-- Reads the items of a list in brackets; between two of them stands a comma. An item with a key
is a record of its own. -/
def takeFlowItems (handles : Handles) (first : Bool) :
    Nat → List Token → Anchors → List Node × Left
  | 0, _, a => ([], ⟨none, a⟩)
  | fuel + 1, tokens, a =>
    let begun? : Option (List Token) := match first, tokens with
      | true, tokens => some tokens
      | false, .comma :: rest => some rest
      | false, .flowSequenceEnd :: rest => some (.flowSequenceEnd :: rest)
      | false, _ => none
    let goOn : Node × Left → List Node × Left := fun (item, left) =>
      match left.tokens? with
      | none => ([item], left)
      | some rest =>
        let (more, left) := takeFlowItems handles false fuel rest left.anchors
        (item :: more, left)
    match begun? with
    | none => ([], ⟨none, a⟩)
    | some (.flowSequenceEnd :: rest) => ([], ⟨some rest, a⟩)
    | some (.key :: rest) => goOn (takeFlowPair handles fuel rest a)
    | some rest => goOn (take handles false false fuel rest a)

/-- Reads a record of one entry in a list in brackets, from behind its key mark. A mark that shows
that no key is written is lost. -/
def takeFlowPair (handles : Handles) : Nat → List Token → Anchors → Node × Left
  | 0, _, a => (.broken, ⟨none, a⟩)
  | fuel + 1, tokens, a =>
    let (key, left) : Node × Left := match tokens with
      | .value :: rest | .comma :: rest | .flowSequenceEnd :: rest =>
        (unwritten none, ⟨some rest, a⟩)
      | rest => take handles false false fuel rest a
    match left.tokens? with
    | none => (.record [(key, .broken)] false, left)
    | some rest =>
      let (value, left) := takeValue handles [.comma, .flowSequenceEnd] false fuel rest left.anchors
      (.record [(key, value)] (left.tokens?.any fun rest => !rest.isEmpty), left)

def takeFlowEntries (handles : Handles) (first : Bool) :
    Nat → List Token → Anchors → List (Node × Node) × Left
  | 0, _, a => ([], ⟨none, a⟩)
  | fuel + 1, tokens, a =>
    let stops : List Token := [.comma, .flowMappingEnd]
    let begun? : Option (List Token) := match first, tokens with
      | true, tokens => some tokens
      | false, .comma :: rest => some rest
      | false, .flowMappingEnd :: rest => some (.flowMappingEnd :: rest)
      | false, _ => none
    let goOn : Node → Node × Left → List (Node × Node) × Left := fun key (value, left) =>
      match left.tokens? with
      | none => ([(key, value)], left)
      | some rest =>
        let (more, left) := takeFlowEntries handles false fuel rest left.anchors
        ((key, value) :: more, left)
    match begun? with
    | none => ([], ⟨none, a⟩)
    | some (.flowMappingEnd :: rest) => ([], ⟨some rest, a⟩)
    | some (.key :: rest) =>
      match takeUnless handles (.value :: stops) false false fuel rest a with
      | (key, ⟨none, a⟩) => ([(key, .broken)], ⟨none, a⟩)
      | (key, ⟨some rest, a⟩) => goOn key (takeValue handles stops false fuel rest a)
    | some rest =>
      match take handles false false fuel rest a with
      | (key, ⟨none, a⟩) => ([(key, .broken)], ⟨none, a⟩)
      | (key, ⟨some rest, a⟩) =>
        goOn key (unwritten none, ⟨if rest.isEmpty then none else some rest, a⟩)

end

end Node

end MachineKeeper.Yaml
