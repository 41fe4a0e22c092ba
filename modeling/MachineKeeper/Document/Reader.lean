import MachineKeeper.Document.Node
import MachineKeeper.Duration.Reader

/-! Reading values of known types out of a document. A record is described once, by its fields in
order; the description reads it from entries in any order, with unknown ones passed over, and from
a list of its fields where the format allows that. -/
namespace MachineKeeper.Document

structure Dialect where
  /-- Whether a record may be given as the list of its fields. -/
  listedRecords : Bool
  /-- Whether more may stand in such a list than there are fields. -/
  longLists : Bool
deriving DecidableEq, Repr

/-- What it takes to read a node: its format's ways, and the nodes that references stand for. -/
structure Context where
  dialect : Dialect
  shared : List (Nat × Node)

/-- The node that a reference stands for; that is no reference itself. -/
def Context.resolve (ctx : Context) : Node → Node
  | .reference number => (ctx.shared.lookup number).getD .broken
  | node => node

variable {α β : Type}

abbrev NodeReader (α : Type) := Context → Node → Except ReadError α

def unexpected (expected : String) (node : Node) : ReadError :=
  let fault? := match node with
    | .leaf l => l.fault?
    | _ => none
  match fault?, node.shown? with
  | some fault, _ => .mismatch [] fault
  | none, some found => .mismatch [] (.invalidType found expected)
  | none, none => .malformed

def leafReader (expected : String) (reading : Leaf → Option α) : NodeReader α := fun ctx node =>
  let node := ctx.resolve node
  match node with
  | .leaf l =>
    match reading l with
    | some a => .ok a
    | none => .error (unexpected expected node)
  | _ => .error (unexpected expected node)

def text : NodeReader String := leafReader "a string" Leaf.text?

def flag : NodeReader Bool := leafReader "a boolean" Leaf.flag?

def natural (expected : String) (limit : Nat) : NodeReader Nat := fun ctx node => do
  let n ← leafReader expected Leaf.integer? ctx node
  if 0 ≤ n ∧ n ≤ limit then return n.toNat
  else throw (.mismatch [] (.invalidValue ("integer " ++ Mismatch.quoted (toString n)) expected))

def word32 : NodeReader UInt32 := fun ctx node =>
  (natural "u32" (UInt32.size - 1) ctx node).map Nat.toUInt32

def word64 : NodeReader UInt64 := fun ctx node =>
  (natural "u64" (UInt64.size - 1) ctx node).map Nat.toUInt64

def duration : NodeReader Duration := fun ctx node => do
  let text ← text ctx node
  match Duration.ofText text with
  | .ok duration => return duration
  | .error .overflow => throw .overflow
  | .error cause => throw (.mismatch [] (.duration cause))

def optional (reader : NodeReader α) : NodeReader (Option α) := fun ctx node =>
  match ctx.resolve node with
  | .leaf l =>
    match l.absenceFault? with
    | some fault => .error (.outer fault)
    | none => if l.absent then .ok none else (reader ctx node).map some
  | _ => (reader ctx node).map some

def list (reader : NodeReader α) : NodeReader (List α) := fun ctx node =>
  match ctx.resolve node with
  | .list items closed => do
    let values ← items.mapM (reader ctx)
    if closed then return values else throw .malformed
  | node => .error (unexpected "a sequence" node)

/-- One of some names. Such a name may also be written as a record with an absent value under it;
anything else is not well formed here. -/
def variant (names : List String) (ofName? : String → Option α) : NodeReader α := fun _ node =>
  let pick (name : String) : Except ReadError α :=
    match ofName? name with
    | some a => .ok a
    | none => .error (.mismatch [] (.unknownVariant name names))
  match node with
  | .leaf { text? := some name, .. } => pick name
  | .record ((.leaf { text? := some name, .. }, value) :: more) closed => do
    let a ← pick name
    match value with
    | .leaf l => if !l.absent then throw (unexpected "unit" value)
    | _ => throw (unexpected "unit" value)
    if more.isEmpty && closed then return a else throw .malformed
  | _ => .error .malformed

structure Field where
  name : String
  check : Context → Node → Except ReadError Unit

/-- What is known of a record when it is put together: the values of fields, and what it means
that a field is not there. -/
structure Fields where
  value? : String → Option Node
  missing : String → ReadError

structure RecordReader (α : Type) where
  fields : List Field
  build : Context → Fields → Except ReadError α

namespace RecordReader

instance : Applicative RecordReader where
  pure a := ⟨[], fun _ _ => .ok a⟩
  seq f a := ⟨f.fields ++ (a ()).fields, fun ctx known => do
    let g ← f.build ctx known
    let a ← (a ()).build ctx known
    return g a⟩

end RecordReader

/-- A field that may be left out if there is something to take instead. -/
def fieldOr (instead? : Option α) (name : String) (reader : NodeReader α) : RecordReader α where
  fields := [⟨name, fun ctx node => (reader ctx node).map fun _ => ()⟩]
  build ctx known :=
    match known.value? name with
    | some node => (reader ctx node).mapError (.within name)
    | none =>
      match instead? with
      | some a => .ok a
      | none => .error (known.missing name)

def field (name : String) (reader : NodeReader α) : RecordReader α := fieldOr none name reader

def fieldD (name : String) (reader : NodeReader α) (instead : α) : RecordReader α :=
  fieldOr (some instead) name reader

/-- A field's name in paths. One that is not written where the field is stays unnamed. -/
def pathName (name : String) : Node → String
  | .reference _ => "?"
  | _ => name

/-- Goes through a record's entries in order: a known field must not come twice and its value must
do; everything else must be well formed. Returns the values of the known fields. -/
def checkEntries (ctx : Context) (fields : List Field) :
    List (Node × Node) → List (String × Node) → Except ReadError (List (String × Node))
  | [], found => .ok found.reverse
  | (key, value) :: rest, found => do
    let name ← leafReader "field identifier" Leaf.text? ctx key
    match fields.find? fun f => f.name == name with
    | none =>
      if value.wellFormed then checkEntries ctx fields rest found else throw .malformed
    | some f =>
      if (found.lookup name).isSome then throw (.mismatch [] (.duplicateField name))
      (f.check ctx value).mapError (.within (pathName name key))
      checkEntries ctx fields rest ((name, value) :: found)

def listedTitle (title : String) (count : Nat) : String :=
  title ++ " with " ++ toString count ++ (if count = 1 then " element" else " elements")

def buildListed (r : RecordReader α) (ctx : Context) (title : String) (items : List Node)
    (closed : Bool) : Except ReadError α := do
  let names := r.fields.map Field.name
  let value? (name : String) : Option Node :=
    match items[names.idxOf name]? with
    | some node => some node
    | none => if closed then none else some .broken
  let missing (name : String) : ReadError :=
    .mismatch [] (.invalidLength (names.idxOf name) (listedTitle title names.length))
  let a ← r.build ctx ⟨value?, missing⟩
  if ctx.dialect.longLists || (closed && items.length ≤ names.length) then return a
  else throw .malformed

def RecordReader.node (r : RecordReader α) (title : String) : NodeReader α := fun ctx node =>
  let build (found : List (String × Node)) : Except ReadError α :=
    r.build ctx ⟨fun name => found.lookup name, fun name => .mismatch [] (.missingField name)⟩
  match ctx.resolve node with
  | .record entries closed => do
    let found ← checkEntries ctx r.fields entries []
    if closed then build found else throw .malformed
  | .list items closed =>
    if ctx.dialect.listedRecords then buildListed r ctx title items closed
    else .error (unexpected title (.list items closed))
  | .leaf l => if l.emptyRecord then build [] else .error (unexpected title (.leaf l))
  | node => .error (unexpected title node)

end MachineKeeper.Document

namespace MachineKeeper

def Document.read {α : Type} (doc : Document) (d : Document.Dialect)
    (reader : Document.NodeReader α) : Except Document.ReadError α := do
  let a ← reader ⟨d, doc.shared⟩ doc.root
  if doc.complete then return a else throw .malformed

end MachineKeeper
