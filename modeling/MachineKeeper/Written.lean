import MachineKeeper.Document.Reader
import MachineKeeper.Failure
import MachineKeeper.Machine.Json
import MachineKeeper.Outcome
import MachineKeeper.Settings
import MachineKeeper.Toml.Statement
import MachineKeeper.Yaml.Node

/-! Settings and manifests as operators write them: settings in TOML, manifests in YAML. A TOML text is well
formed as a whole or not at all, and its tables have their entries in the order of the keys. A YAML text holds one
document; a second one is a fault, which is met when the first has been read. -/
namespace MachineKeeper

namespace Toml

/-- A record may be given as the list of its fields, and more may follow. -/
def dialect : Document.Dialect := ⟨true, true⟩

def dropMark : List Char → List Char
  | '\ufeff' :: rest => rest
  | cs => cs

def root? (text : String) : Option Table := do
  let cs := dropMark text.toList
  let statements ← statements? (cs.length + 1) cs
  let progress ← statements.foldlM Progress.add? .initial
  return progress.root

def document (text : String) : Document :=
  match root? text with
  | some root => ⟨root.toValue.node, true, []⟩
  | none => ⟨.broken, false, []⟩

def read {α : Type} (reader : Document.NodeReader α) (text : String) :
    Except Document.ReadError α :=
  (document text).read dialect reader

end Toml

namespace Yaml

/-- A record is written with the names of its fields. -/
def dialect : Document.Dialect := ⟨false, false⟩

/-- The tag handles that a document's directives define, and the tokens behind them. The version
may be given once, and so may each handle. -/
def directives? (version : Bool) (handles : Handles) :
    List Token → Option (Handles × List Token)
  | .version major minor :: rest =>
    if version || major ≠ 1 || (minor ≠ 1 && minor ≠ 2) then none
    else directives? true handles rest
  | .tagHandle handle replacement :: rest =>
    if (handles.lookup handle).isSome then none
    else directives? version ((handle, replacement) :: handles) rest
  | rest => some (handles, rest)

/-- A text without any token stands for a record without fields, and for nothing else. -/
def emptyText : Document.Node := .leaf { shown := "", absent := true, emptyRecord := true }

def isEnd (tokens : List Token) : Bool :=
  match tokens.dropWhile (· = .documentEnd) with
  | .textEnd :: _ => true
  | _ => false

def endsDocument : Token → Bool
  | .version _ _ | .tagHandle _ _ | .documentStart | .documentEnd | .textEnd => true
  | _ => false

def takeRoot (handles : Handles) (tokens : List Token) : Document :=
  let (root, left) := Node.take handles true false (4 * tokens.length + 4) tokens .empty
  ⟨root, left.tokens?.any isEnd, left.anchors.shared⟩

def documentOf (tokens : List Token) : Document :=
  match tokens with
  | .textEnd :: _ => ⟨emptyText, true, []⟩
  | first :: _ =>
    if !endsDocument first || first = .documentEnd then takeRoot .standard tokens
    else
      match directives? false [] tokens with
      | some (handles, .documentStart :: rest) =>
        if rest.head?.any endsDocument then ⟨unwritten none, isEnd rest, []⟩
        else takeRoot (handles ++ .standard) rest
      | _ => ⟨.broken, false, []⟩
  | [] => ⟨.broken, false, []⟩

def document (text : String) : Document := documentOf (Token.ofText text)

def read {α : Type} (reader : Document.NodeReader α) (text : String) :
    Except Document.ReadError α :=
  (document text).read dialect reader

end Yaml

/-- What reading a text comes to, with a failure of its own for each format. -/
def readOutcome {α : Type} (failure : Document.ReadError → Failure) :
    Except Document.ReadError α → Outcome Failure α
  | .ok a => .done a
  | .error .overflow => .overflow
  | .error e => .failed (failure e)

def Settings.ofText (text : String) : Outcome Failure Settings :=
  readOutcome .settings (Toml.read Settings.reader text)

def Manifest.ofText (text : String) : Outcome Failure Manifest :=
  readOutcome .manifest (Yaml.read Manifest.reader text)

end MachineKeeper
