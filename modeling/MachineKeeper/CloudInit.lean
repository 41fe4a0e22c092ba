import MachineKeeper.Iso.Reader
import MachineKeeper.Text.Split

/-! The image from which a machine reads its cloud-config on first boot, and what it reads there about itself. -/
namespace MachineKeeper.CloudInit

/-- What the image tells a machine about itself: one line per key. -/
def metaData (machine : String) : String :=
  "instance-id: " ++ machine ++ "\nlocal-hostname: " ++ machine ++ "\n"

def label : String := "cidata"

def image (machine userData : String) : Except Iso.Error Bytes :=
  Iso.build label
    [⟨"user-data", utf8 userData⟩, ⟨"meta-data", utf8 (metaData machine)⟩]

def metaData? (image : Bytes) : Option String := do
  let files ← Iso.files? image
  let file ← files.find? fun file => file.name = "meta-data"
  ofUtf8? file.data

/-- What stands on a line before its first colon, and behind the blank that follows the colon. -/
def keyed? (line : String) : Option (String × String) :=
  match splitFirst (· = ':') line.toList with
  | (key, some (' ' :: value)) => some (.ofList key, .ofList value)
  | _ => none

/-- The keys of a text with their values, in the order of its lines. A line without a key is passed over. -/
def entries (text : String) : List (String × String) := (linesOf text).filterMap keyed?

end MachineKeeper.CloudInit
