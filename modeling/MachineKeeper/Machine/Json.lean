import MachineKeeper.Json.Basic
import MachineKeeper.Document.Reader
import MachineKeeper.Machine.Manifest
import MachineKeeper.Machine.Record

/-! The stored form of machines: what is written, and how it is read back. -/
namespace MachineKeeper

open Document

def number32 (n : UInt32) : Json := .number n.toNat

def number64 (n : UInt64) : Json := .number n.toNat

/-- A member that is left out if there is nothing to write. -/
def member? (name : String) (value? : Option Json) : List (String × Json) :=
  match value? with
  | some value => [(name, value)]
  | none => []

namespace Spec

def json (s : Spec) : Json := .object <|
  [("name", .string s.name), ("network", .string s.network), ("storage_pool", .string s.storagePool),
    ("cpu", number32 s.cpu), ("memory", number64 s.memory), ("disk_size", number64 s.diskSize),
    ("backing_image_path", .string s.backingImagePath),
    ("backing_image_format", .string s.backingImageFormat)] ++
  member? "user_data" (if s.userData = "" then none else some (.string s.userData))

def recordReader : RecordReader Spec :=
  Spec.mk <$> field "name" text <*> field "network" text <*> field "storage_pool" text
    <*> field "cpu" word32 <*> field "memory" word64 <*> field "disk_size" word64
    <*> field "backing_image_path" text <*> field "backing_image_format" text
    <*> fieldD "user_data" text ""

def reader : NodeReader Spec := recordReader.node "struct MachineSpec"

end Spec

namespace Phase

def json (p : Phase) : Json := .string p.text

def reader : NodeReader Phase := variant (all.map text) ofText?

end Phase

namespace Address

/-- The name of the only kind of address. -/
def kind : String := "ExternalIP"

def json (a : Address) : Json := .object [("type", .string kind), ("address", .string a.address)]

def kindReader : NodeReader Unit := variant [kind] fun name => if name = kind then some () else none

def recordReader : RecordReader Address :=
  (fun () address => ⟨address⟩) <$> field "type" kindReader <*> field "address" text

def reader : NodeReader Address := recordReader.node "struct MachineAddress"

end Address

namespace Status

def json (s : Status) : Json := .object <|
  [("phase", s.phase.json), ("ready", .bool s.ready), ("provisioned", .bool s.provisioned)] ++
  member? "addresses"
    (if s.addresses.isEmpty then none else some (.array (s.addresses.map Address.json))) ++
  member? "provider_id" (s.providerId.map .string) ++
  member? "failure_message" (s.failureMessage.map .string)

def recordReader : RecordReader Status :=
  Status.mk <$> field "phase" Phase.reader <*> field "ready" flag <*> field "provisioned" flag
    <*> fieldD "addresses" (list Address.reader) []
    <*> fieldD "provider_id" (optional text) none
    <*> fieldD "failure_message" (optional text) none

def reader : NodeReader Status := recordReader.node "struct MachineStatus"

end Status

namespace Prerequisites

def json (p : Prerequisites) : Json := .object
  [("owner_linked", .bool p.ownerLinked), ("cluster_linked", .bool p.clusterLinked),
    ("cluster_provisioned", .bool p.clusterProvisioned)]

def recordReader : RecordReader Prerequisites :=
  Prerequisites.mk <$> field "owner_linked" flag <*> field "cluster_linked" flag
    <*> field "cluster_provisioned" flag

def reader : NodeReader Prerequisites := recordReader.node "struct Prerequisites"

end Prerequisites

namespace Record

def json (r : Record) : Json := .object <|
  [("spec", r.spec.json), ("status", r.status.json), ("resource_version", number64 r.version),
    ("deletion_requested", .bool r.deletionRequested), ("paused", .bool r.paused),
    ("finalizer", .bool r.finalizer), ("prerequisites", r.prerequisites.json)] ++
  member? "bootstrap_secret" (r.bootstrapSecret.map .string)

def recordReader : RecordReader Record :=
  Record.mk <$> field "spec" Spec.reader <*> fieldD "status" Status.reader .initial
    <*> fieldD "resource_version" word64 0 <*> fieldD "deletion_requested" flag false
    <*> fieldD "paused" flag false <*> fieldD "finalizer" flag false
    <*> fieldD "prerequisites" Prerequisites.reader .none
    <*> fieldD "bootstrap_secret" (optional text) .none

def reader : NodeReader Record := recordReader.node "struct MachineRecord"

end Record

namespace BootstrapEntry

def json (b : BootstrapEntry) : Json := .object
  [("value", .string b.value), ("format", .ofOption (b.format.map .string))]

def recordReader : RecordReader BootstrapEntry :=
  BootstrapEntry.mk <$> field "value" text <*> fieldD "format" (optional text) none

def reader : NodeReader BootstrapEntry := recordReader.node "struct BootstrapManifest"

end BootstrapEntry

namespace Manifest

/-- Here a part that is left out is written too, as nothing. -/
def json (m : Manifest) : Json := .object
  [("name", .string m.name), ("network", .ofOption (m.network.map .string)),
    ("storagePool", .ofOption (m.storagePool.map .string)), ("cpu", number32 m.cpu),
    ("memory", number64 m.memory), ("diskSize", number64 m.diskSize),
    ("backingImagePath", .string m.backingImagePath),
    ("backingImageFormat", .ofOption (m.backingImageFormat.map .string)),
    ("bootstrap", .ofOption (m.bootstrap.map BootstrapEntry.json))]

def recordReader : RecordReader Manifest :=
  Manifest.mk <$> field "name" text <*> fieldD "network" (optional text) none
    <*> fieldD "storagePool" (optional text) none <*> field "cpu" word32
    <*> field "memory" word64 <*> field "diskSize" word64 <*> field "backingImagePath" text
    <*> fieldD "backingImageFormat" (optional text) none
    <*> fieldD "bootstrap" (optional BootstrapEntry.reader) none

def reader : NodeReader Manifest := recordReader.node "struct MachineManifest"

end Manifest

end MachineKeeper
