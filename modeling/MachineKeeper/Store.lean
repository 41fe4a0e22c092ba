import MachineKeeper.Action
import MachineKeeper.Failure

/-! The store of records and secrets. Each operation reads a whole record and writes it back as a
whole; nothing comes in between. -/
namespace MachineKeeper.Store

variable {ε : Type}

def meetFaults (site : StoreSite) : Action Failure Unit := fun w =>
  match Fault.fire (Fault.due site w.storeFaults) w.host with
  | (outcome, host) =>
    (outcome.mapError fun text => .reported [text],
      { w with host, storeFaults := Fault.remaining site w.storeFaults })

def nextVersion? (version : UInt64) : Option UInt64 :=
  if version.toNat + 1 < UInt64.size then some (version + 1) else none

def insert (record : Record) (w : World) : World :=
  { w with records := w.records.insert record.name record }

def writeBack (name : String) (record : Record) : Action ε Record := fun w =>
  match nextVersion? record.version with
  | some version =>
    let record := { record with version }
    (.done record, { w with records := w.records.insert name record })
  | none => (.overflow, w)

/-- Edits what is wanted of a machine, such as its pause, its deletion or its specification. -/
def update (name : String) (edit : Record → Record) : Action ε (Option Record) := fun w =>
  match w.records[name]? with
  | some record => (some <$> writeBack name (edit record) : Action ε (Option Record)) w
  | none => (.done none, w)

def insertSecret (name : String) (data : Table String) (w : World) : World :=
  { w with secrets := w.secrets.insert name data }

def get (name : String) : Action Failure (Option Record) := do
  meetFaults .get
  fun w => (.done w.records[name]?, w)

def patchStatus (name : String) (patch : Status → Status) : Action Failure Status := do
  meetFaults .patchStatus
  fun w =>
    match w.records[name]? with
    | some record =>
      (Record.status <$> writeBack name { record with status := patch record.status } :
        Action Failure Status) w
    | none => (.failed (.unknownMachine name), w)

/-- Lets go of a record. One whose deletion is requested leaves the store; one that is not there is
no failure. -/
def removeFinalizer (name : String) : Action Failure Unit := do
  meetFaults .removeFinalizer
  fun w =>
    match w.records[name]? with
    | some record =>
      if record.deletionRequested then (.done (), { w with records := w.records.erase name })
      else ((fun _ => ()) <$> writeBack name { record with finalizer := false } :
        Action Failure Unit) w
    | none => (.done (), w)

/-- The data of a secret, if it can be read already. -/
def secret (name : String) : Action Failure (Option (Table String)) := do
  meetFaults .secret
  fun w => (.done w.secrets[name]?, w)

end MachineKeeper.Store
