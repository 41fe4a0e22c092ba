import MachineKeeper.Error
import MachineKeeper.Lifecycle
import MachineKeeper.Settings
import MachineKeeper.Store
import MachineKeeper.Table

/-! Passes that drive the machine of one record towards a running domain with an address. A pass
looks at the record and at the host and takes at most one step that changes the host; drift is
mended over two passes, of which the first destroys and the second creates. -/
namespace MachineKeeper

inductive Next
  | done
  | after (delay : Duration)
deriving DecidableEq, Repr

/-- The cloud-config text in a secret's data. The data's format has to be cloud-config where it is
given; an empty text is passed on, for the caller to take as "not there yet". -/
def bootstrapData (secret : String) (data : Table String) : Except Error String :=
  let unsupported := data["format"]?.filter fun format => format ≠ "cloud-config"
  match unsupported, data["value"]? with
  | some format, _ => .error (.unsupportedFormat format)
  | none, some value => .ok value
  | none, none => .error (.missingValue secret)

namespace Reconcile

variable {ε α : Type}

/-- Runs an operation on a thread of its own, where an overflow is a failure of the operation. -/
def apart (report : Error → Failure) (op : Action Error α) : Action Failure α := fun w =>
  match op w with
  | (.done a, w) => (.done a, w)
  | (.failed e, w) => (.failed (report e), w)
  | (.overflow, w) => (.failed .overflow, w)

def apartWithin (context : String) (op : Action Error α) : Action Failure α :=
  apart (fun e => .context context (.error e)) op

/-- Changes the status after a pass that went through, which clears an earlier failure. -/
def publish (name : String) (patch : Status → Status) : Action Failure Unit := do
  let _ ← Store.patchStatus name fun status => { patch status with failureMessage := none }
  return ()

def remove (record : Record) : Action Failure Next := do
  let name := record.name
  publish name ({ · with phase := .deleting })
  if ← apart .error (Lifecycle.isDefined name) then
    apartWithin s!"failed to destroy virtual machine '{name}'"
      (Lifecycle.destroy name record.spec.storagePool)
  publish name fun status => { status.clearObservations with phase := .deleted }
  (Store.removeFinalizer name).mapError
    (.context s!"failed to remove finalizer from machine '{name}'")
  return .done

/-- The machine's cloud-config; nothing while the secret has none yet. -/
def cloudConfig (record : Record) : Action Failure (Option String) := do
  match record.bootstrapSecret with
  | none => return none
  | some secret =>
    match ← Store.secret secret with
    | none => .fail (.secretNotFound secret record.name)
    | some data =>
      match bootstrapData secret data with
      | .error e => .fail (.error e)
      | .ok text => return if text = "" then none else some text

def build (intervals : Intervals) (record : Record) : Action Failure Next := do
  let name := record.name
  match ← cloudConfig record with
  | none =>
    publish name ({ · with phase := .awaitingBootstrap })
    return .after intervals.poll
  | some userData =>
    apartWithin s!"failed to create virtual machine '{name}'"
      (Lifecycle.create { record.spec with userData })
    publish name ({ · with phase := .creating })
    return .after intervals.poll

def observe (intervals : Intervals) (record : Record) : Action Failure Next := do
  let name := record.name
  if ← apart .error (Lifecycle.isRunning name) then
    let addresses ← apartWithin s!"failed to get IP addresses for virtual machine '{name}'"
      (Lifecycle.addresses name)
    if addresses.isEmpty then
      publish name fun status =>
        { status with providerId := some (providerId name), phase := .verifying }
      return .after intervals.poll
    else
      publish name fun status =>
        { status with
          providerId := some (providerId name)
          addresses := addresses.map Address.mk
          ready := true
          provisioned := true
          phase := .ready }
      return .after intervals.periodic
  else
    publish name fun status =>
      { status with providerId := some (providerId name), ready := false, phase := .verifying }
    return .after intervals.poll

def probe (spec : Spec) : Action ε (Bool × Bool) := do
  if ← Lifecycle.isDefined spec.name then
    return (true, ← Lifecycle.isInSync spec)
  else
    return (false, false)

/-- Removes a machine that is out of sync; the next pass makes it anew. -/
def discard (intervals : Intervals) (record : Record) : Action Failure Next := do
  let name := record.name
  apartWithin s!"failed to destroy out-of-sync virtual machine '{name}'"
    (Lifecycle.destroy name record.spec.storagePool)
  publish name fun status => { status.clearObservations with phase := .drifted }
  return .after intervals.drift

def step (intervals : Intervals) (record : Record) : Action Failure Next := do
  let name := record.name
  if record.status.phase = .deleted then
    return .done
  else if record.paused then
    publish name ({ · with phase := .paused })
    return .after intervals.paused
  else if record.deletionRequested then
    remove record
  else if !record.prerequisites.satisfied then
    publish name ({ · with phase := .awaitingDependencies })
    return .done
  else
    match ← apart .error (probe record.spec) with
    | (true, false) => discard intervals record
    | (true, true) => observe intervals record
    | (false, _) => build intervals record

end Reconcile

open Reconcile

def reconcile (intervals : Intervals) (name : String) : Action Failure Next := do
  match ← Store.get name with
  | none => return .done
  | some record => step intervals record

def handleFailure {ε : Type} (intervals : Intervals) (name : String) (failure : Failure) :
    Action ε Next := do
  let _ ← (Store.patchStatus name
    ({ · with failureMessage := some failure.message })).attempt
  return .after intervals.error

/-- One step of a scheduler: a pass, whose failure is noted. -/
def runPass {ε : Type} (intervals : Intervals) (name : String) : Action ε Next := do
  match ← (reconcile intervals name).attempt with
  | .ok next => return next
  | .error failure => handleFailure intervals name failure

end MachineKeeper
