import MachineKeeper.CommandLine.Sight
import MachineKeeper.Reconcile
import MachineKeeper.Surroundings

/-! Running commands. Each works on the host that all of them share; a command that reconciles has
a store of its own, which holds one machine and is forgotten afterwards. -/
namespace MachineKeeper

/-- What a command printed, how it ended, and the world that it left. -/
structure Run (α : Type) where
  lines : List Line
  outcome : Outcome Failure α
  world : World

namespace Run

variable {α β : Type}

def failed (failure : Failure) (w : World) : Run α := ⟨[], .failed failure, w⟩

/-- Runs an action on a thread of its own, and prints what its value asks for. -/
def ofAction (action : Action Error α) (lines : α → List Line) (w : World) : Run Unit :=
  match Reconcile.apart .error action w with
  | (.done a, w) => ⟨lines a, .done (), w⟩
  | (.failed failure, w) => ⟨[], .failed failure, w⟩
  | (.overflow, w) => ⟨[], .overflow, w⟩

def printingFirst (lines : List Line) (run : Run α) : Run α :=
  { run with lines := lines ++ run.lines }

def withOutcome (outcome : Outcome Failure β) (run : β → World → Run α) (w : World) : Run α :=
  match outcome with
  | .done b => run b w
  | .failed failure => ⟨[], .failed failure, w⟩
  | .overflow => ⟨[], .overflow, w⟩

def machine (defaults : Defaults) (path : String) (manifest : Manifest) : Except Failure Spec :=
  match manifest.bootstrap with
  | none => .error (.noBootstrapData path)
  | some entry =>
    match bootstrapData manifest.secretName entry.secretData with
    | .error e => .error (.error e)
    | .ok userData => .ok { manifest.spec defaults with userData }

def create (settings : Settings) (path : String) (manifest : Manifest) (w : World) : Run Unit :=
  match machine settings.defaults path manifest with
  | .error failure => .failed failure w
  | .ok spec =>
    .printingFirst [.info s!"creating virtual machine '{spec.name}'"] <|
      .ofAction (Lifecycle.create spec)
        (fun () => [.info s!"virtual machine '{spec.name}' created and started"]) w

def delete (settings : Settings) (pool? : Option String) (name : String) : World → Run Unit :=
  .ofAction (Lifecycle.destroy name (pool?.getD settings.defaults.storagePool))
    fun () => [.info s!"virtual machine '{name}' deleted"]

def status (format : StatusFormat) (name : String) : World → Run Unit :=
  .ofAction (Sight.of name) (Sight.print format)

/-- The record of a manifest, which nothing holds up. -/
def record (defaults : Defaults) (delete : Bool) (manifest : Manifest) : Record :=
  { Record.ofSpec (manifest.spec defaults) with
    deletionRequested := delete
    prerequisites := .all
    bootstrapSecret := manifest.bootstrap.map fun _ => manifest.secretName }

/-- A store of its own for the machine of a manifest. No faults wait for it. -/
def enter (defaults : Defaults) (delete : Bool) (manifest : Manifest) (w : World) : World :=
  { w with
    records := (∅ : Table Record).insert manifest.name (record defaults delete manifest)
    secrets := match manifest.bootstrap with
      | some entry => (∅ : Table (Table String)).insert manifest.secretName entry.secretData
      | none => ∅
    storeFaults := [] }

/-- The world `w` with the store of `before`. -/
def leave (before w : World) : World :=
  { w with
    records := before.records
    secrets := before.secrets
    storeFaults := before.storeFaults }

def progress (name : String) : Option Record → List Line
  | none => [.info s!"{name}: record released"]
  | some { status, .. } =>
    let addresses := ", ".intercalate (status.addresses.map Address.address)
    .info (s!"{name}: phase={status.phase.text} ready={status.ready} " ++
      s!"provisioned={status.provisioned} addresses=[{addresses}]") ::
      (status.failureMessage.map Line.warning).toList

def turn (intervals : Intervals) (name : String) (w : World) : Run Next :=
  match runPass intervals name w with
  | (outcome, w) => ⟨if outcome.isDone then progress name w.records[name]? else [], outcome, w⟩

/-- Passes until one is the last, or until `patience` waits are over; then `ending` is said of the
wait that would come next. -/
def turns (intervals : Intervals) (name : String) (ending : Duration → Line) :
    Nat → World → Run Unit
  | patience, w =>
    match turn intervals name w with
    | ⟨lines, .done .done, w⟩ => ⟨lines, .done (), w⟩
    | ⟨lines, .done (.after delay), w⟩ =>
      match patience with
      | 0 => ⟨lines ++ [ending delay], .done (), w⟩
      | patience + 1 => .printingFirst lines (turns intervals name ending patience w)
    | ⟨lines, .failed failure, w⟩ => ⟨lines, .failed failure, w⟩
    | ⟨lines, .overflow, w⟩ => ⟨lines, .overflow, w⟩

/-- A single pass, or with `watch` passes until the last; whoever watches interrupts it after
`patience` waits. -/
def reconcile (patience : Nat) (settings : Settings) (watch delete : Bool) (manifest : Manifest)
    (w : World) : Run Unit :=
  let passes :=
    if watch then turns settings.intervals manifest.name (fun _ => .warning "interrupted") patience
    else turns settings.intervals manifest.name
      (fun delay => .info s!"next pass due in {delay.text}") 0
  let run := passes (enter settings.defaults delete manifest w)
  { run with world := leave w run.world }

def ofCommand (patience : Nat) (surroundings : Surroundings) (settings : Settings) :
    Command → World → Run Unit
  | .create path => .withOutcome (surroundings.manifest path) (create settings path)
  | .delete pool? name => delete settings pool? name
  | .status format name => status format name
  | .reconcile watch delete path =>
    .withOutcome (surroundings.manifest path) (reconcile patience settings watch delete)

end Run

def Invocation.run (patience : Nat) (surroundings : Surroundings) (invocation : Invocation) :
    World → Run Unit :=
  .withOutcome (surroundings.settings invocation.settings?) fun settings =>
    .ofCommand patience surroundings settings invocation.command

end MachineKeeper
