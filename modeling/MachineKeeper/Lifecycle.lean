import MachineKeeper.CloudInit
import MachineKeeper.Machine.Spec
import MachineKeeper.Session

/-! Creating, inspecting and tearing down single machines. Every operation has a connection of its
own. Nothing here keeps two operations on one machine apart. -/
namespace MachineKeeper.Lifecycle

open Session

variable {ε : Type}

/-- A domain's name is also the guest's host name, which must fit in a DNS label. -/
def maxNameLength : Nat := 63

/-- Whether a question was answered with a value that passes `test`. A failure is a no. -/
def holds {α : Type} (question : Action Error α) (test : α → Bool) : Action ε Bool := do
  match ← question.attempt with
  | .ok a => return test a
  | .error _ => return false

def isDefined (name : String) : Action ε Bool :=
  holds (connected (ask s!"failed to look up domain '{name}'" (.domainState name))) fun _ => true

def fits (spec : Spec) (info : DomainInfo) : Bool :=
  info.vcpus = spec.cpu && info.maxMemoryKib / 1024 = spec.memory

def isInSync (spec : Spec) : Action ε Bool :=
  holds (connected (ask s!"failed to get domain info for '{spec.name}'" (.domainInfo spec.name)))
    (fits spec)

def askState (name : String) : Action Error PowerState :=
  ask s!"failed to get domain state for '{name}'" (.domainState name)

def isRunning (name : String) : Action ε Bool :=
  holds (connected (askState name)) fun state => state = .running

/-- The addresses on interfaces that have a name. -/
def reachable (interfaces : List Interface) : List String :=
  (interfaces.filter fun i => i.name ≠ "").flatMap Interface.addresses

/-- The leased addresses of a running domain, in the host's order; none until the guest has a
lease, nor where the host cannot tell. -/
def addresses (name : String) : Action Error (List String) := connected do
  let state ← askState name
  if state ≠ .running then
    .fail (.notRunning name)
  else
    match ← (send (.leaseAddresses name)).attempt with
    | .ok interfaces => return reachable interfaces
    | .error _ => return []

/-- Deletes a volume that is there; a failure is not reported. -/
def deleteIfThere (pool volume : String) : Action Error Unit := do
  match ← (send (.volumePath pool volume)).attempt with
  | .ok _ =>
    let _ ← (send (.deleteVolume pool volume)).attempt
    return ()
  | .error _ => return ()

def createSeedVolume (pool volume : String) (image : Bytes) : Action Error String := do
  deleteIfThere pool volume
  let path ← ask s!"failed to create cloud-init storage volume '{volume}'"
    (.createVolume pool (.raw volume image.length.toUInt64))
  ask s!"failed to upload cloud-init ISO to '{volume}'" (.uploadVolume pool volume image)
  let content ← ask s!"failed to download cloud-init ISO from '{volume}'"
    (.downloadVolume pool volume)
  if content.bytes ≠ image then
    .fail (.uploadMismatch volume image.length content.size)
  else
    return path

def createDiskVolume (spec : Spec) : Action Error String := do
  let volume := spec.names.diskVolume
  deleteIfThere spec.storagePool volume
  ask s!"failed to create storage volume '{volume}'" (.createVolume spec.storagePool
    (.overlay volume spec.diskSize spec.backingImagePath spec.backingImageFormat))

def domainFor (spec : Spec) (diskPath seedPath : String) : DomainDescriptor where
  name := spec.names.domain
  memoryMib := spec.memory
  vcpus := spec.cpu
  diskPath := diskPath
  seedPath := seedPath
  network := spec.network

def provision (spec : Spec) (image : Bytes) : Action Error Unit := do
  let pool := spec.storagePool
  ask s!"failed to get storage pool '{pool}'" (.lookupPool pool)
  let seedPath ← createSeedVolume pool spec.names.seedVolume image
  let diskPath ← createDiskVolume spec
  let domain := domainFor spec diskPath seedPath
  ask s!"failed to define domain '{domain.name}'" (.defineDomain domain)
  ask s!"failed to start domain '{domain.name}'" (.startDomain domain.name)

/-- Provisions a machine and boots it. What was done before a failure stays; volumes that an
earlier attempt left are removed before they are made again. -/
def create (spec : Spec) : Action Error Unit := do
  let length := spec.name.length
  if length > maxNameLength then
    .fail (.invalidName spec.name length maxNameLength)
  else
    let image ← .ofExcept ((CloudInit.image spec.name spec.userData).mapError .seedImage)
    connected ((provision spec image).mapError (.create spec.name))

def deleteVolumes (pool : String) (names : Names) : Action Error Unit := do
  match ← (send (.lookupPool pool)).attempt with
  | .error _ => return ()
  | .ok () =>
    let _ ← (send (.refreshPool pool)).attempt
    deleteIfThere pool names.diskVolume
    deleteIfThere pool names.seedVolume
    let _ ← (send (.refreshPool pool)).attempt
    return ()

/-- Powers the domain off if need be, undefines it and then deletes its volumes. That the domain is
not there is no error. -/
def destroy (name pool : String) : Action Error Unit := connected do
  match ← (send (.domainState name)).attempt with
  | .error e =>
    if e.isNotFound then return ()
    else .fail (.host s!"failed to look up domain '{name}'" e)
  | .ok state =>
    if state.isActive then
      ask s!"failed to stop domain '{name}'" (.destroyDomain name)
    ask s!"failed to undefine domain '{name}'" (.undefineDomain name)
    deleteVolumes pool (.of name)

end MachineKeeper.Lifecycle
