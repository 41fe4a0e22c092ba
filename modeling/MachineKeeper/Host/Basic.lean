import MachineKeeper.Host.Error
import MachineKeeper.Outcome
import MachineKeeper.Table

/-! A host in memory: pools that hold volumes with their bytes, and domains with a power state and
leases. It answers requests, and it can be changed behind the back of whoever uses it. -/
namespace MachineKeeper

structure Host where
  domains : Table Domain
  pools : Table (Table Volume)
  connections : Nat
  openConnections : Nat
  refusesConnections : Bool
  /-- Whether an upload lands with its last byte inverted. -/
  corruptsUploads : Bool
  failing : List Call
  bootState : PowerState
  bootLeases : List Interface

namespace Host

/-- A host with no domain and an empty pool. -/
def initial : Host where
  domains := ∅
  pools := (∅ : Table (Table Volume)).insert "default" ∅
  connections := 0
  openConnections := 0
  refusesConnections := false
  corruptsUploads := false
  failing := []
  bootState := .running
  bootLeases := []

instance : Inhabited Host := ⟨initial⟩

variable {α : Type}

def withDomain (h : Host) (name : String) (answer : Domain → Outcome HostError α × Host) :
    Outcome HostError α × Host :=
  match h.domains[name]? with
  | some domain => answer domain
  | none => (.failed (.notFound .domain name), h)

def withPool (h : Host) (pool : String) (answer : Table Volume → Outcome HostError α × Host) :
    Outcome HostError α × Host :=
  match h.pools[pool]? with
  | some volumes => answer volumes
  | none => (.failed (.notFound .storagePool pool), h)

def withVolume (h : Host) (pool volume : String)
    (answer : Table Volume → Volume → Outcome HostError α × Host) : Outcome HostError α × Host :=
  h.withPool pool fun volumes =>
    match volumes[volume]? with
    | some found => answer volumes found
    | none => (.failed (.notFound .storageVolume volume), h)

def setDomain (h : Host) (name : String) (domain : Domain) : Host :=
  { h with domains := h.domains.insert name domain }

def setPool (h : Host) (pool : String) (volumes : Table Volume) : Host :=
  { h with pools := h.pools.insert pool volumes }

def corrupted (data : Bytes) : Bytes :=
  match data.getLast? with
  | some last => data.dropLast ++ [last ^^^ 0xff]
  | none => []

def kibOfMib? (mib : UInt64) : Option UInt64 :=
  if mib.toNat * 1024 < UInt64.size then some (mib * 1024) else none

def answer (h : Host) : (request : Request) → Outcome HostError request.Reply × Host
  | .domainInfo name => h.withDomain name fun domain => (.done domain.info, h)
  | .domainState name => h.withDomain name fun domain => (.done domain.state, h)
  | .defineDomain descriptor =>
    match kibOfMib? descriptor.memoryMib with
    | none => (.overflow, h)
    | some memory =>
      let domain := match h.domains[descriptor.name]? with
        | some domain =>
          { domain with descriptor, vcpus := descriptor.vcpus, maxMemoryKib := memory }
        | none => ⟨descriptor, .shutoff, descriptor.vcpus, memory, []⟩
      (.done (), h.setDomain descriptor.name domain)
  | .startDomain name => h.withDomain name fun domain =>
    if domain.state = .running then (.failed (.call (.alreadyRunning name)), h)
    else (.done (), h.setDomain name
      { domain with state := h.bootState, interfaces := h.bootLeases })
  | .destroyDomain name => h.withDomain name fun domain =>
    if domain.state = .shutoff then (.failed (.call (.notRunning name)), h)
    else (.done (), h.setDomain name { domain with state := .shutoff, interfaces := [] })
  | .undefineDomain name => h.withDomain name fun _ =>
    (.done (), { h with domains := h.domains.erase name })
  | .leaseAddresses name => h.withDomain name fun domain =>
    if domain.state = .running then (.done domain.interfaces, h)
    else (.failed (.call (.notRunning name)), h)
  | .lookupPool pool => h.withPool pool fun _ => (.done (), h)
  | .refreshPool pool => h.withPool pool fun _ => (.done (), h)
  | .createVolume pool descriptor => h.withPool pool fun volumes =>
    if descriptor.name ∈ volumes then
      (.failed (.alreadyExists .storageVolume descriptor.name), h)
    else
      let volume := Volume.create pool descriptor
      (.done volume.path, h.setPool pool (volumes.insert descriptor.name volume))
  | .volumePath pool volume => h.withVolume pool volume fun _ found => (.done found.path, h)
  | .uploadVolume pool volume data => h.withVolume pool volume fun volumes found =>
    if found.descriptor.capacity.inBytes.toNat < data.length then
      (.failed (.call (.exceedsCapacity data.length volume)), h)
    else
      let landed := if h.corruptsUploads then corrupted data else data
      (.done (), h.setPool pool (volumes.insert volume { found with content := .written landed }))
  | .downloadVolume pool volume => h.withVolume pool volume fun _ found => (.done found.content, h)
  | .deleteVolume pool volume => h.withVolume pool volume fun volumes _ =>
    (.done (), h.setPool pool (volumes.erase volume))

def serve (h : Host) (request : Request) : Outcome HostError request.Reply × Host :=
  if request.call ∈ h.failing then (.failed (.call (.injected request.call)), h)
  else h.answer request

end Host

/-- What can be done to a host behind the back of whoever uses it. -/
inductive Change
  | addPool (pool : String)
  | refuseConnections (refuse : Bool)
  | corruptUploads (corrupt : Bool)
  | failCall (call : Call)
  | clearFailures
  | bootInto (state : PowerState)
  | leaseOnBoot (interfaces : List Interface)
  | setState (domain : String) (state : PowerState)
  | setVcpus (domain : String) (vcpus : UInt32)
  | setMaxMemory (domain : String) (mib : UInt64)
  | setLeases (domain : String) (interfaces : List Interface)
  | insertVolume (pool : String) (descriptor : VolumeDescriptor) (data : Bytes)
deriving DecidableEq, Repr

namespace Host

def updateDomain (h : Host) (name : String) (f : Domain → Domain) : Host :=
  { h with domains := h.domains.update name f }

/-- Carries out a change. One to a domain that is not there does nothing. -/
def change {ε : Type} (h : Host) : Change → Outcome ε Unit × Host
  | .addPool pool => (.done (), if pool ∈ h.pools then h else h.setPool pool ∅)
  | .refuseConnections refuse => (.done (), { h with refusesConnections := refuse })
  | .corruptUploads corrupt => (.done (), { h with corruptsUploads := corrupt })
  | .failCall call => (.done (), { h with failing := call :: h.failing })
  | .clearFailures => (.done (), { h with failing := [] })
  | .bootInto state => (.done (), { h with bootState := state })
  | .leaseOnBoot interfaces => (.done (), { h with bootLeases := interfaces })
  | .setState name state => (.done (), h.updateDomain name ({ · with state }))
  | .setVcpus name vcpus => (.done (), h.updateDomain name ({ · with vcpus }))
  | .setMaxMemory name mib =>
    if name ∈ h.domains then
      match kibOfMib? mib with
      | some memory => (.done (), h.updateDomain name ({ · with maxMemoryKib := memory }))
      | none => (.overflow, h)
    else (.done (), h)
  | .setLeases name interfaces => (.done (), h.updateDomain name ({ · with interfaces }))
  | .insertVolume pool descriptor data =>
    let volumes := h.pools[pool]?.getD ∅
    let volume := { Volume.create pool descriptor with content := .written data }
    (.done (), h.setPool pool (volumes.insert descriptor.name volume))

/-- Carries out changes one after another, up to the first that overflows. -/
def changes {ε : Type} (h : Host) : List Change → Outcome ε Unit × Host
  | [] => (.done (), h)
  | c :: rest =>
    match h.change c with
    | (.done (), h) => h.changes rest
    | stopped => stopped

/-- The names of a pool's volumes; a pool that is not there has none. -/
def volumeNames (h : Host) (pool : String) : List String :=
  match h.pools[pool]? with
  | some volumes => volumes.keys
  | none => []

def volume? (h : Host) (pool volume : String) : Option Volume :=
  h.pools[pool]? >>= fun volumes => volumes[volume]?

end Host

end MachineKeeper
