import MachineKeeper.Proofs.Recreation
import MachineKeeper.Proofs.Store

/-! Operations on a host that nobody else touches and where every call gets through: there what was
on the host decides how an operation ends and what it leaves. -/
namespace MachineKeeper

/-- No call is made to fail, connections are accepted, and nobody else changes the host. -/
structure World.Calm (w : World) : Prop where
  hostFaults : w.hostFaults = []
  storeFaults : w.storeFaults = []
  able : w.host.failing = []
  accepts : w.host.refusesConnections = false

/-- A specification that can be met on a host: there is an image for it, and its memory can be counted. -/
structure Spec.Buildable (spec : Spec) : Prop where
  short : spec.name.length ≤ Lifecycle.maxNameLength
  userData : spec.userData.utf8ByteSize < UInt32.size
  memory : spec.memory.toNat * 1024 < UInt64.size

namespace World.Calm

variable {w : World} (calm : w.Calm)
include calm

theorem undisturbed : w.Undisturbed := undisturbed_of_nil calm.hostFaults calm.storeFaults

theorem storeServes : w.StoreServes := storeServes_of_nil calm.storeFaults

theorem hears (call : Call) (n : Nat) : w.Hears call n :=
  hears_of_calm calm.hostFaults calm.able call n

theorem admits : w.Admits := admits_of_calm calm.hostFaults calm.accepts

end World.Calm

namespace Host

/-- The host without the volumes of a machine. -/
def withoutVolumes (h : Host) (pool : String) (names : Names) : Host :=
  { h with pools := h.pools.update pool fun volumes =>
      (volumes.erase names.diskVolume).erase names.seedVolume }

/-- The host without a machine, neither its domain nor its volumes. -/
def without (h : Host) (name pool : String) : Host :=
  withoutVolumes { h with domains := h.domains.erase name } pool (.of name)

theorem withoutVolumes_missing {h : Host} {pool : String} {names : Names}
    (missing : h.pools[pool]? = none) : h.withoutVolumes pool names = h := by
  simp only [withoutVolumes, Table.update, missing]

theorem withoutVolumes_eq {h : Host} {pool : String} {names : Names} {volumes : Table Volume}
    (there : h.pools[pool]? = some volumes) : h.withoutVolumes pool names =
      h.setPool pool ((volumes.erase names.diskVolume).erase names.seedVolume) := by
  simp only [withoutVolumes, Table.update, there, setPool]

theorem mem_pools_withoutVolumes {h : Host} {pool key : String} {names : Names} :
    key ∈ (h.withoutVolumes pool names).pools ↔ key ∈ h.pools := by
  simp only [withoutVolumes, Std.ExtTreeMap.mem_iff_isSome_getElem?, Table.getElem?_update]
  split
  next same => rw [same, Option.isSome_map]
  next => rfl

theorem mem_pools_without {h : Host} {name pool key : String} :
    key ∈ (h.without name pool).pools ↔ key ∈ h.pools :=
  mem_pools_withoutVolumes

theorem setDomain_without (h : Host) (name pool : String) (domain : Domain) :
    (h.setDomain name domain).without name pool = h.without name pool := by
  simp only [without, setDomain, Table.erase_insert_self]

theorem objects_without (h : Host) (name pool : String) :
    (h.without name pool).objects = h.objects.without name pool := rfl

end Host

namespace Session

variable {α : Type} {w w' : World} {r : Request} {ok : Request → Prop}

theorem SameStore.calm (same : SameStore w w') (behaves : w'.host.behaviour = w.host.behaviour)
    (calm : w.Calm) : w'.Calm where
  hostFaults := same.hostFaults_nil calm.hostFaults
  storeFaults := same.storeFaults.trans calm.storeFaults
  able := (Host.failing_of_behaviour behaves).trans calm.able
  accepts := (Host.refusesConnections_of_behaviour behaves).trans calm.accepts

theorem Reaches.calm (path : Reaches ok w w') (calm : w.Calm) : w'.Calm := by
  refine path.store.calm ?_ calm
  exact path.host (P := fun h => h.behaviour = w.host.behaviour) calm.undisturbed
    (fun r h _ same => (Host.answer_behaviour h r).trans same) rfl

theorem send_calm {o : Outcome HostError r.Reply} (calm : w.Calm) (run : send r w = (o, w')) :
    w.host.answer r = (o, w'.host) ∧ w'.Calm := by
  have path : Reaches (fun _ => True) w w' := (reaches_send trivial).of_run run
  exact ⟨(send_heard calm.undisturbed run (calm.hears _ _)).1, path.calm calm⟩

/-- A request leads to where the host's answer leads. -/
theorem answered {o : Outcome HostError r.Reply} {h : Host} (calm : w.Calm)
    (answer : w.host.answer r = (o, h)) : ∃ w', send r w = (o, w') ∧ w'.host = h ∧ w'.Calm := by
  obtain ⟨w', sent, host, _⟩ := send_answered calm.undisturbed answer (calm.hears _ _)
  exact ⟨w', sent, host, (send_calm calm sent).2⟩

theorem ask_calm {context : String} {o : Outcome Error r.Reply} (calm : w.Calm)
    (run : ask context r w = (o, w')) :
    ∃ o₁, w.host.answer r = (o₁, w'.host) ∧ o = o₁.mapError (.host context) ∧ w'.Calm := by
  obtain ⟨o₁, sent, same⟩ := Action.mapError_cases run
  obtain ⟨answer, calm'⟩ := send_calm calm sent
  exact ⟨o₁, answer, same, calm'⟩

theorem connected_calm {body : Action Error α} {o : Outcome Error α} (calm : w.Calm)
    (within : body.Keeps (Reaches ok)) (run : connected body w = (o, w')) :
    ∃ w₁ w₂, w₁.Calm ∧ w₁.host.objects = w.host.objects ∧ body w₁ = (o, w₂) ∧
      w'.host.objects = w₂.host.objects := by
  obtain ⟨w₁, w₂, opened, _, ran, closed⟩ :=
    connected_admitted calm.undisturbed within calm.admits run
  have calm₁ := opened.toSameStore.calm (Host.behaviour_of_objects opened.objects) calm
  refine ⟨w₁, w₂, calm₁, opened.objects, ran, ?_⟩
  rcases closed with idle | ⟨_, rfl⟩
  · exact idle.objects
  · rfl

end Session

namespace Store

open MachineKeeper.Action

variable {ε : Type} {w : World} {name : String} {record : Record}

theorem SameHost.calm {w' : World} (same : SameHost w w') (calm : w.Calm) : w'.Calm where
  hostFaults := same.hostFaults.trans calm.hostFaults
  storeFaults := by
    apply List.eq_nil_iff_forall_not_mem.mpr
    intro g member
    obtain ⟨f, there, _⟩ := same.storeFaults g member
    rw [calm.storeFaults] at there
    cases there
  able := (congrArg Host.failing same.host).trans calm.able
  accepts := (congrArg Host.refusesConnections same.host).trans calm.accepts

theorem meetFaults_idle (idle : w.storeFaults = []) (site : StoreSite) :
    meetFaults site w = (.done (), w) :=
  meetFaults_none (by simp [idle])

theorem secret_idle (idle : w.storeFaults = []) (name : String) :
    secret name w = (.done w.secrets[name]?, w) :=
  bind_of_done (meetFaults_idle idle .secret)

theorem get_calm (calm : w.Calm) (name : String) : get name w = (.done w.records[name]?, w) :=
  get_served calm.storeServes name

theorem writeBack_room (room : record.version.toNat + 1 < UInt64.size) :
    (writeBack name record : Action ε Record) w =
      (.done { record with version := record.version + 1 },
        { w with records := w.records.insert name { record with version := record.version + 1 } }) := by
  simp only [writeBack, nextVersion?, room, ↓reduceIte]

theorem patchStatus_served {patch : Status → Status} (serves : w.StoreServes)
    (found : w.records[name]? = some record) (room : record.version.toNat + 1 < UInt64.size) :
    patchStatus name patch w = (.done (patch record.status), { w with
      records := w.records.insert name
        { record with status := patch record.status, version := record.version + 1 } }) := by
  have met := meetFaults_served serves (by decide : StoreSite.patchStatus ≠ .secret)
  have written :
      (writeBack name { record with status := patch record.status } : Action Failure Record) w = _ :=
    writeBack_room room
  refine (bind_of_done met).trans ?_
  simp only [found, map_run, written]

theorem removeFinalizer_served (serves : w.StoreServes) (found : w.records[name]? = some record)
    (requested : record.deletionRequested = true) :
    removeFinalizer name w = (.done (), { w with records := w.records.erase name }) := by
  have met := meetFaults_served serves (by decide : StoreSite.removeFinalizer ≠ .secret)
  refine (bind_of_done met).trans ?_
  simp only [found, requested, ↓reduceIte]

end Store

namespace Lifecycle

open Session MachineKeeper.Action

variable {ε : Type} {w w' : World} {name pool : String} {spec : Spec}

theorem deleteIfThere_calm {volume : String} {volumes : Table Volume} {o : Outcome Error Unit}
    (calm : w.Calm) (there : w.host.pools[pool]? = some volumes)
    (run : deleteIfThere pool volume w = (o, w')) :
    o = .done () ∧ w'.host = w.host.setPool pool (volumes.erase volume) ∧ w'.Calm := by
  have path := (deleteIfThere_reaches (List.mem_singleton_self volume)).of_run run
  have clearable : Clearable w := ⟨calm.hears _ _, calm.hears _ _⟩
  obtain ⟨ended, host, _⟩ := deleteIfThere_free calm.undisturbed there (fun _ => clearable) run
  exact ⟨ended, host, path.calm calm⟩

theorem connected_ask_calm {r : Request} {context : String} {o : Outcome Error r.Reply}
    (calm : w.Calm) (run : connected (ask context r) w = (o, w')) :
    o = (w.host.answer r).1.mapError (.host context) := by
  have within : (ask context r).Keeps (Reaches fun _ => True) := reaches_ask context trivial
  obtain ⟨w₁, w₂, calm₁, opened, asked, _⟩ := connected_calm calm within run
  obtain ⟨o₁, answer, rfl, _⟩ := ask_calm calm₁ asked
  have same := (Host.answer_of_objects opened r).1
  rw [answer] at same
  exact congrArg (Outcome.mapError _) same

theorem holds_of_done {α : Type} {question : Action Error α} {test : α → Bool} {a : α}
    (asked : question w = (.done a, w')) :
    (holds question test : Action ε Bool) w = (.done (test a), w') := by
  rw [holds, bind_of_done (attempt_of_done asked)]
  rfl

theorem holds_of_failed {α : Type} {question : Action Error α} {test : α → Bool} {e : Error}
    (asked : question w = (.failed e, w')) :
    (holds question test : Action ε Bool) w = (.done false, w') := by
  rw [holds, bind_of_done (attempt_of_failed asked)]
  rfl

/-- A question with an answer is decided by it. -/
theorem holds_answered {r : Request} {context : String} {test : r.Reply → Bool} {reply : r.Reply}
    (calm : w.Calm) (answer : (w.host.answer r).1 = .done reply) :
    ∃ w', (holds (connected (ask context r)) test : Action ε Bool) w = (.done (test reply), w') := by
  obtain ⟨o, w', asked⟩ : ∃ o w', connected (ask context r) w = (o, w') := ⟨_, _, rfl⟩
  obtain rfl := connected_ask_calm calm asked
  rw [answer] at asked
  exact ⟨w', holds_of_done asked⟩

/-- A question that has none is a no. -/
theorem holds_unanswered {r : Request} {context : String} {test : r.Reply → Bool} {e : HostError}
    (calm : w.Calm) (answer : (w.host.answer r).1 = .failed e) :
    ∃ w', (holds (connected (ask context r)) test : Action ε Bool) w = (.done false, w') := by
  obtain ⟨o, w', asked⟩ : ∃ o w', connected (ask context r) w = (o, w') := ⟨_, _, rfl⟩
  obtain rfl := connected_ask_calm calm asked
  rw [answer] at asked
  exact ⟨w', holds_of_failed asked⟩

theorem isDefined_missing (calm : w.Calm) (missing : w.host.domains[name]? = none) :
    ∃ w', (isDefined name : Action ε Bool) w = (.done false, w') :=
  holds_unanswered calm (congrArg (·.1) (Host.answer_domainState_missing missing))

theorem isDefined_there {domain : Domain} (calm : w.Calm)
    (there : w.host.domains[name]? = some domain) :
    ∃ w', (isDefined name : Action ε Bool) w = (.done true, w') :=
  holds_answered calm (congrArg (·.1) (Host.answer_domainState there))

theorem isInSync_there {domain : Domain} (calm : w.Calm)
    (there : w.host.domains[spec.name]? = some domain) :
    ∃ w', (isInSync spec : Action ε Bool) w = (.done (fits spec domain.info), w') :=
  holds_answered calm (congrArg (·.1) (Host.answer_domainInfo there))

theorem isRunning_there {domain : Domain} (calm : w.Calm)
    (there : w.host.domains[name]? = some domain) :
    ∃ w', (isRunning name : Action ε Bool) w = (.done (domain.state = .running), w') :=
  holds_answered calm (congrArg (·.1) (Host.answer_domainState there))

theorem readLeases_calm {domain : Domain} {o : Outcome Error (List String)} (calm : w.Calm)
    (there : w.host.domains[name]? = some domain) (runs : domain.state = .running)
    (run : readLeases name w = (o, w')) : o = .done (reachable domain.interfaces) := by
  obtain ⟨w₁, asked, same, calm₁⟩ := answered calm (Host.answer_domainState there)
  rw [← same] at there
  obtain ⟨w₂, leased, _⟩ := answered calm₁ (Host.answer_leaseAddresses there runs)
  rw [readLeases, askState, bind_of_done (ask_of_done asked), if_neg (not_not_intro runs),
    bind_of_done (attempt_of_done leased)] at run
  exact (Prod.mk.inj run).1.symm

theorem addresses_calm {domain : Domain} (calm : w.Calm)
    (there : w.host.domains[name]? = some domain) (runs : domain.state = .running) :
    ∃ w', addresses name w = (.done (reachable domain.interfaces), w') := by
  obtain ⟨o, w', run⟩ : ∃ o w', addresses name w = (o, w') := ⟨_, _, rfl⟩
  rw [addresses_eq] at run
  obtain ⟨w₁, w₂, calm₁, opened, ran, _⟩ := connected_calm calm (readLeases_reaches name) run
  rw [← Host.domains_of_objects opened] at there
  obtain rfl := readLeases_calm calm₁ there runs ran
  exact ⟨w', run⟩

theorem deleteVolumes_calm {names : Names} {o : Outcome Error Unit} (calm : w.Calm)
    (run : deleteVolumes pool names w = (o, w')) :
    o = .done () ∧ w'.host = w.host.withoutVolumes pool names := by
  cases there : w.host.pools[pool]? with
  | none =>
    obtain ⟨w₁, found, same, _⟩ := answered calm (Host.answer_lookupPool_missing there)
    rw [deleteVolumes, bind_of_done (attempt_of_failed found)] at run
    obtain ⟨rfl, rfl⟩ := Prod.mk.inj run
    exact ⟨rfl, by rw [Host.withoutVolumes_missing there, same]⟩
  | some volumes =>
    obtain ⟨w₁, found, same₁, calm₁⟩ := answered calm (Host.answer_lookupPool there)
    rw [Host.withoutVolumes_eq there, ← same₁]
    rw [← same₁] at there
    obtain ⟨w₂, fresh, same₂, calm₂⟩ := answered calm₁ (Host.answer_refreshPool there)
    rw [← same₂] at there ⊢
    obtain ⟨o₃, w₃, disk⟩ : ∃ o₃ w₃, deleteIfThere pool names.diskVolume w₂ = (o₃, w₃) := ⟨_, _, rfl⟩
    obtain ⟨rfl, host₃, calm₃⟩ := deleteIfThere_calm calm₂ there disk
    obtain ⟨o₄, w₄, seed⟩ : ∃ o₄ w₄, deleteIfThere pool names.seedVolume w₃ = (o₄, w₄) := ⟨_, _, rfl⟩
    obtain ⟨rfl, host₄, calm₄⟩ :=
      deleteIfThere_calm calm₃ (by rw [host₃, Host.setPool_pools_self]) seed
    rw [host₃, Host.setPool_setPool] at host₄
    obtain ⟨w₅, again, same₅, _⟩ :=
      answered calm₄ (Host.answer_refreshPool (by rw [host₄, Host.setPool_pools_self]))
    rw [deleteVolumes, bind_of_done (attempt_of_done found)] at run
    dsimp only at run
    rw [bind_of_done (attempt_of_done fresh), bind_of_done disk, bind_of_done seed,
      bind_of_done (attempt_of_done again)] at run
    obtain ⟨rfl, rfl⟩ := Prod.mk.inj run
    exact ⟨rfl, same₅.trans host₄⟩

theorem undefine_calm {domain : Domain} {o : Outcome Error Unit} (calm : w.Calm)
    (there : w.host.domains[name]? = some domain) (run : undefine name pool w = (o, w')) :
    o = .done () ∧ w'.host = w.host.without name pool := by
  obtain ⟨w₁, asked, host₁, calm₁⟩ := answered calm (Host.answer_undefineDomain there)
  rw [undefine, bind_of_done (ask_of_done asked)] at run
  obtain ⟨ended, host⟩ := deleteVolumes_calm calm₁ run
  exact ⟨ended, by rw [host, host₁, Host.without]⟩

theorem teardown_calm {domain : Domain} {o : Outcome Error Unit} (calm : w.Calm)
    (there : w.host.domains[name]? = some domain) (run : teardown name pool w = (o, w')) :
    o = .done () ∧ w'.host = w.host.without name pool := by
  obtain ⟨w₁, asked, same, calm₁⟩ := answered calm (Host.answer_domainState there)
  rw [← same] at there ⊢
  rw [teardown, bind_of_done (attempt_of_done asked)] at run
  dsimp only at run
  split at run
  next active =>
    have powered : domain.state ≠ .shutoff := by
      intro off
      simp [PowerState.isActive, off] at active
    obtain ⟨w₂, stopped, host₂, calm₂⟩ := answered calm₁ (Host.answer_destroyDomain there powered)
    rw [bind_of_done (ask_of_done stopped)] at run
    obtain ⟨ended, host⟩ :=
      undefine_calm calm₂ (by rw [host₂, Host.setDomain_domains_self]) run
    exact ⟨ended, by rw [host, host₂, Host.setDomain_without]⟩
  next => exact undefine_calm calm₁ there run

theorem destroy_calm {domain : Domain} (calm : w.Calm)
    (there : w.host.domains[name]? = some domain) :
    ∃ w', destroy name pool w = (.done (), w') ∧ Reaches (TearsDown name pool) w w' ∧
      w'.host.objects = w.host.objects.without name pool := by
  obtain ⟨o, w', run⟩ : ∃ o w', destroy name pool w = (o, w') := ⟨_, _, rfl⟩
  have path := (destroy_reaches name pool).of_run run
  rw [destroy_eq] at run
  obtain ⟨w₁, w₂, calm₁, opened, ran, closed⟩ := connected_calm calm (teardown_reaches name pool) run
  rw [← Host.domains_of_objects opened] at there
  obtain ⟨rfl, host⟩ := teardown_calm calm₁ there ran
  exact ⟨w', run, path, by rw [closed, host, Host.objects_without, opened]⟩

/-- The disk of a machine that was never started. -/
def blankDisk (spec : Spec) : Volume :=
  .create spec.storagePool (.overlay spec.names.diskVolume spec.diskSize spec.backingImagePath
    spec.backingImageFormat)

/-- The volumes of a pool once those of a machine are made. -/
def furnished (h : Host) (spec : Spec) (image : Bytes) (volumes : Table Volume) : Table Volume :=
  let seed := seedVolume h spec.storagePool spec.names.seedVolume image
  (volumes.insert spec.names.seedVolume seed).insert spec.names.diskVolume (blankDisk spec)

def descriptorFor (spec : Spec) : DomainDescriptor :=
  domainFor spec (volumePath spec.storagePool spec.names.diskVolume)
    (volumePath spec.storagePool spec.names.seedVolume)

/-- The domain of a machine that was just started. -/
def booted (h : Host) (spec : Spec) : Domain where
  descriptor := descriptorFor spec
  state := h.bootState
  vcpus := spec.cpu
  maxMemoryKib := spec.memory * 1024
  interfaces := h.bootLeases

/-- The host with a machine on it that was just made. -/
def equipped (h : Host) (spec : Spec) (image : Bytes) : Host :=
  let volumes := h.pools[spec.storagePool]?.getD ∅
  (h.setPool spec.storagePool (furnished h spec image volumes)).setDomain spec.name (booted h spec)

theorem equipped_eq {h : Host} {image : Bytes} {volumes : Table Volume}
    (there : h.pools[spec.storagePool]? = some volumes) : equipped h spec image =
      (h.setPool spec.storagePool (furnished h spec image volumes)).setDomain spec.name (booted h spec) := by
  simp only [equipped, there, Option.getD_some]

/-- How the making of a machine ends that is not on the host yet, and what is on the host then. -/
inductive Creation (h : Host) (spec : Spec) : Outcome Error Unit → Host → Prop
  | misnamed (long : maxNameLength < spec.name.length) :
      Creation h spec (.failed (.invalidName spec.name spec.name.length maxNameLength)) h
  | unimaged {e : Iso.Error} (short : spec.name.length ≤ maxNameLength)
      (failed : CloudInit.image spec.name spec.userData = .error e) :
      Creation h spec (.failed (.seedImage e)) h
  | unplaced {image : Bytes} (short : spec.name.length ≤ maxNameLength)
      (built : CloudInit.image spec.name spec.userData = .ok image)
      (missing : h.pools[spec.storagePool]? = none) :
      Creation h spec (.failed (.create spec.name
        (.host s!"failed to get storage pool '{spec.storagePool}'"
          (.notFound .storagePool spec.storagePool)))) h
  | garbled {image : Bytes} {volumes : Table Volume} (short : spec.name.length ≤ maxNameLength)
      (built : CloudInit.image spec.name spec.userData = .ok image)
      (there : h.pools[spec.storagePool]? = some volumes) (corrupts : h.corruptsUploads = true) :
      Creation h spec (.failed (.create spec.name (.uploadMismatch spec.names.seedVolume
        image.length (Host.corrupted image).length)))
        (h.setPool spec.storagePool (volumes.insert spec.names.seedVolume
          (seedVolume h spec.storagePool spec.names.seedVolume image)))
  | started {image : Bytes} {volumes : Table Volume} (short : spec.name.length ≤ maxNameLength)
      (built : CloudInit.image spec.name spec.userData = .ok image)
      (there : h.pools[spec.storagePool]? = some volumes) (intact : h.corruptsUploads = false) :
      Creation h spec (.done ())
        ((h.setPool spec.storagePool (furnished h spec image volumes)).setDomain spec.name
          (booted h spec))

/-- A machine that can be made is made, where uploads land as they are and its pool is there. -/
theorem Creation.received {h h' : Host} {o : Outcome Error Unit} (creation : Creation h spec o h')
    (buildable : spec.Buildable) (intact : h.corruptsUploads = false) (placed : spec.storagePool ∈ h.pools) :
    ∃ image, CloudInit.image spec.name spec.userData = .ok image ∧ o = .done () ∧
      h' = equipped h spec image := by
  cases creation with
  | misnamed long => exact absurd long (Nat.not_lt.mpr buildable.short)
  | unimaged _ failed =>
    obtain ⟨image, built⟩ := image_built_of_short buildable.short buildable.userData
    cases failed.symm.trans built
  | unplaced _ _ missing =>
    obtain ⟨_, there⟩ := Table.found_of_mem placed
    cases missing.symm.trans there
  | garbled _ _ _ corrupts => cases corrupts.symm.trans intact
  | started _ built there => exact ⟨_, built, rfl, (equipped_eq there).symm⟩

theorem createDiskVolume_calm {volumes : Table Volume} {o : Outcome Error String} (calm : w.Calm)
    (there : w.host.pools[spec.storagePool]? = some volumes)
    (run : createDiskVolume spec w = (o, w')) :
    o = .done (volumePath spec.storagePool spec.names.diskVolume) ∧ w'.Calm ∧
      w'.host = w.host.setPool spec.storagePool
        (volumes.insert spec.names.diskVolume (blankDisk spec)) := by
  obtain ⟨o₁, w₁, removed⟩ :
    ∃ o₁ w₁, deleteIfThere spec.storagePool spec.names.diskVolume w = (o₁, w₁) := ⟨_, _, rfl⟩
  obtain ⟨rfl, host₁, calm₁⟩ := deleteIfThere_calm calm there removed
  rw [createDiskVolume, bind_of_done removed] at run
  obtain ⟨o₂, answer, rfl, calm'⟩ := ask_calm calm₁ run
  have there₁ : w₁.host.pools[spec.storagePool]? = some (volumes.erase spec.names.diskVolume) := by
    rw [host₁, Host.setPool_pools_self]
  rw [Host.answer_createVolume there₁ (by simp)] at answer
  obtain ⟨rfl, host'⟩ := Prod.mk.inj answer
  refine ⟨rfl, calm', ?_⟩
  rw [← host', host₁, Host.setPool_setPool, VolumeDescriptor.overlay_name, Table.insert_erase_self]
  rfl

theorem install_calm {volumes : Table Volume} {o : Outcome Error Unit} (calm : w.Calm)
    (there : w.host.pools[spec.storagePool]? = some volumes)
    (missing : w.host.domains[spec.name]? = none) (memory : spec.memory.toNat * 1024 < UInt64.size)
    (run : install spec (volumePath spec.storagePool spec.names.seedVolume) w = (o, w')) :
    o = .done () ∧ w'.host = (w.host.setPool spec.storagePool
      (volumes.insert spec.names.diskVolume (blankDisk spec))).setDomain spec.name
        (booted w.host spec) := by
  obtain ⟨o₁, w₁, made⟩ : ∃ o₁ w₁, createDiskVolume spec w = (o₁, w₁) := ⟨_, _, rfl⟩
  obtain ⟨rfl, calm₁, host₁⟩ := createDiskVolume_calm calm there made
  have missing₁ : w₁.host.domains[(descriptorFor spec).name]? = none := by rw [host₁]; exact missing
  obtain ⟨w₂, defined, host₂, calm₂⟩ := answered calm₁ (Host.answer_defineDomain missing₁ memory)
  obtain ⟨w₃, booted, host₃, _⟩ := answered calm₂
    (Host.answer_startDomain (by rw [host₂, Host.setDomain_domains_self]) (by nofun))
  rw [install, bind_of_done made] at run
  obtain ⟨rfl, rfl⟩ := Prod.mk.inj (((bind_of_done (ask_of_done defined)).trans
    (ask_of_done booted)).symm.trans run)
  refine ⟨rfl, ?_⟩
  rw [host₃, host₂, Host.setDomain_setDomain, host₁]
  rfl

theorem createSeedVolume_calm {image : Bytes} {volumes : Table Volume} {o : Outcome Error String}
    (calm : w.Calm) (there : w.host.pools[spec.storagePool]? = some volumes)
    (fits : image.length < UInt64.size)
    (run : createSeedVolume spec.storagePool spec.names.seedVolume image w = (o, w')) :
    w'.Calm ∧ w'.host = w.host.setPool spec.storagePool (volumes.insert spec.names.seedVolume
        (seedVolume w.host spec.storagePool spec.names.seedVolume image)) ∧
      o = if landed w.host image = image then
          .done (volumePath spec.storagePool spec.names.seedVolume)
        else .failed (.uploadMismatch spec.names.seedVolume image.length
          (landed w.host image).length) := by
  have remakable : Remakable spec.storagePool spec.names.seedVolume w :=
    ⟨fun _ => ⟨calm.hears _ _, calm.hears _ _⟩, calm.hears _ _, calm.hears _ _, calm.hears _ _⟩
  exact ⟨((createSeedVolume_reaches spec image).of_run run).calm calm,
    createSeedVolume_remade calm.undisturbed there fits remakable run⟩

theorem provision_calm {image : Bytes} {o : Outcome Error Unit} (calm : w.Calm)
    (short : spec.name.length ≤ maxNameLength)
    (built : CloudInit.image spec.name spec.userData = .ok image)
    (missing : w.host.domains[spec.name]? = none) (memory : spec.memory.toNat * 1024 < UInt64.size)
    (run : (provision spec image).mapError (.create spec.name) w = (o, w')) :
    Creation w.host.objects spec o w'.host.objects := by
  obtain ⟨o₀, ran, rfl⟩ := mapError_cases run
  rw [provision_eq] at ran
  cases there : w.host.pools[spec.storagePool]? with
  | none =>
    obtain ⟨w₁, found, same, _⟩ := answered calm (Host.answer_lookupPool_missing there)
    rw [bind_of_failed (ask_of_failed found)] at ran
    obtain ⟨rfl, rfl⟩ := Prod.mk.inj ran
    rw [same]
    exact .unplaced short built there
  | some volumes =>
    obtain ⟨w₁, found, same, calm₁⟩ := answered calm (Host.answer_lookupPool there)
    rw [bind_of_done (ask_of_done found)] at ran
    obtain ⟨o₂, w₂, made⟩ :
      ∃ o₂ w₂, createSeedVolume spec.storagePool spec.names.seedVolume image w₁ = (o₂, w₂) :=
      ⟨_, _, rfl⟩
    obtain ⟨nonempty, fits⟩ := image_length built
    obtain ⟨calm₂, host₂, ended⟩ := createSeedVolume_calm calm₁ (same ▸ there) fits made
    rw [same] at host₂ ended
    -- The image is not empty, so that inverting its last byte shows when it is read back.
    cases corrupts : w.host.corruptsUploads with
    | true =>
      have differs : landed w.host image ≠ image := by
        rw [Ne, landed_eq_iff nonempty, corrupts]
        nofun
      rw [if_neg differs, landed, if_pos corrupts] at ended
      subst ended
      rw [furnish, bind_of_failed made] at ran
      obtain ⟨rfl, rfl⟩ := Prod.mk.inj ran
      rw [host₂]
      exact .garbled short built there corrupts
    | false =>
      rw [if_pos ((landed_eq_iff nonempty).mpr corrupts)] at ended
      subst ended
      rw [furnish, bind_of_done made] at ran
      have missing₂ : w₂.host.domains[spec.name]? = none := by rw [host₂]; exact missing
      obtain ⟨rfl, host⟩ :=
        install_calm calm₂ (by rw [host₂, Host.setPool_pools_self]) missing₂ memory ran
      rw [host, host₂, Host.setPool_setPool]
      exact .started short built there corrupts

theorem create_calm {o : Outcome Error Unit} (calm : w.Calm)
    (missing : w.host.domains[spec.name]? = none) (memory : spec.memory.toNat * 1024 < UInt64.size)
    (run : create spec w = (o, w')) : Creation w.host.objects spec o w'.host.objects := by
  unfold create at run
  split at run
  next long =>
    obtain ⟨rfl, rfl⟩ := Prod.mk.inj run
    exact .misnamed long
  next short =>
  have short : spec.name.length ≤ maxNameLength := Nat.le_of_not_gt short
  cases built : CloudInit.image spec.name spec.userData with
  | error e =>
    rw [built] at run
    obtain ⟨rfl, rfl⟩ := Prod.mk.inj run
    exact .unimaged short built
  | ok image =>
    rw [built] at run
    change connected ((provision spec image).mapError (.create spec.name)) w = (o, w') at run
    obtain ⟨w₁, w₂, calm₁, opened, ran, closed⟩ :=
      connected_calm calm ((provision_reaches spec image).mapError _) run
    rw [← Host.domains_of_objects opened] at missing
    rw [closed, ← opened]
    exact provision_calm calm₁ short built missing memory ran

end Lifecycle

end MachineKeeper
