import MachineKeeper.Proofs.Matching

/-! A machine that is made where nothing stands in its way. Its host holds afterwards what the specification
asks for, and of everything else what it held before; volumes that an earlier attempt left under the
machine's names make no difference. -/
namespace MachineKeeper

/-- Every call gets through to the host, which has the machine's pool and no domain of its name. -/
structure World.Receives (w : World) (spec : Spec) : Prop where
  hostFaults : w.hostFaults = []
  able : w.host.failing = []
  accepts : w.host.refusesConnections = false
  intact : w.host.corruptsUploads = false
  placed : spec.storagePool ∈ w.host.pools
  missing : spec.name ∉ w.host.domains

namespace Host

open Lifecycle

variable {h h' k k' : Host} {spec : Spec} {image : Bytes} {volumes : Table Volume}

/-- What a host holds, `h'`, once a machine was made with `image` on a host that held `h`. -/
structure Furnished (spec : Spec) (image : Bytes) (h h' : Host) : Prop where
  domain : h'.domains[spec.name]? = some {
    descriptor := {
      name := spec.name
      memoryMib := spec.memory
      vcpus := spec.cpu
      diskPath := volumePath spec.storagePool spec.names.diskVolume
      seedPath := volumePath spec.storagePool spec.names.seedVolume
      network := spec.network }
    state := h.bootState
    vcpus := spec.cpu
    maxMemoryKib := spec.memory * 1024
    interfaces := h.bootLeases }
  memory : (spec.memory * 1024).toNat = spec.memory.toNat * 1024
  seed : h'.volume? spec.storagePool spec.names.seedVolume = some {
    descriptor := .raw spec.names.seedVolume image.length.toUInt64
    path := volumePath spec.storagePool spec.names.seedVolume
    content := .written image }
  capacity : image.length.toUInt64.toNat = image.length
  disk : h'.volume? spec.storagePool spec.names.diskVolume = some {
    descriptor := .overlay spec.names.diskVolume spec.diskSize spec.backingImagePath spec.backingImageFormat
    path := volumePath spec.storagePool spec.names.diskVolume
    content := .blank 0 }
  otherDomains : ∀ name, name ≠ spec.name → h'.domains[name]? = h.domains[name]?
  otherVolumes : ∀ volume, volume ≠ spec.names.diskVolume → volume ≠ spec.names.seedVolume →
    h'.volume? spec.storagePool volume = h.volume? spec.storagePool volume
  otherPools : ∀ pool, pool ≠ spec.storagePool → h'.pools[pool]? = h.pools[pool]?
  behaviour : h'.behaviour = h.behaviour

theorem Furnished.of_objects (furnished : Furnished spec image h h') (same : k'.objects = h'.objects) :
    Furnished spec image h k' where
  domain := domains_of_objects same ▸ furnished.domain
  memory := furnished.memory
  seed := (volume?_of_objects same _ _).trans furnished.seed
  capacity := furnished.capacity
  disk := (volume?_of_objects same _ _).trans furnished.disk
  otherDomains := domains_of_objects same ▸ furnished.otherDomains
  otherVolumes volume disk seed := (volume?_of_objects same _ _).trans (furnished.otherVolumes volume disk seed)
  otherPools := pools_of_objects same ▸ furnished.otherPools
  behaviour := (behaviour_of_objects same).trans furnished.behaviour

theorem equipped_furnished (placed : spec.storagePool ∈ h.pools) (intact : h.corruptsUploads = false)
    (memory : spec.memory.toNat * 1024 < UInt64.size) (fits : image.length < UInt64.size) :
    Furnished spec image h (equipped h spec image) := by
  obtain ⟨volumes, there⟩ := Table.found_of_mem placed
  rw [equipped_eq there]
  have apart := diskVolume_ne_seedVolume spec
  have held (volume : String) : ((h.setPool spec.storagePool (furnished h spec image volumes)).setDomain spec.name
      (booted h spec)).volume? spec.storagePool volume = (furnished h spec image volumes)[volume]? :=
    (volume?_setPool h _ _ _ _).trans (if_pos rfl)
  constructor
  case domain => exact setDomain_domains_self _ _ _
  case memory => exact toNat_kib memory
  case seed =>
    have whole : landed h image = image := if_neg (by rw [intact]; nofun)
    have filled : (furnished h spec image volumes)[spec.names.seedVolume]? =
        some (seedVolume h spec.storagePool spec.names.seedVolume image) := by
      rw [furnished, Std.ExtTreeMap.getElem?_insert,
        if_neg (mt Std.LawfulEqCmp.compare_eq_iff_eq.mp apart), Std.ExtTreeMap.getElem?_insert_self]
    rw [held, filled, seedVolume, whole]
    rfl
  case capacity => exact Nat.mod_eq_of_lt fits
  case disk =>
    rw [held, furnished, Std.ExtTreeMap.getElem?_insert_self]
    rfl
  case otherDomains =>
    intro name other
    simp [setDomain, setPool, Std.ExtTreeMap.getElem?_insert, other.symm]
  case otherVolumes =>
    intro volume disk seed
    rw [held, volume?_of_pool there]
    simp [furnished, Std.ExtTreeMap.getElem?_insert, disk.symm, seed.symm]
  case otherPools =>
    intro pool other
    simp [setDomain, setPool, Std.ExtTreeMap.getElem?_insert, other.symm]
  case behaviour => rfl

theorem furnished_erase (h : Host) (spec : Spec) (image : Bytes) (volumes : Table Volume) :
    furnished h spec image ((volumes.erase spec.names.diskVolume).erase spec.names.seedVolume) =
      furnished h spec image volumes := by
  rw [furnished, Table.insert_erase_self]
  apply Std.ExtTreeMap.ext_getElem?
  intro volume
  simp only [furnished, Std.ExtTreeMap.getElem?_insert, Std.ExtTreeMap.getElem?_erase]
  split
  · rfl
  · rfl

theorem equipped_withoutVolumes (placed : spec.storagePool ∈ h.pools) :
    equipped (h.withoutVolumes spec.storagePool spec.names) spec image = equipped h spec image := by
  obtain ⟨volumes, there⟩ := Table.found_of_mem placed
  rw [withoutVolumes_eq there, equipped_eq (setPool_pools_self _ _ _), equipped_eq there, setPool_setPool]
  exact congrArg (fun volumes => (h.setPool spec.storagePool volumes).setDomain spec.name (booted h spec))
    (furnished_erase h spec image volumes)

end Host

namespace Lifecycle

open Session MachineKeeper.Action Host

variable {w v : World} {spec : Spec}

theorem create_received (buildable : spec.Buildable) (receives : w.Receives spec) :
    ∃ image w', CloudInit.image spec.name spec.userData = .ok image ∧ create spec w = (.done (), w') ∧
      w'.host.objects = equipped w.host.objects spec image := by
  -- The store has no part in this, so that its faults may be left out of account.
  let v := { w with storeFaults := [] }
  have calm : v.Calm := ⟨receives.hostFaults, rfl, receives.able, receives.accepts⟩
  have missing : v.host.domains[spec.name]? = none := Std.ExtTreeMap.getElem?_eq_none receives.missing
  obtain ⟨same, alike⟩ := create_matches spec (w.matches_storeFaults [])
  have creation := create_calm calm missing buildable.memory (run_halves (create spec) v)
  rw [same, alike.objects] at creation
  obtain ⟨image, built, done, equipped⟩ := creation.received buildable receives.intact receives.placed
  exact ⟨image, _, built, Prod.ext done rfl, equipped⟩

theorem receives_withoutVolumes (receives : w.Receives spec) (faults : v.hostFaults = [])
    (same : v.host.objects.withoutVolumes spec.storagePool spec.names =
      w.host.objects.withoutVolumes spec.storagePool spec.names) : v.Receives spec where
  hostFaults := faults
  able := (congrArg Host.failing same).trans receives.able
  accepts := (congrArg Host.refusesConnections same).trans receives.accepts
  intact := (congrArg Host.corruptsUploads same).trans receives.intact
  placed := by
    have placed : spec.storagePool ∈ (w.host.objects.withoutVolumes spec.storagePool spec.names).pools :=
      mem_pools_withoutVolumes.mpr receives.placed
    rw [← same] at placed
    exact mem_pools_withoutVolumes.mp placed
  missing := by
    have domains := congrArg Host.domains same
    change v.host.domains = w.host.domains at domains
    rw [domains]
    exact receives.missing

/-- Nothing stands in the way of a machine that a host receives. It is made as the specification has it, beside
what the host holds of others; and it would have been made so with any other volumes under its names. -/
theorem create_furnishes (buildable : spec.Buildable) (receives : w.Receives spec) :
    ∃ image w', CloudInit.image spec.name spec.userData = .ok image ∧ create spec w = (.done (), w') ∧
      Furnished spec image w.host w'.host ∧
      ∀ v : World, v.hostFaults = [] →
        v.host.objects.withoutVolumes spec.storagePool spec.names =
          w.host.objects.withoutVolumes spec.storagePool spec.names →
        ∃ v', create spec v = (.done (), v') ∧ v'.host.objects = w'.host.objects := by
  obtain ⟨image, w', built, run, objects⟩ := create_received buildable receives
  obtain ⟨_, fits⟩ := image_length built
  refine ⟨image, w', built, run, ?_, fun v faults same => ?_⟩
  · exact (equipped_furnished receives.placed receives.intact buildable.memory fits).of_objects objects
  · have receives' := receives_withoutVolumes receives faults same
    obtain ⟨image', v', built', run', objects'⟩ := create_received buildable receives'
    obtain rfl := Except.ok.inj (built.symm.trans built')
    refine ⟨v', run', ?_⟩
    calc v'.host.objects
      _ = equipped v.host.objects spec image := objects'
      _ = equipped (v.host.objects.withoutVolumes spec.storagePool spec.names) spec image :=
        (equipped_withoutVolumes (h := v.host.objects) receives'.placed).symm
      _ = equipped (w.host.objects.withoutVolumes spec.storagePool spec.names) spec image := by rw [same]
      _ = equipped w.host.objects spec image :=
        equipped_withoutVolumes (h := w.host.objects) receives.placed
      _ = w'.host.objects := objects.symm

/-- A host on which a machine's volumes were left, one of them with data in it. -/
def cluttered : World :=
  { running with host := { running.host with domains := ∅ } }

theorem create_furnishes_cluttered : (Spec.ofName "m").Buildable ∧ cluttered.Receives (.ofName "m") ∧
    (cluttered.host.volume? "default" "m.qcow2").map Volume.content = some (.written [1]) ∧
    ∃ w', create (.ofName "m") cluttered = (.done (), w') ∧
      (w'.host.volume? "default" "m.qcow2").map Volume.content = some (.blank 0) := by
  have buildable : (Spec.ofName "m").Buildable := ⟨by decide, by decide, by decide⟩
  have receives : cluttered.Receives (.ofName "m") := ⟨rfl, rfl, rfl, rfl, by decide, by decide⟩
  obtain ⟨image, w', _, run, furnished, _⟩ := create_furnishes buildable receives
  have fresh : w'.host.volume? "default" "m.qcow2" = _ := furnished.disk
  exact ⟨buildable, receives, by decide, w', run, by rw [fresh]; rfl⟩

end Lifecycle

end MachineKeeper
