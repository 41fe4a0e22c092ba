import MachineKeeper.Proofs.Destruction

/-! What a teardown takes back. A creation changes nothing but the domain and the volumes of its machine's names, and
these are what a teardown removes; a host that had nothing under those names is what it was before. -/
namespace MachineKeeper

open Lifecycle

namespace Host

variable {h h' : Host} {spec : Spec} {name pool volume : String} {volumes volumes' : Table Volume} {r : Request}

theorem erase_both_congr {disk seed : String}
    (others : ∀ volume, volume ∉ [disk, seed] → volumes'[volume]? = volumes[volume]?) :
    (volumes'.erase disk).erase seed = (volumes.erase disk).erase seed := by
  apply Std.ExtTreeMap.ext_getElem?
  intro volume
  simp only [Std.ExtTreeMap.getElem?_erase, Std.LawfulEqCmp.compare_eq_iff_eq]
  split
  · rfl
  split
  · rfl
  next notSeed notDisk => exact others volume (by simp [Ne.symm notDisk, Ne.symm notSeed])

theorem setPool_without (there : h.pools[pool]? = some volumes)
    (others : ∀ volume, volume ∉ [(Names.of name).diskVolume, (Names.of name).seedVolume] →
      volumes'[volume]? = volumes[volume]?) :
    (h.setPool pool volumes').without name pool = h.without name pool := by
  have there' : (h.undefined name).pools[pool]? = some volumes := there
  have changed := setPool_pools_self (h.undefined name) pool volumes'
  calc (h.setPool pool volumes').without name pool
    _ = ((h.undefined name).setPool pool volumes').withoutVolumes pool (.of name) := rfl
    _ = (h.undefined name).withoutVolumes pool (.of name) := by
      rw [withoutVolumes_eq changed, withoutVolumes_eq there', setPool_setPool, erase_both_congr others]
    _ = h.without name pool := rfl

/-- What is left without a machine depends on what a host holds, and not on how it behaves. -/
theorem without_same (domains : h'.domains = h.domains) (pools : h'.pools = h.pools) (name pool : String) :
    (h'.without name pool).domains = (h.without name pool).domains ∧
    (h'.without name pool).pools = (h.without name pool).pools := by
  simp only [without, withoutVolumes, domains, pools, and_self]

section
variable {α : Type} {P : Host → Prop}

theorem withDomain_keeps {answer : Domain → Outcome HostError α × Host} (kept : P h)
    (found : ∀ domain, P (answer domain).2) : P (h.withDomain name answer).2 := by
  unfold withDomain
  split
  · exact found _
  · exact kept

theorem withPool_keeps {answer : Table Volume → Outcome HostError α × Host} (kept : P h)
    (found : ∀ volumes, h.pools[pool]? = some volumes → P (answer volumes).2) : P (h.withPool pool answer).2 := by
  unfold withPool
  split
  next volumes there => exact found volumes there
  next => exact kept

theorem withVolume_keeps {answer : Table Volume → Volume → Outcome HostError α × Host} (kept : P h)
    (found : ∀ volumes old, h.pools[pool]? = some volumes → P (answer volumes old).2) :
    P (h.withVolume pool volume answer).2 := by
  refine withPool_keeps kept fun volumes there => ?_
  split
  next old _ => exact found volumes old there
  next => exact kept

end

/-- The answer to a request of a creation makes no difference to what is left of the host without the machine. -/
theorem answer_without (provisions : Provisions spec r) :
    (h.answer r).2.without spec.name spec.storagePool = h.without spec.name spec.storagePool := by
  have insert_others {volumes : Table Volume} {volume : String} (new : Volume)
      (member : volume ∈ [spec.names.diskVolume, spec.names.seedVolume]) (other : String)
      (unnamed : other ∉ [spec.names.diskVolume, spec.names.seedVolume]) :
      (volumes.insert volume new)[other]? = volumes[other]? := by
    have apart : volume ≠ other := fun same => unnamed (same ▸ member)
    simp [Std.ExtTreeMap.getElem?_insert, apart]
  let Kept (h' : Host) : Prop := h'.without spec.name spec.storagePool = h.without spec.name spec.storagePool
  cases r with
  | lookupPool | volumePath | downloadVolume => rw [answer_query ⟨rfl, rfl⟩]
  | defineDomain descriptor =>
    have named : descriptor.name = spec.name := provisions
    simp only [answer, named]
    split
    · rfl
    · exact setDomain_without h _ _ _
  | startDomain name =>
    obtain rfl : name = spec.name := provisions
    refine withDomain_keeps (P := Kept) rfl fun domain => ?_
    split
    · rfl
    · exact setDomain_without h _ _ _
  | createVolume pool descriptor =>
    obtain ⟨rfl, member⟩ := provisions
    refine withPool_keeps (P := Kept) rfl fun volumes there => ?_
    split
    · rfl
    · exact setPool_without there (insert_others _ member)
  | uploadVolume pool volume data =>
    obtain ⟨rfl, member⟩ := provisions
    refine withVolume_keeps (P := Kept) rfl fun volumes old there => ?_
    split
    · rfl
    · exact setPool_without there (insert_others _ member)
  | deleteVolume pool volume =>
    obtain ⟨rfl, member⟩ := provisions
    refine withVolume_keeps (P := Kept) rfl fun volumes old there => setPool_without there fun other unnamed => ?_
    have apart : volume ≠ other := fun same => unnamed (same ▸ member)
    simp [Std.ExtTreeMap.getElem?_erase, apart]
  | _ => exact provisions.elim

/-- Nothing on the host has a name of this machine: there is no domain of it, and no volume in its pool. -/
structure Vacant (h : Host) (spec : Spec) : Prop where
  domain : spec.name ∉ h.domains
  disk : h.volume? spec.storagePool spec.names.diskVolume = none
  seed : h.volume? spec.storagePool spec.names.seedVolume = none

theorem Vacant.without (vacant : h.Vacant spec) : h.without spec.name spec.storagePool = h := by
  have undomained : h.undefined spec.name = h := by
    rw [undefined, Table.erase_missing (by simpa using vacant.domain)]
  have same : h.without spec.name spec.storagePool = h.withoutVolumes spec.storagePool spec.names :=
    congrArg (withoutVolumes · spec.storagePool spec.names) undomained
  rw [same]
  cases there : h.pools[spec.storagePool]? with
  | none => exact withoutVolumes_missing there
  | some volumes =>
    have disk := vacant.disk
    have seed := vacant.seed
    rw [volume?_of_pool there] at disk seed
    rw [withoutVolumes_eq there, Table.erase_missing disk, setPool_erase_missing there seed]

end Host

/-- The host holds what another holds, and every call to it gets through. -/
structure World.Resumes (w v : World) : Prop where
  domains : v.host.domains = w.host.domains
  pools : v.host.pools = w.host.pools
  hostFaults : v.hostFaults = []
  able : v.host.failing = []
  accepts : v.host.refusesConnections = false

namespace Lifecycle

open Session World MachineKeeper.Action

variable {w w' v : World} {spec : Spec} {o : Outcome Error Unit}

/-- Whatever fails in a creation, it makes no difference to what is left of the host without the machine. -/
theorem create_without (inert : ∀ f ∈ w.hostFaults, f.changes = []) (run : create spec w = (o, w')) :
    w'.host.objects.without spec.name spec.storagePool = w.host.objects.without spec.name spec.storagePool := by
  -- The store has no part in this, so that its faults may be left out of account.
  let u := { w with storeFaults := [] }
  have quiet : u.Undisturbed := ⟨inert, nofun⟩
  obtain ⟨_, alike⟩ := create_matches spec (w.matches_storeFaults [])
  rw [run] at alike
  rw [← alike.objects]
  exact (create_reaches spec u).host (P := fun h => h.without spec.name spec.storagePool =
    w.host.objects.without spec.name spec.storagePool) quiet
    (fun _ _ provisions same => (Host.answer_without provisions).trans same) rfl

/-- Once a creation has defined its domain, a teardown on which nothing fails leaves the host as it was before. -/
theorem destroy_undoes_create (inert : ∀ f ∈ w.hostFaults, f.changes = []) (vacant : w.host.Vacant spec)
    (run : create spec w = (o, w')) (defined : spec.name ∈ w'.host.domains) (resumes : w'.Resumes v) :
    ∃ v', destroy spec.name spec.storagePool v = (.done (), v') ∧
      v'.host.domains = w.host.domains ∧ v'.host.pools = w.host.pools := by
  obtain ⟨v', gone, -, objects⟩ := destroy_served spec.name spec.storagePool resumes.hostFaults
  rw [Host.destroyed_able resumes.able resumes.accepts, if_pos (resumes.domains ▸ defined)] at gone objects
  have restored : w'.host.objects.without spec.name spec.storagePool = w.host.objects :=
    (create_without inert run).trans (congrArg Host.objects vacant.without)
  obtain ⟨domains, pools⟩ : (v.host.without spec.name spec.storagePool).domains = w.host.objects.domains ∧
      (v.host.without spec.name spec.storagePool).pools = w.host.objects.pools :=
    restored ▸ Host.without_same (h := w'.host.objects) resumes.domains resumes.pools spec.name spec.storagePool
  exact ⟨v', gone, (Host.domains_of_objects objects).trans domains, (Host.pools_of_objects objects).trans pools⟩

theorem install_unstarted {volumes : Table Volume} (seedPath : String) (faultless : w.Faultless)
    (failing : w.host.failing = [.startDomain]) (there : w.host.pools[spec.storagePool]? = some volumes)
    (missing : w.host.domains[spec.name]? = none) (memory : spec.memory.toNat * 1024 < UInt64.size) :
    ∃ e w', install spec seedPath w = (.failed e, w') ∧ spec.name ∈ w'.host.domains := by
  obtain ⟨w₁, removed, faultless₁, host₁⟩ :=
    deleteIfThere_served spec.names.diskVolume faultless (by simp [failing]) there
  rw [if_pos (by simp [Host.Clearing, failing])] at host₁
  have there₁ : w₁.host.pools[spec.storagePool]? = some (volumes.erase spec.names.diskVolume) := by
    rw [host₁, Host.setPool_pools_self]
  let disk : VolumeDescriptor := .overlay spec.names.diskVolume spec.diskSize spec.backingImagePath
    spec.backingImageFormat
  obtain ⟨w₂, made, host₂, faultless₂⟩ := send_able (r := .createVolume spec.storagePool disk) faultless₁
    (by simp [host₁, Host.setPool, failing, Request.call]) (Host.answer_createVolume there₁ (by simp [disk]))
  let domain := domainFor spec (volumePath spec.storagePool spec.names.diskVolume) seedPath
  have missing₂ : w₂.host.domains[domain.name]? = none := by rw [host₂, host₁]; exact missing
  obtain ⟨w₃, defined, host₃, faultless₃⟩ := send_able (r := .defineDomain domain) faultless₂
    (by simp [host₂, host₁, Host.setPool, failing, Request.call]) (Host.answer_defineDomain missing₂ memory)
  obtain ⟨w₄, stopped, host₄, _⟩ := send_refused (r := .startDomain domain.name) faultless₃
    (by simp [host₃, host₂, host₁, Host.setDomain, Host.setPool, failing, Request.call])
  have diskMade : createDiskVolume spec w = (.done (volumePath spec.storagePool spec.names.diskVolume), w₂) := by
    rw [createDiskVolume, bind_of_done removed]
    exact ask_of_done made
  refine ⟨.host s!"failed to start domain '{domain.name}'" (.call (.injected .startDomain)), w₄, ?_, ?_⟩
  · rw [install, bind_of_done diskMade]
    exact (bind_of_done (ask_of_done defined)).trans (ask_of_failed stopped)
  · rw [host₄, host₃]
    exact Std.ExtTreeMap.mem_insert_self

theorem provision_unstarted {image : Bytes} (faultless : w.Faultless)
    (failing : w.host.failing = [.startDomain]) (intact : w.host.corruptsUploads = false)
    (placed : spec.storagePool ∈ w.host.pools) (missing : w.host.domains[spec.name]? = none)
    (memory : spec.memory.toNat * 1024 < UInt64.size)
    (built : CloudInit.image spec.name spec.userData = .ok image) :
    ∃ e w', provision spec image w = (.failed e, w') ∧ spec.name ∈ w'.host.domains := by
  obtain ⟨nonempty, fits⟩ := image_length built
  obtain ⟨volumes, there⟩ := Table.found_of_mem placed
  obtain ⟨w₁, found, host₁, faultless₁⟩ := send_able (r := .lookupPool spec.storagePool) faultless
    (by simp [failing, Request.call]) (Host.answer_lookupPool there)
  obtain ⟨o, w₂, made⟩ :
    ∃ o w₂, createSeedVolume spec.storagePool spec.names.seedVolume image w₁ = (o, w₂) := ⟨_, _, rfl⟩
  have remakable : Remakable spec.storagePool spec.names.seedVolume w₁ := by
    simp [Remakable, Clearable, Fillable, faultless₁.hears_iff, host₁, failing]
  obtain ⟨host₂, ended⟩ :=
    createSeedVolume_remade faultless₁.undisturbed (by rwa [host₁]) fits remakable made
  rw [if_pos ((landed_eq_iff nonempty).mpr (by rwa [host₁]))] at ended
  subst ended
  have faultless₂ := ((createSeedVolume_reaches spec image).of_run made).store.faultless faultless₁
  obtain ⟨e, w₃, stopped, defined⟩ := install_unstarted (volumePath spec.storagePool spec.names.seedVolume)
    faultless₂ (by rw [host₂, host₁]; exact failing) (by rw [host₂, Host.setPool_pools_self])
    (by rw [host₂, host₁]; exact missing) memory
  refine ⟨e, w₃, ?_, defined⟩
  rw [provision_eq, bind_of_done (ask_of_done found), furnish, bind_of_done made, stopped]

theorem create_unstarted (faultless : w.Faultless) (accepts : w.host.refusesConnections = false)
    (failing : w.host.failing = [.startDomain]) (intact : w.host.corruptsUploads = false)
    (placed : spec.storagePool ∈ w.host.pools) (missing : w.host.domains[spec.name]? = none)
    (buildable : spec.Buildable) : ∃ e w', create spec w = (.failed e, w') ∧ spec.name ∈ w'.host.domains := by
  obtain ⟨image, built⟩ := image_built_of_short buildable.short buildable.userData
  obtain ⟨o, w', run⟩ : ∃ o w', create spec w = (o, w') := ⟨_, _, rfl⟩
  have body := run
  rw [create, if_neg (Nat.not_lt_of_ge buildable.short), built] at body
  change connected ((provision spec image).mapError (.create spec.name)) w = (o, w') at body
  obtain ⟨w₁, w₂, opened, _, ran, closed⟩ := connected_admitted faultless.undisturbed
    ((provision_reaches spec image).mapError _) (admits_of_calm faultless.host accepts) body
  have behaves := Host.behaviour_of_objects opened.objects
  obtain ⟨e, v, stopped, defined⟩ := provision_unstarted (opened.toSameStore.faultless faultless)
    ((Host.failing_of_behaviour behaves).trans failing) ((Host.corruptsUploads_of_behaviour behaves).trans intact)
    (by rwa [Host.pools_of_objects opened.objects]) (by rwa [Host.domains_of_objects opened.objects])
    buildable.memory built
  obtain ⟨rfl, rfl⟩ := Prod.mk.inj (ran.symm.trans (mapError_of stopped))
  rcases closed with idle | ⟨same, _⟩
  · exact ⟨_, w', run, by rwa [Host.domains_of_objects idle.objects]⟩
  · cases same

/-- A world with a machine on which no domain can be started. -/
def unstartable : World :=
  let serving := World.serving (.ofSpec (.ofName "n"))
  { serving with host := { serving.host with failing := [.startDomain] } }

theorem destroy_undoes_create_unstarted : (∀ f ∈ unstartable.hostFaults, f.changes = []) ∧
    unstartable.host.Vacant (.ofName "m") ∧ ∃ e w' v v', create (.ofName "m") unstartable = (.failed e, w') ∧
      "m" ∈ w'.host.domains ∧ w'.Resumes v ∧ destroy "m" "default" v = (.done (), v') ∧
      v'.host.domains = unstartable.host.domains ∧ v'.host.pools = unstartable.host.pools := by
  have inert : ∀ f ∈ unstartable.hostFaults, f.changes = [] := nofun
  have vacant : unstartable.host.Vacant (.ofName "m") := ⟨by decide, by decide, by decide⟩
  have buildable : (Spec.ofName "m").Buildable := ⟨by decide, by decide, by decide⟩
  have missing : unstartable.host.domains[(Spec.ofName "m").name]? = none := by decide
  have placed : (Spec.ofName "m").storagePool ∈ unstartable.host.pools := by decide
  obtain ⟨e, w', run, defined⟩ := create_unstarted ⟨rfl, rfl⟩ rfl rfl rfl placed missing buildable
  let v : World := { w' with hostFaults := [], host := { w'.host with failing := [], refusesConnections := false } }
  have resumes : w'.Resumes v := ⟨rfl, rfl, rfl, rfl, rfl⟩
  obtain ⟨v', gone, domains, pools⟩ := destroy_undoes_create inert vacant run defined resumes
  exact ⟨inert, vacant, e, w', v, v', run, defined, resumes, gone, domains, pools⟩

end Lifecycle

end MachineKeeper
