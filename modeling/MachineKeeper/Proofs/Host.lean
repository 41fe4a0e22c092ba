import MachineKeeper.Host.Basic

/-! What a request can change on the host that answers it: at most one domain or one volume, which
it names, and never how the host behaves. -/
namespace MachineKeeper

namespace Request

/-- The domain that a request may change. -/
def domain? : Request → Option String
  | defineDomain descriptor => some descriptor.name
  | startDomain name | destroyDomain name | undefineDomain name => some name
  | _ => none

/-- The pool and the name of the volume that a request may change. -/
def volume? : Request → Option (String × String)
  | createVolume pool descriptor => some (pool, descriptor.name)
  | uploadVolume pool volume _ | deleteVolume pool volume => some (pool, volume)
  | _ => none

/-- A request that only asks. -/
structure IsQuery (r : Request) : Prop where
  domain : r.domain? = none
  volume : r.volume? = none

end Request

@[simp] theorem VolumeDescriptor.raw_name (name : String) (size : UInt64) :
    (raw name size).name = name := rfl

@[simp] theorem VolumeDescriptor.overlay_name (name : String) (gib : UInt64)
    (backingPath backingFormat : String) :
    (overlay name gib backingPath backingFormat).name = name := rfl

namespace Table

variable {α : Type}

@[simp] theorem insert_insert_self (t : Table α) (name : String) (a b : α) :
    (t.insert name a).insert name b = t.insert name b := by
  apply Std.ExtTreeMap.ext_getElem?
  intro key
  simp only [Std.ExtTreeMap.getElem?_insert]
  split <;> rfl

@[simp] theorem insert_erase_self (t : Table α) (name : String) (a : α) :
    (t.erase name).insert name a = t.insert name a := by
  apply Std.ExtTreeMap.ext_getElem?
  intro key
  simp only [Std.ExtTreeMap.getElem?_insert, Std.ExtTreeMap.getElem?_erase]
  split <;> rfl

@[simp] theorem erase_insert_self (t : Table α) (name : String) (a : α) :
    (t.insert name a).erase name = t.erase name := by
  apply Std.ExtTreeMap.ext_getElem?
  intro key
  simp only [Std.ExtTreeMap.getElem?_insert, Std.ExtTreeMap.getElem?_erase]
  split <;> rfl

theorem insert_found {t : Table α} {key : String} {a : α} (found : t[key]? = some a) :
    t.insert key a = t := by
  apply Std.ExtTreeMap.ext_getElem?
  intro other
  rw [Std.ExtTreeMap.getElem?_insert]
  split
  next here => rw [← Std.LawfulEqCmp.compare_eq_iff_eq.mp here, found]
  next => rfl

theorem erase_missing {t : Table α} {key : String} (missing : t[key]? = none) : t.erase key = t := by
  apply Std.ExtTreeMap.ext_getElem?
  intro other
  rw [Std.ExtTreeMap.getElem?_erase]
  split
  next here => rw [← Std.LawfulEqCmp.compare_eq_iff_eq.mp here, missing]
  next => rfl

theorem insert_others {t : Table α} {name : String} {a : α} : ∀ other ≠ name, (t.insert name a)[other]? = t[other]? := by
  intro other apart
  rw [Std.ExtTreeMap.getElem?_insert, if_neg (by simpa using apart.symm)]

theorem erase_others {t : Table α} {name : String} : ∀ other ≠ name, (t.erase name)[other]? = t[other]? := by
  intro other apart
  rw [Std.ExtTreeMap.getElem?_erase, if_neg (by simpa using apart.symm)]

end Table

namespace Host

variable {α : Type} {h h' : Host} {r : Request} {o : Outcome HostError r.Reply}

/-- The host with its connections left out of account. -/
def objects (h : Host) : Host := { h with connections := 0, openConnections := 0 }

@[simp] theorem objects_domains (h : Host) : h.objects.domains = h.domains := rfl
@[simp] theorem objects_pools (h : Host) : h.objects.pools = h.pools := rfl
@[simp] theorem objects_failing (h : Host) : h.objects.failing = h.failing := rfl

/-- How the host behaves, whatever it holds. -/
def behaviour (h : Host) : Host := { h.objects with domains := ∅, pools := ∅ }

theorem behaviour_of_objects (same : h'.objects = h.objects) : h'.behaviour = h.behaviour := by
  rw [behaviour, behaviour, same]

@[simp] theorem behaviour_failing (h : Host) : h.behaviour.failing = h.failing := rfl
@[simp] theorem behaviour_corruptsUploads (h : Host) :
    h.behaviour.corruptsUploads = h.corruptsUploads := rfl
@[simp] theorem behaviour_refusesConnections (h : Host) :
    h.behaviour.refusesConnections = h.refusesConnections := rfl

theorem failing_of_behaviour (same : h'.behaviour = h.behaviour) : h'.failing = h.failing := by
  rw [← behaviour_failing h', same, behaviour_failing]

theorem refusesConnections_of_behaviour (same : h'.behaviour = h.behaviour) :
    h'.refusesConnections = h.refusesConnections := by
  rw [← behaviour_refusesConnections h', same, behaviour_refusesConnections]

theorem corruptsUploads_of_behaviour (same : h'.behaviour = h.behaviour) :
    h'.corruptsUploads = h.corruptsUploads := by
  rw [← behaviour_corruptsUploads h', same, behaviour_corruptsUploads]

theorem domains_of_objects (same : h'.objects = h.objects) : h'.domains = h.domains := by
  rw [← objects_domains h', same, objects_domains]

theorem pools_of_objects (same : h'.objects = h.objects) : h'.pools = h.pools := by
  rw [← objects_pools h', same, objects_pools]

theorem volume?_of_objects (same : h'.objects = h.objects) (pool volume : String) :
    h'.volume? pool volume = h.volume? pool volume := by
  rw [Host.volume?, Host.volume?, pools_of_objects same]

theorem withDomain_eq {name : String} {domain : Domain} (there : h.domains[name]? = some domain)
    (answer : Domain → Outcome HostError α × Host) : h.withDomain name answer = answer domain := by
  rw [withDomain, there]

theorem withDomain_missing {name : String} (missing : h.domains[name]? = none)
    (answer : Domain → Outcome HostError α × Host) :
    h.withDomain name answer = (.failed (.notFound .domain name), h) := by
  rw [withDomain, missing]

theorem withPool_eq {pool : String} {volumes : Table Volume} (there : h.pools[pool]? = some volumes)
    (answer : Table Volume → Outcome HostError α × Host) : h.withPool pool answer = answer volumes := by
  rw [withPool, there]

theorem withPool_missing {pool : String} (missing : h.pools[pool]? = none)
    (answer : Table Volume → Outcome HostError α × Host) :
    h.withPool pool answer = (.failed (.notFound .storagePool pool), h) := by
  rw [withPool, missing]

theorem volume?_eq_some {pool volume : String} {found : Volume} :
    h.volume? pool volume = some found ↔
      ∃ volumes, h.pools[pool]? = some volumes ∧ volumes[volume]? = some found := by
  simp [Host.volume?, Option.bind_eq_some_iff]

theorem volume?_ne_none {pool volume : String} {volumes : Table Volume}
    (there : h.pools[pool]? = some volumes) : h.volume? pool volume ≠ none ↔ volume ∈ volumes := by
  simp [Host.volume?, there]

theorem withVolume_eq {pool volume : String} {volumes : Table Volume} {found : Volume}
    (there : h.pools[pool]? = some volumes) (member : volumes[volume]? = some found)
    (answer : Table Volume → Volume → Outcome HostError α × Host) :
    h.withVolume pool volume answer = answer volumes found := by
  simp only [withVolume, withPool_eq there, member]

theorem withVolume_missing {pool volume : String} (missing : h.volume? pool volume = none)
    (answer : Table Volume → Volume → Outcome HostError α × Host) :
    ∃ e, h.withVolume pool volume answer = (.failed e, h) := by
  unfold withVolume
  cases there : h.pools[pool]? with
  | none => exact ⟨_, withPool_missing there _⟩
  | some volumes =>
    have absent : volumes[volume]? = none := by simpa [Host.volume?, there] using missing
    exact ⟨_, by rw [withPool_eq there, absent]⟩

@[simp] theorem setPool_pools_self (h : Host) (pool : String) (volumes : Table Volume) :
    (h.setPool pool volumes).pools[pool]? = some volumes := by
  simp [setPool]

theorem setPool_found {pool : String} {volumes : Table Volume}
    (there : h.pools[pool]? = some volumes) : h.setPool pool volumes = h := by
  rw [setPool, Table.insert_found there]

theorem setPool_erase_missing {pool volume : String} {volumes : Table Volume}
    (there : h.pools[pool]? = some volumes) (missing : volumes[volume]? = none) :
    h.setPool pool (volumes.erase volume) = h := by
  rw [Table.erase_missing missing, setPool_found there]

@[simp] theorem setPool_setPool (h : Host) (pool : String) (volumes volumes' : Table Volume) :
    (h.setPool pool volumes).setPool pool volumes' = h.setPool pool volumes' := by
  simp [setPool]

@[simp] theorem setDomain_domains_self (h : Host) (name : String) (domain : Domain) :
    (h.setDomain name domain).domains[name]? = some domain := by
  simp [setDomain]

@[simp] theorem setDomain_setDomain (h : Host) (name : String) (domain domain' : Domain) :
    (h.setDomain name domain).setDomain name domain' = h.setDomain name domain' := by
  simp [setDomain]

section
variable {pool volume : String} {volumes : Table Volume} {found : Volume} {d : VolumeDescriptor}
  {data : Bytes}

theorem answer_lookupPool (there : h.pools[pool]? = some volumes) :
    h.answer (.lookupPool pool) = (.done (), h) := by
  rw [answer, withPool_eq there]

theorem answer_lookupPool_missing (missing : h.pools[pool]? = none) :
    h.answer (.lookupPool pool) = (.failed (.notFound .storagePool pool), h) := by
  rw [answer, withPool_missing missing]

theorem answer_refreshPool (there : h.pools[pool]? = some volumes) :
    h.answer (.refreshPool pool) = (.done (), h) := by
  rw [answer, withPool_eq there]

theorem answer_createVolume (there : h.pools[pool]? = some volumes) (free : d.name ∉ volumes) :
    h.answer (.createVolume pool d) = (.done (volumePath pool d.name),
      h.setPool pool (volumes.insert d.name (Volume.create pool d))) := by
  rw [answer, withPool_eq there, if_neg free]
  rfl

theorem answer_createVolume_taken (there : h.pools[pool]? = some volumes) (taken : d.name ∈ volumes) :
    h.answer (.createVolume pool d) = (.failed (.alreadyExists .storageVolume d.name), h) := by
  rw [answer, withPool_eq there, if_pos taken]

theorem answer_volumePath (there : h.pools[pool]? = some volumes)
    (member : volumes[volume]? = some found) :
    h.answer (.volumePath pool volume) = (.done found.path, h) := by
  rw [answer, withVolume_eq there member]

theorem answer_volumePath_missing (missing : h.volume? pool volume = none) :
    ∃ e, h.answer (.volumePath pool volume) = (.failed e, h) :=
  withVolume_missing missing _

theorem answer_uploadVolume (there : h.pools[pool]? = some volumes)
    (member : volumes[volume]? = some found)
    (room : data.length ≤ found.descriptor.capacity.inBytes.toNat) :
    h.answer (.uploadVolume pool volume data) = (.done (), h.setPool pool (volumes.insert volume
      { found with content := .written (if h.corruptsUploads then corrupted data else data) })) := by
  rw [answer, withVolume_eq there member, if_neg (by omega)]

theorem answer_downloadVolume (there : h.pools[pool]? = some volumes)
    (member : volumes[volume]? = some found) :
    h.answer (.downloadVolume pool volume) = (.done found.content, h) := by
  rw [answer, withVolume_eq there member]

theorem answer_deleteVolume (there : h.pools[pool]? = some volumes)
    (member : volumes[volume]? = some found) :
    h.answer (.deleteVolume pool volume) = (.done (), h.setPool pool (volumes.erase volume)) := by
  rw [answer, withVolume_eq there member]

end

section
variable {name : String} {domain : Domain}

theorem answer_domainState (there : h.domains[name]? = some domain) :
    h.answer (.domainState name) = (.done domain.state, h) := by
  rw [answer, withDomain_eq there]

theorem answer_domainState_missing (missing : h.domains[name]? = none) :
    h.answer (.domainState name) = (.failed (.notFound .domain name), h) := by
  rw [answer, withDomain_missing missing]

theorem answer_domainInfo (there : h.domains[name]? = some domain) :
    h.answer (.domainInfo name) = (.done domain.info, h) := by
  rw [answer, withDomain_eq there]

theorem answer_leaseAddresses (there : h.domains[name]? = some domain)
    (runs : domain.state = .running) :
    h.answer (.leaseAddresses name) = (.done domain.interfaces, h) := by
  rw [answer, withDomain_eq there, if_pos runs]

theorem answer_destroyDomain (there : h.domains[name]? = some domain)
    (powered : domain.state ≠ .shutoff) :
    h.answer (.destroyDomain name) =
      (.done (), h.setDomain name { domain with state := .shutoff, interfaces := [] }) := by
  rw [answer, withDomain_eq there, if_neg powered]

theorem answer_undefineDomain (there : h.domains[name]? = some domain) :
    h.answer (.undefineDomain name) = (.done (), { h with domains := h.domains.erase name }) := by
  rw [answer, withDomain_eq there]

theorem answer_defineDomain {d : DomainDescriptor} (missing : h.domains[d.name]? = none)
    (fits : d.memoryMib.toNat * 1024 < UInt64.size) :
    h.answer (.defineDomain d) = (.done (),
      h.setDomain d.name ⟨d, .shutoff, d.vcpus, d.memoryMib * 1024, []⟩) := by
  simp only [answer, kibOfMib?, fits, ↓reduceIte, missing]

theorem answer_startDomain (there : h.domains[name]? = some domain)
    (halted : domain.state ≠ .running) :
    h.answer (.startDomain name) = (.done (), h.setDomain name
      { domain with state := h.bootState, interfaces := h.bootLeases }) := by
  rw [answer, withDomain_eq there, if_neg halted]

theorem answer_destroyDomain_done {h' : Host}
    (answer : h.answer (.destroyDomain name) = (.done (), h')) : ∃ domain, h.domains[name]? = some domain ∧
      h' = h.setDomain name { domain with state := .shutoff, interfaces := [] } := by
  simp only [Host.answer, withDomain] at answer
  split at answer
  next domain there =>
    split at answer
    · cases answer
    · exact ⟨domain, there, (Prod.mk.inj answer).2.symm⟩
  next => cases answer

end

/-- Answering takes no account of connections. -/
theorem answer_objects (h : Host) (r : Request) :
    h.objects.answer r = ((h.answer r).1, (h.answer r).2.objects) := by
  cases r <;> simp only [answer, withDomain, withPool, withVolume, objects] <;>
    (repeat' split) <;> simp_all [setDomain, setPool]

theorem answer_of_objects (same : h'.objects = h.objects) (r : Request) :
    (h'.answer r).1 = (h.answer r).1 ∧ (h'.answer r).2.objects = (h.answer r).2.objects := by
  have both := (answer_objects h' r).symm.trans ((congrArg (answer · r) same).trans (answer_objects h r))
  exact Prod.mk.inj both

theorem answer_behaviour (h : Host) (r : Request) : (h.answer r).2.behaviour = h.behaviour := by
  cases r <;> simp only [answer, withDomain, withPool, withVolume] <;> (repeat' split) <;> rfl

/-- A request changes no domain but the one that it names. -/
theorem answer_domain_other {name : String} (other : r.domain? ≠ some name) :
    (h.answer r).2.domains[name]? = h.domains[name]? := by
  cases r <;> simp only [Request.domain?, ne_eq, Option.some.injEq] at other <;>
    simp only [answer, withDomain, withPool, withVolume] <;> (repeat' split) <;>
    simp_all [setDomain, setPool, Std.ExtTreeMap.getElem?_insert, Std.ExtTreeMap.getElem?_erase]

/-- A request changes no volume but the one that it names. -/
theorem answer_volume_other {pool volume : String} (other : r.volume? ≠ some (pool, volume)) :
    (h.answer r).2.volume? pool volume = h.volume? pool volume := by
  cases r <;> simp only [Request.volume?, ne_eq, Option.some.injEq, Prod.mk.injEq] at other <;>
    simp only [answer, withDomain, withPool, withVolume] <;> (repeat' split) <;>
    simp only [Host.volume?, setDomain, setPool, Std.ExtTreeMap.getElem?_insert] <;> split <;>
    simp_all [Std.ExtTreeMap.getElem?_insert, Std.ExtTreeMap.getElem?_erase]

theorem answer_query (query : r.IsQuery) : (h.answer r).2 = h := by
  obtain ⟨domain, volume⟩ := query
  cases r <;> simp only [Request.domain?, Request.volume?, reduceCtorEq] at domain volume <;>
    simp only [answer, withDomain, withPool, withVolume] <;> (repeat' split) <;> rfl

theorem answer_query_ends (query : r.IsQuery) : (h.answer r).1 ≠ .overflow := by
  obtain ⟨domain, volume⟩ := query
  cases r <;> simp only [Request.domain?, Request.volume?, reduceCtorEq] at domain volume <;>
    simp only [answer, withDomain, withPool, withVolume] <;> (repeat' split) <;> simp

/-- A request that the host turns down leaves it as it is. -/
theorem answer_turned (turned : (h.answer r).1.isDone = false) : (h.answer r).2 = h := by
  revert turned
  cases r <;> simp only [answer, withDomain, withPool, withVolume] <;> (repeat' split) <;>
    intro turned <;> first | rfl | cases turned

/-- Only the size of a new domain can overflow. -/
theorem answer_overflow (overran : (h.answer r).1 = .overflow) : r.call = .defineDomain := by
  revert overran
  cases r with
  | defineDomain => exact fun _ => rfl
  | _ =>
    simp only [answer, withDomain, withPool, withVolume]
    (repeat' split) <;> simp

theorem serve_failing (failing : r.call ∈ h.failing) :
    h.serve r = (.failed (.call (.injected r.call)), h) := if_pos failing

theorem serve_able (able : r.call ∉ h.failing) : h.serve r = h.answer r := if_neg able

theorem serve_query (query : r.IsQuery) : (h.serve r).2 = h := by
  unfold serve
  split
  · rfl
  · exact answer_query query

theorem serve_query_ends (query : r.IsQuery) : (h.serve r).1 ≠ .overflow := by
  unfold serve
  split
  · nofun
  · exact answer_query_ends query

/-- What each of some changes keeps is kept by all of them in a row. -/
theorem changes_keep {ε : Type} {P : Host → Prop} {changes : List Change}
    (kept : ∀ c ∈ changes, ∀ h, P h → P (h.change c : Outcome ε Unit × Host).2) {h : Host} (start : P h) :
    P (h.changes changes : Outcome ε Unit × Host).2 := by
  induction changes generalizing h with
  | nil => exact start
  | cons c rest ih =>
    have changed := kept c List.mem_cons_self h start
    unfold Host.changes
    split
    next h₁ same =>
      rw [same] at changed
      exact ih (fun d member => kept d (List.mem_cons_of_mem _ member)) changed
    next => exact changed

/-- A change takes no account of connections. -/
theorem change_objects {ε : Type} (h : Host) (c : Change) : (h.objects.change c : Outcome ε Unit × Host) =
    ((h.change c : Outcome ε Unit × Host).1, (h.change c : Outcome ε Unit × Host).2.objects) := by
  cases c with
  | addPool pool =>
    have pools : pool ∈ h.objects.pools ↔ pool ∈ h.pools := Iff.rfl
    simp only [change]
    by_cases there : pool ∈ h.pools
    · rw [if_pos there, if_pos (pools.mpr there)]
    · rw [if_neg there, if_neg (mt pools.mp there)]
      rfl
  | setMaxMemory name mib =>
    have domains : name ∈ h.objects.domains ↔ name ∈ h.domains := Iff.rfl
    simp only [change]
    by_cases there : name ∈ h.domains
    · rw [if_pos there, if_pos (domains.mpr there)]
      cases kibOfMib? mib <;> rfl
    · rw [if_neg there, if_neg (mt domains.mp there)]
  | _ => rfl

theorem change_of_objects {ε : Type} (same : h'.objects = h.objects) (c : Change) :
    (h'.change c : Outcome ε Unit × Host).1 = (h.change c).1 ∧
    (h'.change c : Outcome ε Unit × Host).2.objects = (h.change c : Outcome ε Unit × Host).2.objects := by
  have both := (change_objects (ε := ε) h' c).symm.trans
    ((congrArg (change · c) same).trans (change_objects h c))
  exact Prod.mk.inj both

theorem changes_of_objects {ε : Type} (same : h'.objects = h.objects) (changes : List Change) :
    (h'.changes changes : Outcome ε Unit × Host).1 = (h.changes changes).1 ∧
    (h'.changes changes : Outcome ε Unit × Host).2.objects =
      (h.changes changes : Outcome ε Unit × Host).2.objects := by
  induction changes generalizing h h' with
  | nil => exact ⟨rfl, same⟩
  | cons c rest ih =>
    have changed := change_of_objects (ε := ε) same c
    unfold Host.changes
    generalize (h.change c : Outcome ε Unit × Host) = x at changed ⊢
    generalize (h'.change c : Outcome ε Unit × Host) = y at changed ⊢
    obtain ⟨o, h₁⟩ := x
    obtain ⟨o', h₁'⟩ := y
    obtain ⟨rfl, same₁⟩ := changed
    cases o' with
    | done _ => exact ih same₁
    | failed e => exact ⟨rfl, same₁⟩
    | overflow => exact ⟨rfl, same₁⟩

end Host

end MachineKeeper
