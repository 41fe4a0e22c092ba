import MachineKeeper.Proofs.Coupling

/-! Machines keep to themselves. A pass reads and changes what is named after its machine and nothing
else, so passes for different machines can be taken in either order. -/
namespace MachineKeeper

open Reconcile (volumesOf)

namespace Host

variable {α : Type} {names volumes : String → Prop} {machine name pool volume : String}
  {h h' : Host} {r : Request}

/-- Two hosts that behave alike and have the same pools do not differ in domains of some names and in
volumes of some names. -/
structure Agree (names volumes : String → Prop) (h h' : Host) : Prop where
  behaviour : h'.behaviour = h.behaviour
  domain : ∀ {name}, names name → h'.domains[name]? = h.domains[name]?
  pool : ∀ pool : String, pool ∈ h'.pools ↔ pool ∈ h.pools
  volume : ∀ {volume} pool, volumes volume → h'.volume? pool volume = h.volume? pool volume

theorem Agree.of_objects (same : h'.objects = h.objects) : Agree names volumes h h' where
  behaviour := behaviour_of_objects same
  domain _ := by rw [domains_of_objects same]
  pool _ := by rw [pools_of_objects same]
  volume _ _ := volume?_of_objects same _ _

theorem Agree.trans {h'' : Host} (first : Agree names volumes h h') (second : Agree names volumes h' h'') :
    Agree names volumes h h'' where
  behaviour := second.behaviour.trans first.behaviour
  domain mine := (second.domain mine).trans (first.domain mine)
  pool name := (second.pool name).trans (first.pool name)
  volume pool mine := (second.volume pool mine).trans (first.volume pool mine)

theorem Agree.symm (agree : Agree names volumes h h') : Agree names volumes h' h where
  behaviour := agree.behaviour.symm
  domain mine := (agree.domain mine).symm
  pool name := (agree.pool name).symm
  volume pool mine := (agree.volume pool mine).symm

theorem Agree.mono {names' volumes' : String → Prop} (agree : Agree names volumes h h')
    (fewer : ∀ name, names' name → names name) (fewer' : ∀ volume, volumes' volume → volumes volume) :
    Agree names' volumes' h h' where
  behaviour := agree.behaviour
  domain mine := agree.domain (fewer _ mine)
  pool := agree.pool
  volume pool mine := agree.volume pool (fewer' _ mine)

theorem pool_of_agree {volumes₁ : Table Volume} (agree : Agree names volumes h h')
    (there : h.pools[pool]? = some volumes₁) : ∃ volumes₂, h'.pools[pool]? = some volumes₂ ∧
      ∀ {volume}, volumes volume → volumes₂[volume]? = volumes₁[volume]? := by
  obtain ⟨volumes₂, there'⟩ := Table.found_of_mem ((agree.pool pool).mpr (Table.mem_of_found there))
  refine ⟨volumes₂, there', fun mine => ?_⟩
  have same := agree.volume pool mine
  rwa [volume?_of_pool there, volume?_of_pool there'] at same

theorem pool_missing_of_agree (agree : Agree names volumes h h') (missing : h.pools[pool]? = none) :
    h'.pools[pool]? = none := by
  apply Std.ExtTreeMap.getElem?_eq_none
  intro member
  rw [agree.pool, Std.ExtTreeMap.mem_iff_isSome_getElem?, missing] at member
  cases member

/-- Answers that are the same, from hosts that agree afterwards. -/
def Answers (names volumes : String → Prop) (x y : Outcome HostError α × Host) : Prop :=
  y.1 = x.1 ∧ Agree names volumes x.2 y.2

section
variable (agree : Agree names volumes h h')
include agree

theorem withDomain_agree (mine : names name) {answer answer' : Domain → Outcome HostError α × Host}
    (each : ∀ domain, Answers names volumes (answer domain) (answer' domain)) :
    Answers names volumes (h.withDomain name answer) (h'.withDomain name answer') := by
  unfold withDomain
  rw [agree.domain mine]
  split
  · exact each _
  · exact ⟨rfl, agree⟩

theorem withPool_agree {answer answer' : Table Volume → Outcome HostError α × Host}
    (each : ∀ volumes₁ volumes₂,
      (∀ {volume}, volumes volume → volumes₂[volume]? = volumes₁[volume]?) →
      Answers names volumes (answer volumes₁) (answer' volumes₂)) :
    Answers names volumes (h.withPool pool answer) (h'.withPool pool answer') := by
  cases there : h.pools[pool]? with
  | none =>
    rw [withPool_missing there, withPool_missing (pool_missing_of_agree agree there)]
    exact ⟨rfl, agree⟩
  | some volumes₁ =>
    obtain ⟨volumes₂, there', same⟩ := pool_of_agree agree there
    rw [withPool_eq there, withPool_eq there']
    exact each volumes₁ volumes₂ same

theorem withVolume_agree (mine : volumes volume)
    {answer answer' : Table Volume → Volume → Outcome HostError α × Host}
    (each : ∀ volumes₁ volumes₂ found,
      (∀ {volume}, volumes volume → volumes₂[volume]? = volumes₁[volume]?) →
      Answers names volumes (answer volumes₁ found) (answer' volumes₂ found)) :
    Answers names volumes (h.withVolume pool volume answer) (h'.withVolume pool volume answer') := by
  apply withPool_agree agree
  intro volumes₁ volumes₂ same
  rw [same mine]
  split
  · exact each _ _ _ same
  · exact ⟨rfl, agree⟩

theorem setDomain_agree (name : String) (domain : Domain) :
    Agree names volumes (h.setDomain name domain) (h'.setDomain name domain) where
  behaviour := agree.behaviour
  domain mine := by
    simp only [setDomain, Std.ExtTreeMap.getElem?_insert]
    split
    · rfl
    · exact agree.domain mine
  pool := agree.pool
  volume := agree.volume

theorem undefine_agree (name : String) :
    Agree names volumes { h with domains := h.domains.erase name }
      { h' with domains := h'.domains.erase name } where
  behaviour := agree.behaviour
  domain mine := by
    simp only [Std.ExtTreeMap.getElem?_erase]
    split
    · rfl
    · exact agree.domain mine
  pool := agree.pool
  volume := agree.volume

omit agree in
theorem insert_agree {volumes₁ volumes₂ : Table Volume}
    (same : ∀ {volume}, volumes volume → volumes₂[volume]? = volumes₁[volume]?) (name : String)
    (found : Volume) {volume : String} (mine : volumes volume) :
    (volumes₂.insert name found)[volume]? = (volumes₁.insert name found)[volume]? := by
  simp only [Std.ExtTreeMap.getElem?_insert, same mine]

omit agree in
theorem erase_agree {volumes₁ volumes₂ : Table Volume}
    (same : ∀ {volume}, volumes volume → volumes₂[volume]? = volumes₁[volume]?) (name : String)
    {volume : String} (mine : volumes volume) :
    (volumes₂.erase name)[volume]? = (volumes₁.erase name)[volume]? := by
  simp only [Std.ExtTreeMap.getElem?_erase, same mine]

theorem setPool_agree {volumes₁ volumes₂ : Table Volume}
    (same : ∀ {volume}, volumes volume → volumes₂[volume]? = volumes₁[volume]?) :
    Agree names volumes (h.setPool pool volumes₁) (h'.setPool pool volumes₂) where
  behaviour := agree.behaviour
  domain := agree.domain
  pool name := by
    simp only [setPool, Std.ExtTreeMap.mem_insert, agree.pool]
  volume p mine := by
    rw [volume?_setPool, volume?_setPool]
    split
    · exact same mine
    · exact agree.volume p mine

end

/-- A request about a machine goes by what is named after it. -/
theorem answer_agree {r : Request} (agree : Agree (· = machine) (· ∈ volumesOf machine) h h')
    (concerns : r.Concerns machine) :
    Answers (· = machine) (· ∈ volumesOf machine) (h.answer r) (h'.answer r) := by
  have boots : h'.bootState = h.bootState :=
    show h'.behaviour.bootState = h.behaviour.bootState by rw [agree.behaviour]
  have leases : h'.bootLeases = h.bootLeases :=
    show h'.behaviour.bootLeases = h.behaviour.bootLeases by rw [agree.behaviour]
  have corrupts := corruptsUploads_of_behaviour agree.behaviour
  cases r with
  | domainInfo n | domainState n => exact withDomain_agree agree concerns fun _ => ⟨rfl, agree⟩
  | leaseAddresses n =>
    apply withDomain_agree agree concerns
    intro domain
    split <;> exact ⟨rfl, agree⟩
  | defineDomain d =>
    simp only [answer, agree.domain concerns]
    split
    · exact ⟨rfl, agree⟩
    · exact ⟨rfl, setDomain_agree agree _ _⟩
  | startDomain n =>
    apply withDomain_agree agree concerns
    intro domain
    rw [boots, leases]
    split
    · exact ⟨rfl, agree⟩
    · exact ⟨rfl, setDomain_agree agree _ _⟩
  | destroyDomain n =>
    apply withDomain_agree agree concerns
    intro domain
    split
    · exact ⟨rfl, agree⟩
    · exact ⟨rfl, setDomain_agree agree _ _⟩
  | undefineDomain n =>
    exact withDomain_agree agree concerns fun _ => ⟨rfl, undefine_agree agree n⟩
  | lookupPool p | refreshPool p => exact withPool_agree agree fun _ _ _ => ⟨rfl, agree⟩
  | createVolume p d =>
    apply withPool_agree agree
    intro volumes₁ volumes₂ same
    have member : d.name ∈ volumes₂ ↔ d.name ∈ volumes₁ := by
      simp only [Std.ExtTreeMap.mem_iff_isSome_getElem?, same concerns]
    simp only [member]
    split
    · exact ⟨rfl, agree⟩
    · exact ⟨rfl, setPool_agree agree (insert_agree same _ _)⟩
  | volumePath p v | downloadVolume p v =>
    exact withVolume_agree agree concerns fun _ _ _ _ => ⟨rfl, agree⟩
  | uploadVolume p v data =>
    apply withVolume_agree agree concerns
    intro volumes₁ volumes₂ found same
    rw [corrupts]
    split
    · exact ⟨rfl, agree⟩
    · exact ⟨rfl, setPool_agree agree (insert_agree same _ _)⟩
  | deleteVolume p v =>
    exact withVolume_agree agree concerns fun _ _ _ same =>
      ⟨rfl, setPool_agree agree (erase_agree same v)⟩

theorem answer_pool (h : Host) (r : Request) (pool : String) :
    pool ∈ (h.answer r).2.pools ↔ pool ∈ h.pools := by
  have kept {p : String} {volumes : Table Volume} (there : h.pools[p]? = some volumes)
      (volumes' : Table Volume) : pool ∈ (h.setPool p volumes').pools ↔ pool ∈ h.pools := by
    simp only [setPool, Std.ExtTreeMap.mem_insert, Std.LawfulEqCmp.compare_eq_iff_eq, or_iff_right_iff_imp]
    rintro rfl
    exact Table.mem_of_found there
  cases r <;> simp only [answer, withDomain, withPool, withVolume] <;> (repeat' split) <;>
    first | rfl | exact kept (by assumption) _

/-- A request about a machine changes nothing that is named after another. -/
theorem answer_others {r : Request} (h : Host) (concerns : r.Concerns machine) :
    Agree (· ≠ machine) (· ∉ volumesOf machine) h (h.answer r).2 where
  behaviour := answer_behaviour h r
  domain other := by
    apply answer_domain_other
    intro same
    cases r <;> simp_all [Request.Concerns, Request.domain?]
  pool := answer_pool h r
  volume pool other := by
    apply answer_volume_other
    intro same
    cases r <;> simp_all [Request.Concerns, Request.volume?]

end Host

namespace World

variable {names volumes : String → Prop} {machine : String} {w v u : World}

/-- The worlds do not differ in records, domains and volumes of some names. -/
structure Agree (names volumes : String → Prop) (w v : World) : Prop where
  host : Host.Agree names volumes w.host v.host
  record : ∀ {name}, names name → v.records[name]? = w.records[name]?
  secrets : v.secrets = w.secrets

theorem Agree.refl (w : World) : Agree names volumes w w := ⟨.of_objects rfl, fun _ => rfl, rfl⟩

theorem Agree.symm (agree : Agree names volumes w v) : Agree names volumes v w :=
  ⟨agree.host.symm, fun mine => (agree.record mine).symm, agree.secrets.symm⟩

theorem Agree.trans (first : Agree names volumes w v) (second : Agree names volumes v u) :
    Agree names volumes w u :=
  ⟨first.host.trans second.host, fun mine => (second.record mine).trans (first.record mine),
    second.secrets.trans first.secrets⟩

theorem Agree.mono {names' volumes' : String → Prop} (agree : Agree names volumes w v)
    (fewer : ∀ name, names' name → names name) (fewer' : ∀ volume, volumes' volume → volumes volume) :
    Agree names' volumes' w v :=
  ⟨agree.host.mono fewer fewer', fun mine => agree.record (fewer _ mine), agree.secrets⟩

theorem Agree.or {names' volumes' : String → Prop} (agree : Agree names volumes w v)
    (agree' : Agree names' volumes' w v) :
    Agree (fun name => names name ∨ names' name) (fun volume => volumes volume ∨ volumes' volume) w v where
  host := {
    behaviour := agree.host.behaviour
    domain := fun mine => mine.elim agree.host.domain agree'.host.domain
    pool := agree.host.pool
    volume := fun pool mine => mine.elim (agree.host.volume pool) (agree'.host.volume pool) }
  record mine := mine.elim agree.record agree'.record
  secrets := agree.secrets

/-- What is the machine's in the two worlds is the same. -/
abbrev Inside (machine : String) : World → World → Prop := Agree (· = machine) (· ∈ volumesOf machine)

/-- What is not the machine's in the two worlds is the same. -/
abbrev Outside (machine : String) : World → World → Prop := Agree (· ≠ machine) (· ∉ volumesOf machine)

/-- No single call is made to fail; kinds of calls may be. -/
structure Faultless (w : World) : Prop where
  host : w.hostFaults = []
  store : w.storeFaults = []

/-- Two worlds that do not differ for a machine, each of which came about from another by what was
done for that machine. -/
structure Isolated (machine : String) (w₀ v₀ w v : World) : Prop where
  inside : Inside machine w v
  first : Outside machine w₀ w
  second : Outside machine v₀ v
  faultless : w.Faultless
  faultless' : v.Faultless
  keyed : ∀ record, w.records[machine]? = some record → record.name = machine

namespace Isolated

variable {w₀ v₀ : World} (both : Isolated machine w₀ v₀ w v)
include both

theorem onHost {host host' : Host} (log log' : List Event)
    (inside : Host.Agree (· = machine) (· ∈ volumesOf machine) host host')
    (first : Host.Agree (· ≠ machine) (· ∉ volumesOf machine) w.host host)
    (second : Host.Agree (· ≠ machine) (· ∉ volumesOf machine) v.host host') :
    Isolated machine w₀ v₀ { w with host, log } { v with host := host', log := log' } where
  inside := ⟨inside, both.inside.record, both.inside.secrets⟩
  first := ⟨both.first.host.trans first, both.first.record, both.first.secrets⟩
  second := ⟨both.second.host.trans second, both.second.record, both.second.secrets⟩
  faultless := ⟨both.faultless.host, both.faultless.store⟩
  faultless' := ⟨both.faultless'.host, both.faultless'.store⟩
  keyed := both.keyed

/-- Only events were noted and connections counted. -/
theorem onConnection {host host' : Host} (log log' : List Event)
    (first : host.objects = w.host.objects) (second : host'.objects = v.host.objects) :
    Isolated machine w₀ v₀ { w with host, log } { v with host := host', log := log' } :=
  both.onHost log log' (((Host.Agree.of_objects first).symm.trans both.inside.host).trans
    (.of_objects second)) (.of_objects first) (.of_objects second)

theorem onRecords {records records' : Table Record}
    (inside : records'[machine]? = records[machine]?)
    (first : ∀ name, name ≠ machine → records[name]? = w.records[name]?)
    (second : ∀ name, name ≠ machine → records'[name]? = v.records[name]?)
    (keyed : ∀ record, records[machine]? = some record → record.name = machine) :
    Isolated machine w₀ v₀ { w with records } { v with records := records' } where
  inside := ⟨both.inside.host, by rintro _ rfl; exact inside, both.inside.secrets⟩
  first := ⟨both.first.host, fun other => (first _ other).trans (both.first.record other),
    both.first.secrets⟩
  second := ⟨both.second.host, fun other => (second _ other).trans (both.second.record other),
    both.second.secrets⟩
  faultless := ⟨both.faultless.host, both.faultless.store⟩
  faultless' := ⟨both.faultless'.host, both.faultless'.store⟩
  keyed := keyed

theorem insert (record : Record) (keyed : record.name = machine) :
    Isolated machine w₀ v₀ { w with records := w.records.insert machine record }
      { v with records := v.records.insert machine record } := by
  apply both.onRecords
  · simp
  · intro name other
    simp [Std.ExtTreeMap.getElem?_insert, Ne.symm other]
  · intro name other
    simp [Std.ExtTreeMap.getElem?_insert, Ne.symm other]
  · rintro stored found
    simp only [Std.ExtTreeMap.getElem?_insert_self, Option.some.injEq] at found
    rw [← found, keyed]

theorem erase :
    Isolated machine w₀ v₀ { w with records := w.records.erase machine }
      { v with records := v.records.erase machine } := by
  apply both.onRecords
  · simp
  · intro name other
    simp [Std.ExtTreeMap.getElem?_erase, Ne.symm other]
  · intro name other
    simp [Std.ExtTreeMap.getElem?_erase, Ne.symm other]
  · simp

end Isolated

end World

namespace Session

open World MachineKeeper.Action

variable {machine : String} {w w₀ v₀ : World} {r : Request}

theorem meetFaults_faultless (site : HostSite) (faultless : w.Faultless) :
    meetFaults site w = (.done (), w) :=
  meetFaults_none (by simp [faultless.host])

theorem connect_isolated : Steady (Isolated machine w₀ v₀) connect := by
  intro w v both
  have refuses := Host.refusesConnections_of_behaviour both.inside.host.behaviour
  rw [connect, connect, meetFaults_faultless _ both.faultless, meetFaults_faultless _ both.faultless']
  dsimp only
  by_cases refused : w.host.refusesConnections = true
  · rw [if_pos refused, if_pos (refuses.trans refused)]
    exact .failed _ (both.onConnection _ _ rfl rfl)
  · rw [if_neg refused, if_neg (refuses ▸ refused)]
    exact .done ⟨rfl, both.onConnection _ _ rfl rfl⟩

theorem disconnect_isolated : Steady (Isolated machine w₀ v₀) disconnect := by
  intro w v both
  rw [disconnect, disconnect, meetFaults_faultless _ both.faultless,
    meetFaults_faultless _ both.faultless']
  exact .done ⟨rfl, both.onConnection _ _ rfl rfl⟩

theorem send_faultless (r : Request) (faultless : w.Faultless) :
    send r w = ((w.host.serve r).1, note (.request r true (w.host.serve r).1)
      { w with host := (w.host.serve r).2 }) := by
  rw [send, meetFaults_faultless _ faultless]

theorem send_isolated (concerns : r.Concerns machine) : Steady (Isolated machine w₀ v₀) (send r) := by
  intro w v both
  have failing := Host.failing_of_behaviour both.inside.host.behaviour
  rw [send_faultless r both.faultless, send_faultless r both.faultless', Host.serve, Host.serve, failing]
  by_cases fails : r.call ∈ w.host.failing
  · rw [if_pos fails, if_pos fails]
    exact .failed _ (both.onConnection _ _ rfl rfl)
  · rw [if_neg fails, if_neg fails]
    obtain ⟨same, inside⟩ := Host.answer_agree both.inside.host concerns
    rw [same]
    exact paired_same _ (both.onHost _ _ inside (Host.answer_others _ concerns)
      (Host.answer_others _ concerns))

end Session

namespace Store

open World MachineKeeper.Action

variable {ε : Type} {machine : String} {w w₀ v₀ : World}

theorem meetFaults_faultless (site : StoreSite) (faultless : w.Faultless) :
    meetFaults site w = (.done (), w) :=
  meetFaults_idle faultless.store site

theorem meetFaults_isolated (site : StoreSite) : Steady (Isolated machine w₀ v₀) (meetFaults site) := by
  intro w v both
  rw [meetFaults_faultless _ both.faultless, meetFaults_faultless _ both.faultless']
  exact .done ⟨rfl, both⟩

theorem secret_isolated (name : String) : Steady (Isolated machine w₀ v₀) (secret name) := by
  apply (meetFaults_isolated _).bind
  intro _ w v both
  dsimp only
  rw [both.inside.secrets]
  exact .done ⟨rfl, both⟩

theorem writeBack_isolated {record : Record} (keyed : record.name = machine) :
    Steady (Isolated machine w₀ v₀) (writeBack machine record : Action ε Record) := by
  intro w v both
  unfold writeBack
  split
  · exact .done ⟨rfl, both.insert _ keyed⟩
  · exact .overflow both

theorem patchStatus_isolated (patch : Status → Status) :
    Steady (Isolated machine w₀ v₀) (patchStatus machine patch) := by
  apply (meetFaults_isolated _).bind
  intro _ w v both
  dsimp only
  rw [both.inside.record rfl]
  split
  next record found =>
    apply (writeBack_isolated (by exact both.keyed record found) both).map
    exact fun ⟨same, both⟩ => ⟨congrArg _ same, both⟩
  next => exact .failed _ both

theorem removeFinalizer_isolated (machine : String) :
    Steady (Isolated machine w₀ v₀) (removeFinalizer machine) := by
  apply (meetFaults_isolated _).bind
  intro _ w v both
  dsimp only
  rw [both.inside.record rfl]
  split
  next record found =>
    split
    · exact .done ⟨rfl, both.erase⟩
    · apply (writeBack_isolated (by exact both.keyed record found) both).map
      exact fun ⟨_, both⟩ => ⟨rfl, both⟩
  next => exact .done ⟨rfl, both⟩

end Store

namespace Reconcile

open World Store Session MachineKeeper.Action

variable {ε : Type} {machine a b : String} {intervals : Intervals} {w v w₀ v₀ w' v' : World}

theorem isolated_uniform :
    Uniform machine machine (Isolated machine w₀ v₀) (Isolated machine w₀ v₀) where
  connect := connect_isolated
  disconnect := disconnect_isolated
  send := send_isolated
  weaker both := both
  secret := secret_isolated
  publish _ := (patchStatus_isolated _).bind fun _ => steady_pure ()
  letGo := removeFinalizer_isolated machine
  note _ := (patchStatus_isolated _).mono id And.right

theorem get_isolated : Coupled (Isolated machine w₀ v₀) (Isolated machine w₀ v₀)
    (Found machine (Isolated machine w₀ v₀) (Isolated machine w₀ v₀)) (Store.get machine)
    (Store.get machine) := by
  apply Coupled.bind (meetFaults_isolated _)
  rintro _ _ w v ⟨-, both⟩
  dsimp only
  rw [both.inside.record rfl]
  cases found : w.records[machine]? with
  | none => exact .done (.missing both)
  | some record =>
    by_cases gone : record.status.phase = .deleted
    · exact .done (.gone gone gone both)
    · exact .done (.alive (both.keyed record found) gone gone both)

/-- A pass goes by what is its machine's, and it leaves all else alone. -/
theorem runPass_local {o o' : Outcome ε Next} (inside : Inside machine w v)
    (faultless : w.Faultless) (faultless' : v.Faultless)
    (keyed : ∀ record, w.records[machine]? = some record → record.name = machine)
    (run : runPass intervals machine w = (o, w')) (run' : runPass intervals machine v = (o', v')) :
    o' = o ∧ Isolated machine w v w' v' := by
  have both : Isolated machine w v w v := ⟨inside, .refl w, .refl v, faultless, faultless', keyed⟩
  have ended : Paired (Isolated machine w v) _ ((runPass intervals machine : Action ε Next) w)
      (runPass intervals machine v) := runPass_coupled isolated_uniform get_isolated both
  rw [run, run'] at ended
  exact ended.same

theorem append_cancel_right {a b suffix : String} (same : a ++ suffix = b ++ suffix) : a = b := by
  have lists := congrArg String.toList same
  rw [String.toList_append, String.toList_append] at lists
  exact String.toList_inj.mp (List.append_cancel_right lists)

/-- Whatever the names are, no volume is named after two machines. -/
theorem volumesOf_disjoint {volume : String} (other : a ≠ b) (mine : volume ∈ volumesOf b) :
    volume ∉ volumesOf a := by
  simp only [volumesOf, List.mem_cons, List.not_mem_nil, or_false] at mine ⊢
  rintro (disk | seed) <;> rcases mine with disk' | seed'
  · exact other (append_cancel_right (disk.symm.trans disk'))
  · exact Lifecycle.diskVolume_ne_seedVolume_of a b (disk.symm.trans seed')
  · exact Lifecycle.diskVolume_ne_seedVolume_of b a (disk'.symm.trans seed)
  · exact other (append_cancel_right (seed.symm.trans seed'))

theorem inside_of_outside (outside : Outside a w v) (other : a ≠ b) : Inside b w v where
  host := outside.host.mono (by rintro _ rfl; exact other.symm) fun _ => volumesOf_disjoint other
  record := by rintro _ rfl; exact outside.record other.symm
  secrets := outside.secrets

/-- Worlds that agree on all names are the same. -/
theorem whole_of_agree (agree : World.Agree (fun _ => True) (fun _ => True) w v) :
    v.host.domains = w.host.domains ∧ v.host.pools = w.host.pools ∧ v.records = w.records := by
  refine ⟨Std.ExtTreeMap.ext_getElem? fun _ => agree.host.domain trivial, ?_,
    Std.ExtTreeMap.ext_getElem? fun _ => agree.record trivial⟩
  apply Std.ExtTreeMap.ext_getElem?
  intro pool
  cases there : w.host.pools[pool]? with
  | none => exact Host.pool_missing_of_agree agree.host there
  | some volumes =>
    obtain ⟨volumes', there', same⟩ := Host.pool_of_agree agree.host there
    rw [there', Std.ExtTreeMap.ext_getElem? fun _ => same trivial]

/-- A pass for one machine leaves the others alone, and in which of two orders two machines have their
passes makes no difference to what is left or to when the next passes are due. -/
theorem passes_commute {oa ob oa' ob' : Outcome ε Next} {wa wb wab wba : World} (other : a ≠ b)
    (faultless : w.Faultless)
    (keyed : ∀ key (record : Record), w.records[key]? = some record → record.name = key)
    (first : runPass intervals a w = (oa, wa)) (second : runPass intervals b wa = (ob, wab))
    (first' : runPass intervals b w = (ob', wb)) (second' : runPass intervals a wb = (oa', wba)) :
    (wa.records[b]? = w.records[b]? ∧ wa.host.domains[b]? = w.host.domains[b]? ∧
      ∀ pool, wa.host.volume? pool (Names.of b).diskVolume = w.host.volume? pool (Names.of b).diskVolume ∧
        wa.host.volume? pool (Names.of b).seedVolume = w.host.volume? pool (Names.of b).seedVolume) ∧
    wba.host.domains = wab.host.domains ∧ wba.host.pools = wab.host.pools ∧
      wba.records = wab.records ∧ oa' = oa ∧ ob' = ob := by
  obtain ⟨-, alone⟩ := runPass_local (.refl w) faultless faultless (keyed a) first first
  obtain ⟨-, alone'⟩ := runPass_local (.refl w) faultless faultless (keyed b) first' first'
  have spared : Inside b w wa := inside_of_outside alone.first other
  have spared' : Inside a w wb := inside_of_outside alone'.first other.symm
  -- What either pass reads is still the same when it comes second.
  obtain ⟨same, a_twice⟩ := runPass_local spared' faultless alone'.faultless (keyed a) first second'
  obtain ⟨same', b_twice⟩ := runPass_local spared faultless alone.faultless (keyed b) first' second
  refine ⟨⟨spared.record rfl, spared.host.domain rfl, fun pool =>
    ⟨spared.host.volume pool (by simp [volumesOf]), spared.host.volume pool (by simp [volumesOf])⟩⟩, ?_⟩
  -- The worlds that are left agree on what is the first machine's, the second one's, and the rest.
  have mine : Inside a wab wba :=
    (inside_of_outside b_twice.second other.symm).symm.trans a_twice.inside
  have yours : Inside b wab wba :=
    b_twice.inside.symm.trans (inside_of_outside a_twice.second other)
  have rest : World.Agree (fun name => name ≠ a ∧ name ≠ b)
      (fun volume => volume ∉ volumesOf a ∧ volume ∉ volumesOf b) wab wba :=
    ((b_twice.second.mono (fun _ => And.right) fun _ => And.right).symm.trans
      (alone.first.mono (fun _ => And.left) fun _ => And.left).symm).trans
      ((alone'.first.mono (fun _ => And.right) fun _ => And.right).trans
        (a_twice.second.mono (fun _ => And.left) fun _ => And.left))
  obtain ⟨domains, pools, records⟩ := whole_of_agree
    ((mine.or (yours.or rest)).mono (fun name _ => by grind) fun volume _ => by grind)
  exact ⟨domains, pools, records, same, same'.symm⟩

/-- A machine that is still to be made in the pool of one that runs. -/
def neighbours : World :=
  let running := World.serving (.ofSpec (.ofName "m"))
  let fresh : Record := { planned with spec := .ofName "n" }
  { running with records := running.records.insert "n" fresh, secrets := roomy.secrets }

theorem passes_commute_neighbours :
    let pass (name : String) (w : World) := (runPass .standard name : Action Failure Next) w
    let wa := (pass "m" neighbours).2
    let wab := (pass "n" wa).2
    let wb := (pass "n" neighbours).2
    let wba := (pass "m" wb).2
    ("m" ≠ "n" ∧ neighbours.Faultless ∧
      ∀ key (record : Record), neighbours.records[key]? = some record → record.name = key) ∧
    (wa.records["n"]? = neighbours.records["n"]? ∧
      wa.host.domains["n"]? = neighbours.host.domains["n"]? ∧
      ∀ pool, wa.host.volume? pool (Names.of "n").diskVolume =
          neighbours.host.volume? pool (Names.of "n").diskVolume ∧
        wa.host.volume? pool (Names.of "n").seedVolume =
          neighbours.host.volume? pool (Names.of "n").seedVolume) ∧
    wba.host.domains = wab.host.domains ∧ wba.host.pools = wab.host.pools ∧
      wba.records = wab.records ∧ (pass "m" wb).1 = (pass "m" neighbours).1 ∧
      (pass "n" neighbours).1 = (pass "n" wa).1 := by
  have keyed : ∀ key (record : Record), neighbours.records[key]? = some record → record.name = key := by
    intro key record found
    simp only [neighbours, World.serving, Std.ExtTreeMap.getElem?_insert,
      Std.LawfulEqCmp.compare_eq_iff_eq] at found
    split at found
    next here => rw [← here, ← Option.some.inj found]; rfl
    next =>
      split at found
      next here => rw [← here, ← Option.some.inj found]
      next => simp at found
  exact ⟨⟨by decide, ⟨rfl, rfl⟩, keyed⟩, passes_commute (by decide) ⟨rfl, rfl⟩ keyed (run_halves _ _)
    (run_halves _ _) (run_halves _ _) (run_halves _ _)⟩

end Reconcile

end MachineKeeper
