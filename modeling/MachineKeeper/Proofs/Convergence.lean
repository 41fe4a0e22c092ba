import MachineKeeper.Proofs.Remnants

/-! How a machine comes to be ready where nothing stands in its way. A domain of another size goes, a
missing one is made with the size that is asked for, and one that runs and has an address is only looked
at; so there are at most three passes until the machine is ready, and those behind them change nothing
but count up the version. -/
namespace MachineKeeper

/-- An interface that has a name was given an address. -/
def Leased (interfaces : List Interface) : Prop :=
  ∃ i ∈ interfaces, i.name ≠ "" ∧ i.addresses ≠ []

theorem reachable_ne_nil_iff {interfaces : List Interface} :
    Lifecycle.reachable interfaces ≠ [] ↔ Leased interfaces := by
  simp [Lifecycle.reachable, Leased, List.flatMap_eq_nil_iff]

namespace Reconcile

open Session Lifecycle Store MachineKeeper.Action

variable {ε : Type} {w w' : World} {record : Record} {domain : Domain} {intervals : Intervals}

/-- The world after so many passes for one machine. -/
def afterPasses (intervals : Intervals) (name : String) : Nat → World → World
  | 0, w => w
  | n + 1, w => afterPasses intervals name n ((runPass intervals name : Action Empty Next) w).2

/-- Nothing stands in the way of a machine that is looked after: calls get through, uploads land as they
are, domains come up and get an address, and what the record asks for can be had. -/
structure Unhindered (record : Record) (w : World) : Prop extends Linked record.name w record where
  calm : w.Calm
  intact : w.host.corruptsUploads = false
  boots : w.host.bootState = .running
  leases : Leased w.host.bootLeases
  given : ∃ text, Bootstrap w.secrets record (.done (some text)) ∧ text.utf8ByteSize < UInt32.size
  short : record.name.length ≤ maxNameLength
  pool : record.spec.storagePool ∈ w.host.pools
  memory : record.spec.memory.toNat * 1024 < UInt64.size

/-- The machine's domain is there, as it is asked for, and runs where it can be reached. -/
structure Served (record : Record) (domain : Domain) (w : World) : Prop extends Unhindered record w where
  there : w.host.domains[record.name]? = some domain
  sized : Sized record domain
  runs : domain.state = .running
  leased : Leased domain.interfaces

/-- What is published of a machine that can be reached. -/
def arrival (record : Record) (domain : Domain) (s : Status) : Status :=
  { s with
    providerId := some (providerId record.name)
    addresses := (reachable domain.interfaces).map Address.mk
    ready := true, provisioned := true, phase := .ready }

/-- A record whose secret holds a cloud-config comes to nothing else. -/
theorem Bootstrap.given_only {secrets : Table (Table String)} {text : String}
    {o : Outcome Failure (Option String)} (given : Bootstrap secrets record (.done (some text)))
    (other : Bootstrap secrets record o) : o = .done (some text) := by
  cases given with | @given secret _ data named there accepted value nonempty =>
  have same {secret' : String} {data' : Table String} (named' : record.bootstrapSecret = some secret')
      (there' : secrets[secret']? = some data') : data' = data := by
    obtain rfl := Option.some.inj (named'.symm.trans named)
    exact Option.some.inj (there'.symm.trans there)
  cases other with
  | unset unset => cases unset.symm.trans named
  | unread named' missing =>
    obtain rfl := Option.some.inj (named'.symm.trans named)
    cases missing.symm.trans there
  | unsupported named' there' stated other =>
    obtain rfl := same named' there'
    exact absurd (accepted _ stated) other
  | valueless named' there' _ missing =>
    obtain rfl := same named' there'
    cases missing.symm.trans value
  | empty named' there' _ value' =>
    obtain rfl := same named' there'
    exact absurd (Option.some.inj (value.symm.trans value')) nonempty
  | given named' there' _ value' _ =>
    obtain rfl := same named' there'
    rw [Option.some.inj (value'.symm.trans value)]

/-- A pass that changes neither how the host behaves nor what is asked for leaves the way free. -/
theorem Unhindered.passed {ok : Request → Prop} {host : Host} {patch : Status → Status}
    (free : Unhindered record w)
    (leaves : Leaves ok host (w.records.insert record.name (record.published patch)) w w')
    (alive : (record.published patch).status.phase ≠ .deleted)
    (behaves : host.behaviour = w.host.behaviour) (pool : record.spec.storagePool ∈ host.pools) :
    Unhindered (record.published patch) w' := by
  have behaves : w'.host.behaviour = w.host.behaviour := by
    rw [← behaves, ← leaves.host]
    rfl
  exact {
    found := by rw [leaves.records]; exact Std.ExtTreeMap.getElem?_insert_self
    alive := alive
    looked := free.looked
    kept := free.kept
    satisfied := free.satisfied
    calm := {
      hostFaults := leaves.hostFaults.trans free.calm.hostFaults
      storeFaults := leaves.storeFaults.trans free.calm.storeFaults
      able := (Host.failing_of_behaviour behaves).trans free.calm.able
      accepts := (Host.refusesConnections_of_behaviour behaves).trans free.calm.accepts }
    intact := (Host.corruptsUploads_of_behaviour behaves).trans free.intact
    boots := (congrArg Host.bootState behaves).trans free.boots
    leases := (congrArg (fun h => Leased h.bootLeases) behaves).mpr free.leases
    given := by
      obtain ⟨text, given, fits⟩ := free.given
      cases given with | given named there accepted value nonempty =>
      rw [← leaves.secrets] at there
      exact ⟨text, .given named there accepted value nonempty, fits⟩
    short := free.short
    pool := by
      rw [← Host.objects_pools, leaves.host]
      exact pool
    memory := free.memory }

theorem runPass_linked {next : Next} {w₁ : World} {verdict : Bool × Bool}
    (free : Unhindered record w)
    (probed : (probe record.spec : Action Error (Bool × Bool)) w = (.done verdict, w₁))
    (ran : (match verdict with
      | (true, false) => discard intervals record
      | (true, true) => observe intervals record
      | (false, _) => build intervals record) w₁ = (.done next, w')) :
    (runPass intervals record.name : Action ε Next) w = (.done next, w') := by
  apply runPass_of_done
  rw [reconcile_calm free.calm free.found, step_linked free.toLinked, bind_of_done (apart_of_done probed)]
  exact ran

/-- A domain of another size goes, and the next pass finds none. -/
theorem runPass_drifts (intervals : Intervals) (free : Unhindered record w)
    (there : w.host.domains[record.name]? = some domain) (other : ¬ Sized record domain)
    (room : record.version.toNat + 1 < UInt64.size) :
    ∃ w', (runPass intervals record.name : Action ε Next) w = (.done (.after intervals.drift), w') ∧
      w'.host.domains[record.name]? = none ∧
      Unhindered (record.published fun s => { s.clearObservations with phase := .drifted }) w' := by
  obtain ⟨w₁, probed⟩ := probe_there free.calm there
  have looked := Looked.of_probe free.calm probed
  obtain ⟨w', ran, leaves⟩ := discard_calm intervals free.toLinked there room looked
  rw [Bool.eq_false_iff.mpr (mt fits_iff.mp other)] at probed
  refine ⟨w', runPass_linked free probed ran, ?_, free.passed leaves nofun rfl ?_⟩
  · rw [← Host.objects_domains, leaves.host]
    exact Std.ExtTreeMap.getElem?_erase_self
  · rw [Host.mem_pools_without]
    exact free.pool

theorem Unhindered.creation {text : String} {o : Outcome Error Unit} {host : Host}
    (free : Unhindered record w) (fits : text.utf8ByteSize < UInt32.size)
    (creation : Creation w.host.objects { record.spec with userData := text } o host) :
    o = .done () ∧ host.behaviour = w.host.behaviour ∧ record.spec.storagePool ∈ host.pools ∧
      host.domains[record.name]? = some (booted w.host record.spec) := by
  obtain ⟨image, _, rfl, rfl⟩ := creation.received ⟨free.short, fits, free.memory⟩ free.intact free.pool
  exact ⟨rfl, rfl, Std.ExtTreeMap.mem_insert_self, Std.ExtTreeMap.getElem?_insert_self⟩

theorem booted_sized (host : Host) (memory : record.spec.memory.toNat * 1024 < UInt64.size) :
    Sized record (booted host record.spec) where
  cpu := rfl
  memory := by
    apply UInt64.toNat_inj.mp
    rw [booted, UInt64.toNat_div, toNat_kib memory]
    exact Nat.mul_div_cancel _ (by decide)

theorem runPass_creates (intervals : Intervals) (free : Unhindered record w)
    (missing : w.host.domains[record.name]? = none) (room : record.version.toNat + 1 < UInt64.size) :
    ∃ w', (runPass intervals record.name : Action ε Next) w = (.done (.after intervals.poll), w') ∧
      Served (record.published ({ · with phase := .creating })) (booted w.host record.spec) w' := by
  obtain ⟨w₁, probed⟩ := probe_missing free.calm missing
  have looked := Looked.of_probe free.calm probed
  obtain ⟨text, given, fits⟩ := free.given
  obtain ⟨o₁, config, bootstrap⟩ := cloudConfig_calm looked.calm record
  obtain rfl := given.given_only (looked.leaves.secrets ▸ bootstrap)
  obtain ⟨o, w₂, made, calm₂, creation, leaves⟩ := create_looked missing free.memory looked text
  obtain ⟨rfl, behaves, pool, there⟩ := free.creation fits creation
  have found₂ : w₂.records[record.name]? = some record := by rw [leaves.records, free.found]
  have published := leaves.publish record ({ · with phase := .creating })
  refine ⟨_, runPass_linked free probed (build_made config made calm₂ found₂ room), ?_⟩
  exact {
    toUnhindered := free.passed published nofun behaves pool
    there := there
    sized := ⟨(booted_sized w.host free.memory).cpu, (booted_sized w.host free.memory).memory⟩
    runs := free.boots
    leased := free.leases }

theorem runPass_arrives (intervals : Intervals) (served : Served record domain w)
    (room : record.version.toNat + 1 < UInt64.size) :
    ∃ w', (runPass intervals record.name : Action ε Next) w = (.done (.after intervals.periodic), w') ∧
      w'.host.objects = w.host.objects ∧ Served (record.published (arrival record domain)) domain w' := by
  obtain ⟨w₁, probed⟩ := probe_there served.calm served.there
  have looked := Looked.of_probe served.calm probed
  obtain ⟨w', ran, leaves⟩ := observe_reached intervals served.toLinked served.there
    served.runs (reachable_ne_nil_iff.mpr served.leased) room looked
  rw [fits_iff.mpr served.sized] at probed
  refine ⟨w', runPass_linked served.toUnhindered probed ran, leaves.host, ?_⟩
  exact {
    toUnhindered := served.toUnhindered.passed leaves nofun rfl served.pool
    there := by
      rw [Host.domains_of_objects leaves.host]
      exact served.there
    sized := ⟨served.sized.cpu, served.sized.memory⟩
    runs := served.runs
    leased := served.leased }

theorem afterPasses_succ {o : Outcome Empty Next} {name : String}
    (ran : (runPass intervals name : Action Empty Next) w = (o, w')) (n : Nat) :
    afterPasses intervals name (n + 1) w = afterPasses intervals name n w' := by
  rw [afterPasses, ran]

/-- The status says already what is published of the machine. -/
def Reported (record : Record) (domain : Domain) : Prop :=
  { arrival record domain record.status with failureMessage := none } = record.status

theorem reported_published (record : Record) (domain : Domain) :
    Reported (record.published (arrival record domain)) domain := rfl

theorem Reported.published (reported : Reported record domain) :
    record.published (arrival record domain) = { record with version := record.version + 1 } := by
  rw [Record.published, reported]

/-- Passes over a machine that is served and reported do no more than count up the version. -/
theorem Served.stays (intervals : Intervals) {n : Nat} (served : Served record domain w)
    (reported : Reported record domain) (room : record.version.toNat + n < UInt64.size) :
    (afterPasses intervals record.name n w).host.objects = w.host.objects ∧
      Served { record with version := record.version + UInt64.ofNat n } domain
        (afterPasses intervals record.name n w) := by
  -- The record changes with each pass, and with it what has to be shown of the rest.
  induction n generalizing w record with
  | zero =>
    rw [afterPasses, show UInt64.ofNat 0 = 0 from rfl, UInt64.add_zero]
    exact ⟨rfl, served⟩
  | succ n ih =>
    obtain ⟨w₁, ran, objects, served₁⟩ :=
      runPass_arrives (ε := Empty) intervals served (by omega)
    have version := published_version record (arrival record domain) (by omega)
    rw [reported.published] at served₁ version
    obtain ⟨objects', served'⟩ := ih served₁ reported (by omega)
    rw [afterPasses_succ ran, Nat.add_comm n 1, UInt64.ofNat_add, ← UInt64.add_assoc]
    exact ⟨objects'.trans objects, served'⟩

/-- After `k` passes the machine is served, and its record says so. -/
def Arrives (intervals : Intervals) (record : Record) (k : Nat) (w : World) : Prop :=
  ∃ settled domain, Served settled domain (afterPasses intervals record.name k w) ∧
    Reported settled domain ∧ settled.spec = record.spec ∧
    settled.version.toNat = record.version.toNat + k

theorem Arrives.behind {k : Nat} {o : Outcome Empty Next} {patch : Status → Status}
    (ran : (runPass intervals record.name : Action Empty Next) w = (o, w'))
    (room : record.version.toNat + 1 < UInt64.size)
    (rest : Arrives intervals (record.published patch) k w') : Arrives intervals record (k + 1) w := by
  obtain ⟨settled, domain, served, reported, spec, version⟩ := rest
  rw [published_version record patch room] at version
  refine ⟨settled, domain, ?_, reported, spec, by omega⟩
  rw [afterPasses_succ ran]
  exact served

theorem Served.arrives (served : Served record domain w) (room : record.version.toNat + 1 < UInt64.size) :
    Arrives intervals record 1 w := by
  obtain ⟨w', ran, _, served'⟩ := runPass_arrives (ε := Empty) intervals served room
  exact ⟨_, domain, by rwa [afterPasses_succ ran], reported_published record domain, rfl,
    published_version record _ room⟩

theorem Unhindered.arrives_missing (free : Unhindered record w)
    (missing : w.host.domains[record.name]? = none) (room : record.version.toNat + 2 < UInt64.size) :
    Arrives intervals record 2 w := by
  obtain ⟨w', ran, served⟩ :=
    runPass_creates (ε := Empty) intervals free missing (by omega)
  have version := published_version record ({ · with phase := .creating }) (by omega)
  exact .behind ran (by omega) (served.arrives (by omega))

theorem Unhindered.arrives_amiss (free : Unhindered record w)
    (there : w.host.domains[record.name]? = some domain) (other : ¬ Sized record domain)
    (room : record.version.toNat + 3 < UInt64.size) : Arrives intervals record 3 w := by
  obtain ⟨w', ran, missing, free'⟩ :=
    runPass_drifts (ε := Empty) intervals free there other (by omega)
  have version := published_version record
    (fun s => { s.clearObservations with phase := .drifted }) (by omega)
  exact .behind ran (by omega) (free'.arrives_missing missing (by omega))

/-- A machine is ready, and the passes that follow come back after the same time each and leave it be:
they change neither the host's domains and volumes nor anything in the record but its version. -/
structure AtRest (intervals : Intervals) (record : Record) (domain : Domain) (w : World) : Prop where
  found : w.records[record.name]? = some record
  phase : record.status.phase = .ready
  ready : record.status.ready = true
  provisioned : record.status.provisioned = true
  unfailed : record.status.failureMessage = none
  there : w.host.domains[record.name]? = some domain
  sized : Sized record domain
  domains {n : Nat} (room : record.version.toNat + n < UInt64.size) :
    (afterPasses intervals record.name n w).host.domains = w.host.domains
  pools {n : Nat} (room : record.version.toNat + n < UInt64.size) :
    (afterPasses intervals record.name n w).host.pools = w.host.pools
  counted {n : Nat} (room : record.version.toNat + n < UInt64.size) :
    (afterPasses intervals record.name n w).records[record.name]? =
      some { record with version := record.version + UInt64.ofNat n }
  periodic {n : Nat} (room : record.version.toNat + n + 1 < UInt64.size) :
    ((runPass intervals record.name : Action Empty Next) (afterPasses intervals record.name n w)).1 =
      .done (.after intervals.periodic)

theorem Served.atRest (served : Served record domain w) (reported : Reported record domain) :
    AtRest intervals record domain w where
  found := served.found
  phase := (congrArg Status.phase reported).symm
  ready := (congrArg Status.ready reported).symm
  provisioned := (congrArg Status.provisioned reported).symm
  unfailed := (congrArg Status.failureMessage reported).symm
  there := served.there
  sized := served.sized
  domains room := Host.domains_of_objects (served.stays intervals reported room).1
  pools room := Host.pools_of_objects (served.stays intervals reported room).1
  counted room := (served.stays intervals reported room).2.found
  periodic {n} room := by
    have served' := (served.stays intervals (n := n) reported (by omega)).2
    have counted : (record.version + UInt64.ofNat n).toNat = record.version.toNat + n := by
      rw [UInt64.toNat_add, UInt64.toNat_ofNat', Nat.add_mod_mod]
      exact Nat.mod_eq_of_lt (Nat.lt_of_succ_lt room)
    obtain ⟨w', ran, _⟩ := runPass_arrives (ε := Empty) intervals served'
      (by rwa [counted])
    exact congrArg Prod.fst ran

/-- Where nothing stands in the way of a machine, and a domain that is there either has to go or can be
reached, it takes three passes at most until the machine is ready with a domain of the size that is asked
for, and from there on it stays so. -/
theorem comes_to_rest (free : Unhindered record w)
    (workable : ∀ domain, w.host.domains[record.name]? = some domain → Sized record domain →
      domain.state = .running ∧ Leased domain.interfaces)
    (room : record.version.toNat + 3 < UInt64.size) :
    ∃ k ≤ 3, ∃ (settled : Record) (domain : Domain), settled.spec = record.spec ∧
      settled.version.toNat = record.version.toNat + k ∧
      AtRest intervals settled domain (afterPasses intervals record.name k w) := by
  obtain ⟨k, few, settled, domain, served, reported, spec, version⟩ :
      ∃ k ≤ 3, Arrives intervals record k w := by
    cases there : w.host.domains[record.name]? with
    | none => exact ⟨2, by omega, free.arrives_missing there (by omega)⟩
    | some domain =>
      by_cases sized : Sized record domain
      · obtain ⟨runs, leased⟩ := workable domain there sized
        exact ⟨1, by omega, Served.arrives ⟨free, there, sized, runs, leased⟩ (by omega)⟩
      · exact ⟨3, by omega, free.arrives_amiss there sized room⟩
  exact ⟨k, few, settled, domain, spec, version, served.atRest reported⟩

/-- The planned machine runs with more processors than it is to have. Whatever is made in its place gets
an address. -/
def outgrown : World :=
  { roomy with
    host := { (World.serving planned).host.updateDomain "m" ({ · with vcpus := 7 }) with
      bootLeases := [⟨"vnet0", none, ["192.168.122.10"]⟩] } }

theorem outgrown_given : Bootstrap outgrown.secrets planned (.done (some "#cloud-config\n")) := by
  have unstated : ((∅ : Table String).insert "value" "#cloud-config\n")["format"]? = none := by decide
  exact .given rfl (show outgrown.secrets["s"]? = some _ by decide)
    (fun _ stated => nomatch unstated.symm.trans stated) (by decide) (by decide)

theorem outgrown_unhindered : Unhindered planned outgrown where
  found := by decide
  alive := by decide
  looked := rfl
  kept := rfl
  satisfied := rfl
  calm := ⟨rfl, rfl, rfl, rfl⟩
  intact := rfl
  boots := rfl
  leases := ⟨_, .head _, by decide, by decide⟩
  given := ⟨"#cloud-config\n", outgrown_given, by decide⟩
  short := by decide
  pool := by decide
  memory := by decide

theorem comes_to_rest_outgrown : Unhindered planned outgrown ∧
    (∃ domain, outgrown.host.domains["m"]? = some domain ∧ ¬ Sized planned domain) ∧
    ∃ k ≤ 3, ∃ (settled : Record) (domain : Domain), settled.spec = planned.spec ∧
      settled.version.toNat = planned.version.toNat + k ∧
      AtRest .standard settled domain (afterPasses .standard "m" k outgrown) := by
  obtain ⟨domain, there, seven⟩ :
      ∃ domain, outgrown.host.domains["m"]? = some domain ∧ domain.vcpus = 7 :=
    Option.map_eq_some_iff.mp (by decide : outgrown.host.domains["m"]?.map (·.vcpus) = some 7)
  have other : ¬ Sized planned domain := fun sized => absurd (seven.symm.trans sized.cpu) (by decide)
  refine ⟨outgrown_unhindered, ⟨domain, there, other⟩,
    comes_to_rest outgrown_unhindered (fun found there' sized => ?_) (by decide)⟩
  obtain rfl := Option.some.inj (there.symm.trans there')
  exact absurd sized other

end Reconcile

end MachineKeeper
