import MachineKeeper.Proofs.Calm
import MachineKeeper.Proofs.Reconcile

/-! The rules of a pass in the order in which they are tried. Where calls get through, a pass is an
instance of the first that applies, and leaves what that rule says. -/
namespace MachineKeeper

/-- The record after a status was published: the status tells of no failure. -/
def Record.published (record : Record) (patch : Status → Status) : Record :=
  { record with
    status := { patch record.status with failureMessage := none }
    version := record.version + 1 }

/-- A domain was to be defined. -/
def Event.Defines : Event → Prop
  | .request (.defineDomain _) _ _ => True
  | _ => False

namespace Reconcile

open Session Lifecycle Store MachineKeeper.Action

variable {w w' : World} {name : String} {record : Record} {domain : Domain} {intervals : Intervals}

/-- There is a record, and its machine is not gone. -/
structure Alive (name : String) (w : World) (record : Record) : Prop where
  found : w.records[name]? = some record
  alive : record.status.phase ≠ .deleted

/-- The machine is looked after, and it is to stay. -/
structure Wanted (name : String) (w : World) (record : Record) : Prop extends Alive name w record where
  looked : record.paused = false
  kept : record.deletionRequested = false

/-- Whatever the machine hangs off is there as well. -/
structure Linked (name : String) (w : World) (record : Record) : Prop extends Wanted name w record where
  satisfied : record.prerequisites.satisfied = true

/-- A domain has the size that is asked for. -/
structure Sized (record : Record) (domain : Domain) : Prop where
  cpu : domain.vcpus = record.spec.cpu
  memory : domain.maxMemoryKib / 1024 = record.spec.memory

/-- The data of a secret is cloud-config, as far as it says what it is. -/
def Accepted (data : Table String) : Prop :=
  ∀ format, data["format"]? = some format → format = "cloud-config"

/-- What a record's secret comes to: a failure, no cloud-config yet, or one. -/
inductive Bootstrap (secrets : Table (Table String)) (record : Record) :
    Outcome Failure (Option String) → Prop
  | unset (unset : record.bootstrapSecret = none) : Bootstrap secrets record (.done none)
  | unread {secret : String} (named : record.bootstrapSecret = some secret)
      (missing : secrets[secret]? = none) :
      Bootstrap secrets record (.failed (.secretNotFound secret record.name))
  | unsupported {secret format : String} {data : Table String}
      (named : record.bootstrapSecret = some secret) (there : secrets[secret]? = some data)
      (stated : data["format"]? = some format) (other : format ≠ "cloud-config") :
      Bootstrap secrets record (.failed (.error (.unsupportedFormat format)))
  | valueless {secret : String} {data : Table String}
      (named : record.bootstrapSecret = some secret) (there : secrets[secret]? = some data)
      (accepted : Accepted data) (missing : data["value"]? = none) :
      Bootstrap secrets record (.failed (.error (.missingValue secret)))
  | empty {secret : String} {data : Table String}
      (named : record.bootstrapSecret = some secret) (there : secrets[secret]? = some data)
      (accepted : Accepted data) (value : data["value"]? = some "") :
      Bootstrap secrets record (.done none)
  | given {secret text : String} {data : Table String}
      (named : record.bootstrapSecret = some secret) (there : secrets[secret]? = some data)
      (accepted : Accepted data) (value : data["value"]? = some text) (nonempty : text ≠ "") :
      Bootstrap secrets record (.done (some text))

/-- The objects on the host and the records that a pass leaves. All else but the connections is as it
was, and no request was made that `ok` does not allow. -/
structure Leaves (ok : Request → Prop) (host : Host) (records : Table Record) (w w' : World) : Prop where
  host : w'.host.objects = host
  records : w'.records = records
  secrets : w'.secrets = w.secrets
  hostFaults : w'.hostFaults = w.hostFaults
  storeFaults : w'.storeFaults = w.storeFaults
  log : Logs (Event.Within ok) w w'

/-- What is asked to look at a machine and to be rid of it. -/
def Discards (name pool : String) (r : Request) : Prop := Observes name r ∨ TearsDown name pool r

/-- What is asked to look for a machine and to make it. -/
def Builds (spec : Spec) (r : Request) : Prop := Observes spec.name r ∨ Provisions spec r

/-- How a pass ends by the first rule that applies, and what it leaves. Every rule says of those before
it that they do not apply. -/
inductive Follows (intervals : Intervals) (name : String) (w : World) :
    Outcome Failure Next → World → Prop
  | absent (absent : w.records[name]? = none) : Follows intervals name w (.done .done) w
  | gone {record : Record} (found : w.records[name]? = some record)
      (gone : record.status.phase = .deleted) : Follows intervals name w (.done .done) w
  | paused {record : Record} (alive : Alive name w record) (paused : record.paused = true) :
      Follows intervals name w (.done (.after intervals.paused))
        (Store.insert (record.published ({ · with phase := .paused })) w)
  | removed {record : Record} {domain : Domain} {w' : World} (alive : Alive name w record)
      (looked : record.paused = false) (requested : record.deletionRequested = true)
      (there : w.host.domains[name]? = some domain)
      (leaves : Leaves (Discards name record.spec.storagePool)
        (w.host.objects.without name record.spec.storagePool) (w.records.erase name) w w') :
      Follows intervals name w (.done .done) w'
  | dropped {record : Record} {w' : World} (alive : Alive name w record)
      (looked : record.paused = false) (requested : record.deletionRequested = true)
      (missing : w.host.domains[name]? = none)
      (leaves : Leaves (Observes name) w.host.objects (w.records.erase name) w w') :
      Follows intervals name w (.done .done) w'
  | unlinked {record : Record} (wanted : Wanted name w record)
      (unsatisfied : record.prerequisites.satisfied = false) :
      Follows intervals name w (.done .done)
        (Store.insert (record.published ({ · with phase := .awaitingDependencies })) w)
  | drifted {record : Record} {domain : Domain} {w' : World} (linked : Linked name w record)
      (there : w.host.domains[name]? = some domain) (other : ¬ Sized record domain)
      (leaves : Leaves (Discards name record.spec.storagePool)
        (w.host.objects.without name record.spec.storagePool) (w.records.insert name
          (record.published fun status => { status.clearObservations with phase := .drifted })) w w')
      (undefined : Logs (fun e => ¬ e.Defines) w w') :
      Follows intervals name w (.done (.after intervals.drift)) w'
  | awaiting {record : Record} {w' : World} (linked : Linked name w record)
      (missing : w.host.domains[name]? = none) (unset : Bootstrap w.secrets record (.done none))
      (leaves : Leaves (Observes name) w.host.objects (w.records.insert name
        (record.published ({ · with phase := .awaitingBootstrap }))) w w') :
      Follows intervals name w (.done (.after intervals.poll)) w'
  | misled {record : Record} {failure : Failure} {w' : World} (linked : Linked name w record)
      (missing : w.host.domains[name]? = none) (failed : Bootstrap w.secrets record (.failed failure))
      (leaves : Leaves (Observes name) w.host.objects w.records w w') :
      Follows intervals name w (.failed failure) w'
  | uncreated {record : Record} {text : String} {e : Error} {host : Host} {w' : World}
      (linked : Linked name w record) (missing : w.host.domains[name]? = none)
      (given : Bootstrap w.secrets record (.done (some text)))
      (creation : Creation w.host.objects { record.spec with userData := text } (.failed e) host)
      (leaves : Leaves (Builds record.spec) host w.records w w') :
      Follows intervals name w
        (.failed (.context s!"failed to create virtual machine '{name}'" (.error e))) w'
  | created {record : Record} {text : String} {host : Host} {w' : World}
      (linked : Linked name w record) (missing : w.host.domains[name]? = none)
      (given : Bootstrap w.secrets record (.done (some text)))
      (creation : Creation w.host.objects { record.spec with userData := text } (.done ()) host)
      (leaves : Leaves (Builds record.spec) host (w.records.insert name
        (record.published ({ · with phase := .creating }))) w w') :
      Follows intervals name w (.done (.after intervals.poll)) w'
  | halted {record : Record} {domain : Domain} {w' : World} (linked : Linked name w record)
      (there : w.host.domains[name]? = some domain) (sized : Sized record domain)
      (halted : domain.state ≠ .running)
      (leaves : Leaves (Observes name) w.host.objects (w.records.insert name
        (record.published fun status => { status with
          providerId := some (providerId name), ready := false, phase := .verifying })) w w') :
      Follows intervals name w (.done (.after intervals.poll)) w'
  | unreached {record : Record} {domain : Domain} {w' : World} (linked : Linked name w record)
      (there : w.host.domains[name]? = some domain) (sized : Sized record domain)
      (runs : domain.state = .running) (unleased : reachable domain.interfaces = [])
      (leaves : Leaves (Observes name) w.host.objects (w.records.insert name
        (record.published fun status => { status with
          providerId := some (providerId name), phase := .verifying })) w w') :
      Follows intervals name w (.done (.after intervals.poll)) w'
  | ready {record : Record} {domain : Domain} {w' : World} (linked : Linked name w record)
      (there : w.host.domains[name]? = some domain) (sized : Sized record domain)
      (runs : domain.state = .running) (leased : reachable domain.interfaces ≠ [])
      (leaves : Leaves (Observes name) w.host.objects (w.records.insert name
        (record.published fun status => { status with
          providerId := some (providerId name)
          addresses := (reachable domain.interfaces).map Address.mk
          ready := true, provisioned := true, phase := .ready })) w w') :
      Follows intervals name w (.done (.after intervals.periodic)) w'

section
variable {ok ok' : Request → Prop} {host host' : Host} {records : Table Record} {w₁ w₂ : World}

theorem Leaves.refl (w : World) : Leaves ok w.host.objects w.records w w :=
  ⟨rfl, rfl, rfl, rfl, rfl, logs_frame.refl w⟩

theorem Leaves.reach (leaves : Leaves ok host records w w₁) (calm : w₁.Calm)
    (path : Reaches ok' w₁ w₂) (allowed : ∀ r, ok' r → ok r) (objects : w₂.host.objects = host') :
    Leaves ok host' records w w₂ where
  host := objects
  records := path.store.records.trans leaves.records
  secrets := path.store.secrets.trans leaves.secrets
  hostFaults := (path.calm calm).hostFaults.trans (calm.hostFaults.symm.trans leaves.hostFaults)
  storeFaults := path.store.storeFaults.trans leaves.storeFaults
  log := logs_frame.trans leaves.log (path.mono allowed).logs

theorem Leaves.mono (leaves : Leaves ok host records w w') (weaker : ∀ r, ok r → ok' r) :
    Leaves ok' host records w w' :=
  { leaves with log := leaves.log.mono fun _ => Event.Within.mono weaker }

theorem Leaves.publish (leaves : Leaves ok host records w w₁) (record : Record)
    (patch : Status → Status) : Leaves ok host
      (records.insert record.name (record.published patch)) w
      (Store.insert (record.published patch) w₁) where
  host := leaves.host
  records := congrArg (·.insert record.name (record.published patch)) leaves.records
  secrets := leaves.secrets
  hostFaults := leaves.hostFaults
  storeFaults := leaves.storeFaults
  log := leaves.log

theorem Leaves.erase (leaves : Leaves ok host records w w₁) (name : String) :
    Leaves ok host (records.erase name) w { w₁ with records := w₁.records.erase name } where
  host := leaves.host
  records := congrArg (·.erase name) leaves.records
  secrets := leaves.secrets
  hostFaults := leaves.hostFaults
  storeFaults := leaves.storeFaults
  log := leaves.log

end

theorem insert_calm (calm : w.Calm) (record : Record) : (Store.insert record w).Calm :=
  ⟨calm.hostFaults, calm.storeFaults, calm.able, calm.accepts⟩

theorem publish_served {patch : Status → Status} (serves : w.StoreServes) (named : record.name = name)
    (found : w.records[name]? = some record) (room : record.version.toNat + 1 < UInt64.size) :
    publish name patch w = (.done (), Store.insert (record.published patch) w) := by
  subst named
  exact bind_of_done (patchStatus_served serves found room)

theorem publish_calm {patch : Status → Status} (calm : w.Calm) (named : record.name = name)
    (found : w.records[name]? = some record) (room : record.version.toNat + 1 < UInt64.size) :
    publish name patch w = (.done (), Store.insert (record.published patch) w) :=
  publish_served calm.storeServes named found room

/-- How most rules end: with a status, and with what is to happen next. -/
theorem report_calm {patch : Status → Status} {next : Next} {o : Outcome Failure Next} (calm : w.Calm)
    (found : w.records[record.name]? = some record) (room : record.version.toNat + 1 < UInt64.size)
    (run : (do publish record.name patch; return next : Action Failure Next) w = (o, w')) :
    o = .done next ∧ w' = Store.insert (record.published patch) w := by
  rw [bind_of_done (publish_calm calm rfl found room)] at run
  obtain ⟨rfl, rfl⟩ := Prod.mk.inj run
  exact ⟨rfl, rfl⟩

theorem fits_iff : fits record.spec domain.info = true ↔ Sized record domain := by
  constructor
  · intro same
    obtain ⟨cpu, memory⟩ := Bool.and_eq_true_iff.mp same
    exact ⟨of_decide_eq_true cpu, of_decide_eq_true memory⟩
  · rintro ⟨cpu, memory⟩
    exact Bool.and_eq_true_iff.mpr ⟨decide_eq_true cpu, decide_eq_true memory⟩

theorem bootstrapData_cases (secret : String) (data : Table String) :
    (∃ format, data["format"]? = some format ∧ format ≠ "cloud-config" ∧
      bootstrapData secret data = .error (.unsupportedFormat format)) ∨
    (Accepted data ∧ data["value"]? = none ∧
      bootstrapData secret data = .error (.missingValue secret)) ∨
    (Accepted data ∧ ∃ text, data["value"]? = some text ∧ bootstrapData secret data = .ok text) := by
  have accepts (accepted : Accepted data) :
      (data["format"]?.filter fun format => format ≠ "cloud-config") = none := by
    cases stated : data["format"]? with
    | none => rfl
    | some format => simp [accepted format stated]
  by_cases accepted : Accepted data
  · right
    unfold bootstrapData
    rw [accepts accepted]
    cases value : data["value"]? with
    | none => exact .inl ⟨accepted, rfl, rfl⟩
    | some text => exact .inr ⟨accepted, text, rfl, rfl⟩
  · left
    cases stated : data["format"]? with
    | none => exact absurd (fun format same => by rw [stated] at same; cases same) accepted
    | some format =>
      have other : format ≠ "cloud-config" := by
        rintro rfl
        exact accepted fun format same => by rw [stated] at same; exact (Option.some.inj same).symm
      exact ⟨format, rfl, other, by simp [bootstrapData, stated, other, Option.filter]⟩

section
variable {secret : String} {data : Table String} (idle : w.storeFaults = [])
  (named : record.bootstrapSecret = some secret) (there : w.secrets[secret]? = some data)
include idle named there

theorem cloudConfig_error {e : Error} (failed : bootstrapData secret data = .error e) :
    cloudConfig record w = (.failed (.error e), w) := by
  have reads := secret_idle idle secret
  simp only [cloudConfig, named, bind_of_done reads, there, failed]
  rfl

theorem cloudConfig_ok {text : String} (read : bootstrapData secret data = .ok text) :
    cloudConfig record w = (.done (if text = "" then none else some text), w) := by
  have reads := secret_idle idle secret
  simp only [cloudConfig, named, bind_of_done reads, there, read]
  rfl

end

theorem cloudConfig_calm (calm : w.Calm) (record : Record) :
    ∃ o, cloudConfig record w = (o, w) ∧ Bootstrap w.secrets record o := by
  have idle := calm.storeFaults
  cases named : record.bootstrapSecret with
  | none =>
    refine ⟨.done none, ?_, .unset named⟩
    rw [cloudConfig, named]
    rfl
  | some secret =>
    cases there : w.secrets[secret]? with
    | none =>
      refine ⟨.failed (.secretNotFound secret record.name), ?_, .unread named there⟩
      simp only [cloudConfig, named, bind_of_done (secret_idle idle secret), there]
      rfl
    | some data =>
      rcases bootstrapData_cases secret data with
        ⟨format, stated, other, failed⟩ | ⟨accepted, missing, failed⟩ | ⟨accepted, text, value, read⟩
      · exact ⟨_, cloudConfig_error idle named there failed, .unsupported named there stated other⟩
      · exact ⟨_, cloudConfig_error idle named there failed, .valueless named there accepted missing⟩
      · refine ⟨_, cloudConfig_ok idle named there read, ?_⟩
        by_cases empty : text = ""
        · rw [if_pos empty]
          exact .empty named there accepted (empty ▸ value)
        · rw [if_neg empty]
          exact .given named there accepted value empty

/-- The machine was looked at on the way from the first world to the second, and no more. -/
structure Looked (name : String) (w w₁ : World) : Prop where
  calm : w₁.Calm
  leaves : Leaves (Observes name) w.host.objects w.records w w₁

namespace Looked

variable {w₁ w₂ : World}

theorem refl (calm : w.Calm) : Looked name w w := ⟨calm, .refl w⟩

theorem further (looked : Looked name w w₁) (path : Reaches (Observes name) w₁ w₂) :
    Looked name w w₂ := by
  have objects : w₂.host.objects = w₁.host.objects :=
    (path.mono fun _ => observes_query).objects looked.calm.undisturbed
  exact ⟨path.calm looked.calm, looked.leaves.reach looked.calm path (fun _ => id)
    (objects.trans looked.leaves.host)⟩

theorem of_probe {spec : Spec} {o : Outcome Error (Bool × Bool)} (calm : w.Calm)
    (run : probe spec w = (o, w₁)) : Looked spec.name w w₁ :=
  (refl calm).further ((probe_reaches spec).of_run run)

theorem record? (looked : Looked name w w₁) : w₁.records[name]? = w.records[name]? := by
  rw [looked.leaves.records]

theorem domain? (looked : Looked name w w₁) : w₁.host.domains[name]? = w.host.domains[name]? := by
  rw [Host.domains_of_objects looked.leaves.host]

end Looked

theorem probe_missing {spec : Spec} (calm : w.Calm) (missing : w.host.domains[spec.name]? = none) :
    ∃ w', (probe spec : Action Error (Bool × Bool)) w = (.done (false, false), w') := by
  obtain ⟨w₁, asked⟩ := isDefined_missing calm missing
  exact ⟨w₁, bind_of_done asked⟩

theorem probe_there {spec : Spec} (calm : w.Calm)
    (there : w.host.domains[spec.name]? = some domain) :
    ∃ w', (probe spec : Action Error (Bool × Bool)) w =
      (.done (true, fits spec domain.info), w') := by
  obtain ⟨w₁, asked⟩ := isDefined_there calm there
  have looked := (Looked.refl calm).further ((isDefined_reaches spec.name).of_run asked)
  obtain ⟨w₂, measured⟩ := isInSync_there looked.calm (looked.domain?.trans there)
  exact ⟨w₂, (bind_of_done asked).trans (bind_of_done measured)⟩

variable {o : Outcome Failure Next} {w₁ : World}

theorem Discards.undefined {name pool : String} {e : Event} (within : e.Within (Discards name pool)) :
    ¬ e.Defines := by
  cases e with
  | request r _ _ =>
    intro defines
    cases r <;> first | exact defines | exact within.elim id id
  | connect _ => exact id
  | disconnect => exact id

theorem discard_calm (intervals : Intervals) (linked : Linked record.name w record)
    (there : w.host.domains[record.name]? = some domain)
    (room : record.version.toNat + 1 < UInt64.size) (looked : Looked record.name w w₁) :
    ∃ w', discard intervals record w₁ = (.done (.after intervals.drift), w') ∧
      Leaves (Discards record.name record.spec.storagePool)
        (w.host.objects.without record.name record.spec.storagePool) (w.records.insert record.name
          (record.published fun status => { status.clearObservations with phase := .drifted })) w w' := by
  obtain ⟨w₂, torn, path, objects⟩ := destroy_calm looked.calm (looked.domain?.trans there)
  rw [looked.leaves.host] at objects
  have found₂ : w₂.records[record.name]? = some record := by
    rw [path.store.records, looked.record?, linked.found]
  obtain ⟨o, w', run⟩ : ∃ o w', discard intervals record w₁ = (o, w') := ⟨_, _, rfl⟩
  have ran := run
  rw [discard, apartWithin, bind_of_done (apart_of_done torn)] at ran
  obtain ⟨rfl, rfl⟩ := report_calm (path.calm looked.calm) found₂ room ran
  have leaves : Leaves (Discards record.name record.spec.storagePool) _ w.records w w₂ :=
    (looked.leaves.mono fun _ => .inl).reach looked.calm path (fun _ => .inr) objects
  exact ⟨_, run, leaves.publish record _⟩

theorem discard_follows (linked : Linked record.name w record)
    (there : w.host.domains[record.name]? = some domain) (other : ¬ Sized record domain)
    (room : record.version.toNat + 1 < UInt64.size) (looked : Looked record.name w w₁)
    (run : discard intervals record w₁ = (o, w')) : Follows intervals record.name w o w' := by
  obtain ⟨_, ran, leaves⟩ := discard_calm intervals linked there room looked
  obtain ⟨rfl, rfl⟩ := Prod.mk.inj (ran.symm.trans run)
  exact .drifted linked there other leaves (leaves.log.mono fun _ => Discards.undefined)

theorem create_looked (missing : w.host.domains[record.name]? = none)
    (memory : record.spec.memory.toNat * 1024 < UInt64.size) (looked : Looked record.name w w₁)
    (text : String) : ∃ o w₂, create { record.spec with userData := text } w₁ = (o, w₂) ∧ w₂.Calm ∧
      Creation w.host.objects { record.spec with userData := text } o w₂.host.objects ∧
      Leaves (Builds record.spec) w₂.host.objects w.records w w₂ := by
  let spec := { record.spec with userData := text }
  obtain ⟨o, w₂, made⟩ : ∃ o w₂, create spec w₁ = (o, w₂) := ⟨_, _, rfl⟩
  have creation : Creation w₁.host.objects spec o w₂.host.objects :=
    create_calm looked.calm (looked.domain?.trans missing) memory made
  rw [looked.leaves.host] at creation
  have path := (create_reaches spec).of_run made
  exact ⟨o, w₂, made, path.calm looked.calm, creation,
    (looked.leaves.mono fun _ => .inl).reach looked.calm path (fun _ => .inr) rfl⟩

theorem build_made {text : String} {w₂ : World}
    (config : cloudConfig record w₁ = (.done (some text), w₁))
    (made : create { record.spec with userData := text } w₁ = (.done (), w₂)) (calm : w₂.Calm)
    (found : w₂.records[record.name]? = some record) (room : record.version.toNat + 1 < UInt64.size) :
    build intervals record w₁ = (.done (.after intervals.poll),
      Store.insert (record.published ({ · with phase := .creating })) w₂) := by
  rw [build, bind_of_done config]
  dsimp only [apartWithin]
  rw [bind_of_done (apart_of_done made), bind_of_done (publish_calm calm rfl found room)]
  rfl

theorem build_follows (linked : Linked record.name w record)
    (missing : w.host.domains[record.name]? = none)
    (memory : record.spec.memory.toNat * 1024 < UInt64.size)
    (room : record.version.toNat + 1 < UInt64.size) (looked : Looked record.name w w₁)
    (run : build intervals record w₁ = (o, w')) : Follows intervals record.name w o w' := by
  have found₁ : w₁.records[record.name]? = some record := looked.record?.trans linked.found
  obtain ⟨o₁, config, bootstrap⟩ := cloudConfig_calm looked.calm record
  rw [looked.leaves.secrets] at bootstrap
  cases o₁ with
  | failed failure =>
    rw [build, bind_of_failed config] at run
    obtain ⟨rfl, rfl⟩ := Prod.mk.inj run
    exact .misled linked missing bootstrap looked.leaves
  | overflow => cases bootstrap
  | done text? =>
    cases text? with
    | none =>
      rw [build, bind_of_done config] at run
      obtain ⟨rfl, rfl⟩ := report_calm looked.calm found₁ room run
      exact .awaiting linked missing bootstrap (looked.leaves.publish record _)
    | some text =>
      obtain ⟨o₂, w₂, made, calm₂, creation, leaves⟩ := create_looked missing memory looked text
      cases o₂ with
      | done _ =>
        have found₂ : w₂.records[record.name]? = some record := by rw [leaves.records, linked.found]
        obtain ⟨rfl, rfl⟩ := Prod.mk.inj ((build_made config made calm₂ found₂ room).symm.trans run)
        exact .created linked missing bootstrap creation (leaves.publish record _)
      | failed e =>
        rw [build, bind_of_done config] at run
        dsimp only [apartWithin] at run
        rw [bind_of_failed (apart_of_failed made)] at run
        obtain ⟨rfl, rfl⟩ := Prod.mk.inj run
        exact .uncreated linked missing bootstrap creation leaves
      | overflow => cases creation

theorem observe_reads (there : w.host.domains[record.name]? = some domain)
    (runs : domain.state = .running) (looked : Looked record.name w w₁) :
    ∃ w₂ w₃, isRunning record.name w₁ = ((.done true : Outcome Error Bool), w₂) ∧
      addresses record.name w₂ = (.done (reachable domain.interfaces), w₃) ∧
      Looked record.name w w₃ := by
  obtain ⟨w₂, asked⟩ := isRunning_there looked.calm (looked.domain?.trans there)
  have looked₂ := looked.further ((isRunning_reaches record.name).of_run asked)
  obtain ⟨w₃, read⟩ := addresses_calm looked₂.calm (looked₂.domain?.trans there) runs
  rw [decide_eq_true runs] at asked
  exact ⟨w₂, w₃, asked, read, looked₂.further ((addresses_reaches record.name).of_run read)⟩

theorem observe_reached (intervals : Intervals) (linked : Linked record.name w record)
    (there : w.host.domains[record.name]? = some domain) (runs : domain.state = .running)
    (leased : reachable domain.interfaces ≠ []) (room : record.version.toNat + 1 < UInt64.size)
    (looked : Looked record.name w w₁) :
    ∃ w', observe intervals record w₁ = (.done (.after intervals.periodic), w') ∧
      Leaves (Observes record.name) w.host.objects (w.records.insert record.name
        (record.published fun status => { status with
          providerId := some (providerId record.name)
          addresses := (reachable domain.interfaces).map Address.mk
          ready := true, provisioned := true, phase := .ready })) w w' := by
  obtain ⟨w₂, w₃, asked, read, looked₃⟩ := observe_reads there runs looked
  obtain ⟨o, w', run⟩ : ∃ o w', observe intervals record w₁ = (o, w') := ⟨_, _, rfl⟩
  have ran := run
  rw [observe, bind_of_done (apart_of_done asked), if_pos rfl] at ran
  dsimp only [apartWithin] at ran
  rw [bind_of_done (apart_of_done read), if_neg (by rwa [List.isEmpty_iff])] at ran
  obtain ⟨rfl, rfl⟩ := report_calm looked₃.calm (looked₃.record?.trans linked.found) room ran
  exact ⟨_, run, looked₃.leaves.publish record _⟩

theorem observe_follows (linked : Linked record.name w record)
    (there : w.host.domains[record.name]? = some domain) (sized : Sized record domain)
    (room : record.version.toNat + 1 < UInt64.size) (looked : Looked record.name w w₁)
    (run : observe intervals record w₁ = (o, w')) : Follows intervals record.name w o w' := by
  by_cases runs : domain.state = .running
  · by_cases unleased : reachable domain.interfaces = []
    · obtain ⟨w₂, w₃, asked, read, looked₃⟩ := observe_reads there runs looked
      rw [observe, bind_of_done (apart_of_done asked), if_pos rfl] at run
      dsimp only [apartWithin] at run
      rw [bind_of_done (apart_of_done read), if_pos (by rw [unleased]; rfl)] at run
      obtain ⟨rfl, rfl⟩ := report_calm looked₃.calm (looked₃.record?.trans linked.found) room run
      exact .unreached linked there sized runs unleased (looked₃.leaves.publish record _)
    · obtain ⟨_, ran, leaves⟩ :=
        observe_reached intervals linked there runs unleased room looked
      obtain ⟨rfl, rfl⟩ := Prod.mk.inj (ran.symm.trans run)
      exact .ready linked there sized runs unleased leaves
  · obtain ⟨w₂, asked⟩ := isRunning_there looked.calm (looked.domain?.trans there)
    have looked₂ := looked.further ((isRunning_reaches record.name).of_run asked)
    rw [observe, bind_of_done (apart_of_done asked), if_neg (by simpa using runs)] at run
    obtain ⟨rfl, rfl⟩ := report_calm looked₂.calm (looked₂.record?.trans linked.found) room run
    exact .halted linked there sized runs (looked₂.leaves.publish record _)

theorem published_version (record : Record) (patch : Status → Status)
    (room : record.version.toNat + 1 < UInt64.size) :
    (record.published patch).version.toNat = record.version.toNat + 1 := by
  simp only [Record.published, UInt64.toNat_add, UInt64.toNat_one]
  exact Nat.mod_eq_of_lt room

theorem letGo_served {marked : Record} (serves : w.StoreServes) (named : marked.name = record.name)
    (found : w.records[record.name]? = some marked) (requested : marked.deletionRequested = true)
    (room : marked.version.toNat + 1 < UInt64.size) (run : letGo record w = (o, w')) :
    o = .done .done ∧ w' = { w with records := w.records.erase record.name } := by
  have there (patch : Status → Status) : (Store.insert (marked.published patch) w).records[record.name]? =
      some (marked.published patch) := by
    rw [← named]
    exact Std.ExtTreeMap.getElem?_insert_self
  have serves₁ (patch : Status → Status) : (Store.insert (marked.published patch) w).StoreServes := serves
  rw [letGo, bind_of_done (publish_served serves named found room),
    bind_of_done (mapError_of (removeFinalizer_served (serves₁ _) (there _) requested))] at run
  obtain ⟨rfl, rfl⟩ := Prod.mk.inj run
  refine ⟨rfl, ?_⟩
  rw [← named]
  simp only [Store.insert, Record.published, Table.erase_insert_self]

theorem eject_missing (calm : w.Calm) (missing : w.host.domains[record.name]? = none) :
    ∃ w', eject record w = (.done (), w') ∧ Reaches (Observes record.name) w w' ∧
      w'.host.objects = w.host.objects := by
  obtain ⟨w₁, asked⟩ := isDefined_missing calm missing
  have path := (isDefined_reaches record.name).of_run asked
  refine ⟨w₁, bind_of_done (apart_of_done asked), path, ?_⟩
  exact (path.mono fun _ => observes_query).objects calm.undisturbed

theorem eject_there (calm : w.Calm) (there : w.host.domains[record.name]? = some domain) :
    ∃ w', eject record w = (.done (), w') ∧
      Reaches (Discards record.name record.spec.storagePool) w w' ∧
      w'.host.objects = w.host.objects.without record.name record.spec.storagePool := by
  obtain ⟨w₁, asked⟩ := isDefined_there calm there
  have path := (isDefined_reaches record.name).of_run asked
  have looked := (Looked.refl calm).further path
  obtain ⟨w₂, torn, path', gone⟩ := destroy_calm looked.calm (looked.domain?.trans there)
  refine ⟨w₂, (bind_of_done (apart_of_done asked)).trans (apart_of_done torn), ?_, ?_⟩
  · exact reaches_frame.trans (path.mono fun _ => .inl) (path'.mono fun _ => .inr)
  · rw [gone, looked.leaves.host]

theorem letGo_leaves {ok : Request → Prop} {host : Host} {patch : Status → Status} {w₂ : World}
    (calm : w.Calm) (requested : record.deletionRequested = true)
    (room : record.version.toNat + 2 < UInt64.size)
    (ejected : Reaches ok (Store.insert (record.published patch) w) w₂)
    (objects : w₂.host.objects = host) (run : letGo record w₂ = (o, w')) :
    o = .done .done ∧ Leaves ok host (w.records.erase record.name) w w' := by
  have calm₁ := insert_calm calm (record.published patch)
  have leaves := ((Leaves.refl w).publish record patch).reach calm₁ ejected (fun _ => id) objects
  have found : w₂.records[record.name]? = some (record.published patch) := by
    rw [leaves.records]
    exact Std.ExtTreeMap.getElem?_insert_self
  -- The record is written a second time before it goes.
  have version := published_version record patch (by omega)
  obtain ⟨rfl, rfl⟩ := letGo_served (ejected.calm calm₁).storeServes
    (rfl : (record.published patch).name = record.name) found requested (by omega) run
  have erased := leaves.erase record.name
  rw [Table.erase_insert_self] at erased
  exact ⟨rfl, erased⟩

theorem remove_follows (calm : w.Calm) (alive : Alive record.name w record)
    (looked : record.paused = false) (requested : record.deletionRequested = true)
    (room : record.version.toNat + 2 < UInt64.size) (run : remove record w = (o, w')) :
    Follows intervals record.name w o w' := by
  have calm₁ := insert_calm calm (record.published ({ · with phase := .deleting }))
  rw [remove_eq, bind_of_done (publish_calm calm rfl alive.found (by omega))] at run
  cases there : w.host.domains[record.name]? with
  | none =>
    obtain ⟨w₂, ejected, path, objects⟩ := eject_missing calm₁ there
    rw [bind_of_done ejected] at run
    obtain ⟨rfl, leaves⟩ := letGo_leaves calm requested room path objects run
    exact .dropped alive looked requested there leaves
  | some domain =>
    obtain ⟨w₂, ejected, path, objects⟩ := eject_there calm₁ there
    rw [bind_of_done ejected] at run
    obtain ⟨rfl, leaves⟩ := letGo_leaves calm requested room path objects run
    exact .removed alive looked requested there leaves

/-- A step for a machine that is looked after begins with the probe. -/
theorem step_linked (linked : Linked name w record) : step intervals record = (do
    match ← apart .error (probe record.spec) with
    | (true, false) => discard intervals record
    | (true, true) => observe intervals record
    | (false, _) => build intervals record) := by
  have looked : ¬ record.paused = true := by simp [linked.looked]
  have kept : ¬ record.deletionRequested = true := by simp [linked.kept]
  have satisfied : ¬ (!record.prerequisites.satisfied) = true := by simp [linked.satisfied]
  exact (if_neg linked.alive).trans ((if_neg looked).trans ((if_neg kept).trans (if_neg satisfied)))

theorem step_follows (calm : w.Calm) (found : w.records[record.name]? = some record)
    (memory : record.spec.memory.toNat * 1024 < UInt64.size)
    (room : record.version.toNat + 3 < UInt64.size) (run : step intervals record w = (o, w')) :
    Follows intervals record.name w o w' := by
  unfold step at run
  -- What is passed over is kept for the later rules, in `Alive`, `Wanted` and `Linked`.
  by_cases gone : record.status.phase = .deleted
  · rw [if_pos gone] at run
    obtain ⟨rfl, rfl⟩ := Prod.mk.inj run
    exact .gone found gone
  rw [if_neg gone] at run
  have alive : Alive record.name w record := ⟨found, gone⟩
  cases paused : record.paused with
  | true =>
    rw [if_pos paused] at run
    obtain ⟨rfl, rfl⟩ := report_calm calm found (by omega) run
    exact .paused alive paused
  | false =>
  rw [if_neg (by simp [paused])] at run
  cases requested : record.deletionRequested with
  | true =>
    rw [if_pos requested] at run
    exact remove_follows calm alive paused requested (by omega) run
  | false =>
  rw [if_neg (by simp [requested])] at run
  have wanted : Wanted record.name w record := ⟨alive, paused, requested⟩
  cases satisfied : record.prerequisites.satisfied with
  | false =>
    rw [if_pos (by simp [satisfied])] at run
    obtain ⟨rfl, rfl⟩ := report_calm calm found (by omega) run
    exact .unlinked wanted satisfied
  | true =>
  rw [if_neg (by simp [satisfied])] at run
  have linked : Linked record.name w record := ⟨wanted, satisfied⟩
  cases there : w.host.domains[record.name]? with
  | none =>
    obtain ⟨w₁, probed⟩ := probe_missing calm there
    have looked := Looked.of_probe calm probed
    rw [bind_of_done (apart_of_done probed)] at run
    exact build_follows linked there memory (by omega) looked run
  | some domain =>
    obtain ⟨w₁, probed⟩ := probe_there calm there
    have looked := Looked.of_probe calm probed
    rw [bind_of_done (apart_of_done probed)] at run
    by_cases sized : Sized record domain
    · rw [fits_iff.mpr sized] at run
      exact observe_follows linked there sized (by omega) looked run
    · rw [Bool.eq_false_iff.mpr (mt fits_iff.mp sized)] at run
      exact discard_follows linked there sized (by omega) looked run

/-- Where calls get through and nobody else changes the host, a pass does what the first rule says that
applies, and nothing else. -/
theorem reconcile_follows (calm : w.Calm)
    (keyed : ∀ key (record : Record), w.records[key]? = some record → record.name = key)
    (memory : ∀ record, w.records[name]? = some record → record.spec.memory.toNat * 1024 < UInt64.size)
    (room : ∀ record, w.records[name]? = some record → record.version.toNat + 3 < UInt64.size) :
    Follows intervals name w (reconcile intervals name w).1 (reconcile intervals name w).2 := by
  cases found : w.records[name]? with
  | none =>
    have run : reconcile intervals name w = (.done .done, w) := by
      rw [reconcile, bind_of_done (get_calm calm name), found]
      rfl
    rw [run]
    exact .absent found
  | some record =>
    have run : reconcile intervals name w = step intervals record w := by
      rw [reconcile, bind_of_done (get_calm calm name), found]
    rw [run]
    obtain rfl := keyed name record found
    exact step_follows calm found (memory record found) (room record found) (run_halves _ _)

/-- A machine that runs as it is asked for, and has no address yet. -/
def booting : World := .serving { Record.ofSpec (.ofName "m") with prerequisites := .all }

theorem reconcile_follows_booting :
    Follows .standard "m" booting (reconcile .standard "m" booting).1
      (reconcile .standard "m" booting).2 ∧
    (reconcile .standard "m" booting).1 = .done (.after (.ofSeconds 10)) := by
  have only (key : String) (record : Record) (found : booting.records[key]? = some record) :
      "m" = key ∧ { Record.ofSpec (.ofName "m") with prerequisites := .all } = record := by
    simp only [booting, World.serving, Std.ExtTreeMap.getElem?_insert,
      Std.LawfulEqCmp.compare_eq_iff_eq] at found
    split at found
    next same => exact ⟨same, Option.some.inj found⟩
    next => simp at found
  refine ⟨reconcile_follows ⟨rfl, rfl, rfl, rfl⟩ ?_ ?_ ?_, by decide +kernel⟩
  · intro key record found
    obtain ⟨rfl, rfl⟩ := only key record found
    rfl
  · intro record found
    obtain ⟨-, rfl⟩ := only "m" record found
    decide
  · intro record found
    obtain ⟨-, rfl⟩ := only "m" record found
    decide

end Reconcile

end MachineKeeper
