import MachineKeeper.Proofs.Convergence
import MachineKeeper.Proofs.Readiness

/-! A machine that does not come up. Passes over a domain that is there in sync but does not run wait for it and no
more: as long as they can see it, they neither start it nor change anything else on the host. -/
namespace MachineKeeper

/-- What is left of the record of a machine that is waited for, after so many passes. -/
def Record.stalled (record : Record) (passes : Nat) : Record :=
  { record with
    status := { record.status with
      providerId := some (providerId record.name), ready := false, phase := .verifying, failureMessage := none }
    version := record.version + UInt64.ofNat passes }

theorem Record.stalled_stalled (record : Record) (n m : Nat) : (record.stalled n).stalled m = record.stalled (n + m) := by
  simp only [stalled, UInt64.ofNat_add, UInt64.add_assoc]

namespace Lifecycle

open Session MachineKeeper.Action

variable {ε : Type} {w w' : World} {spec : Spec} {name : String} {domain : Domain}

def lookUp (name : String) : Action Error PowerState :=
  connected (ask s!"failed to look up domain '{name}'" (.domainState name))

def measure (spec : Spec) : Action Error DomainInfo :=
  connected (ask s!"failed to get domain info for '{spec.name}'" (.domainInfo spec.name))

theorem isDefined_eq (name : String) : (isDefined name : Action ε Bool) = holds (lookUp name) fun _ => true := rfl

theorem isInSync_eq (spec : Spec) : (isInSync spec : Action ε Bool) = holds (measure spec) (fits spec) := rfl

/-- Both questions are answered, one after the other. -/
def Seen (spec : Spec) (w : World) : Prop :=
  (lookUp spec.name w).1.isDone = true ∧ (measure spec (lookUp spec.name w).2).1.isDone = true

instance (spec : Spec) (w : World) : Decidable (Seen spec w) := inferInstanceAs (Decidable (_ ∧ _))

/-- A domain that does not run is not taken for one that does, whether it can be seen or not. -/
theorem isRunning_halted (quiet : w.Undisturbed) (there : w.host.domains[name]? = some domain)
    (halted : domain.state ≠ .running) : ∃ w', (isRunning name : Action ε Bool) w = (.done false, w') := by
  obtain ⟨o, w', run⟩ : ∃ o w', (isRunning name : Action ε Bool) w = (o, w') := ⟨_, _, rfl⟩
  refine ⟨w', run.trans ?_⟩
  rcases holds_cases run with ⟨state, asked, rfl⟩ | ⟨_, _, rfl⟩ | ⟨asked, rfl⟩
  · rcases connected_ask_ways ⟨rfl, rfl⟩ quiet asked with ⟨_, same⟩ | ⟨reply, same, answer⟩
    · cases same
    · cases same
      rw [Host.answer_domainState there] at answer
      cases answer
      rw [decide_eq_false halted]
  · rfl
  · rcases connected_ask_ways ⟨rfl, rfl⟩ quiet asked with ⟨_, same⟩ | ⟨_, same, _⟩ <;> cases same

end Lifecycle

namespace Reconcile

open Session Lifecycle Store MachineKeeper.Action

variable {ε : Type} {w w' w₁ : World} {record : Record} {domain : Domain} {intervals : Intervals} {n : Nat}

/-- The domain of a machine that is looked after is there in sync and does not run. Calls over connections may fail,
but the store does what it is asked to, and nobody else changes the host. -/
structure Stalled (record : Record) (domain : Domain) (w : World) : Prop extends Linked record.name w record where
  there : w.host.domains[record.name]? = some domain
  sized : Sized record domain
  halted : domain.state ≠ .running
  quiet : w.Undisturbed
  serves : w.StoreServes

/-- What so many passes leave: the same objects on the host, which was asked about the one domain and for nothing
else, and the same records but for the one. -/
structure Idled (record : Record) (passes : Nat) (w w' : World) : Prop where
  objects : w'.host.objects = w.host.objects
  records : w'.records = w.records.insert record.name (record.stalled passes)
  asked : Logs (Event.Within (Measures record.name)) w w'

theorem Idled.trans {m : Nat} (first : Idled record n w w₁) (second : Idled (record.stalled n) m w₁ w') :
    Idled record (n + m) w w' where
  objects := second.objects.trans first.objects
  records := by
    rw [second.records, first.records, Record.stalled_stalled]
    exact Table.insert_insert_self _ _ _ _
  asked := logs_frame.trans first.asked second.asked

/-- What is measured is seen to be there and as large as it is. -/
theorem probe_seen {spec : Spec} (quiet : w.Undisturbed) (there : w.host.domains[spec.name]? = some domain)
    (seen : Seen spec w) :
    ∃ w', (probe spec : Action ε (Bool × Bool)) w = (.done (true, fits spec domain.info), w') := by
  obtain ⟨found, measured⟩ := seen
  obtain ⟨o, w₁, looked⟩ : ∃ o w₁, lookUp spec.name w = (o, w₁) := ⟨_, _, rfl⟩
  rw [looked] at found measured
  obtain ⟨o₁, w₂, sized⟩ : ∃ o w₂, measure spec w₁ = (o, w₂) := ⟨_, _, rfl⟩
  rw [sized] at measured
  cases o with | done state => ?_ | failed => cases found | overflow => cases found
  cases o₁ with | done info => ?_ | failed => cases measured | overflow => cases measured
  have defined : (isDefined spec.name : Action ε Bool) w = (.done true, w₁) := by
    rw [isDefined_eq, holds_of_done looked]
  have path := ((isDefined_reaches spec.name).of_run defined).mono fun _ => observes_query
  have there₁ : w₁.host.domains[spec.name]? = some domain := by
    rw [Host.domains_of_objects (path.objects quiet), there]
  rcases connected_ask_ways ⟨rfl, rfl⟩ (path.store.undisturbed quiet) sized with ⟨_, same⟩ | ⟨_, same, answer⟩
  · cases same
  · cases same
    rw [Host.answer_domainInfo there₁] at answer
    cases answer
    refine ⟨w₂, (bind_of_done defined).trans (bind_of_done ?_)⟩
    rw [isInSync_eq, holds_of_done sized]

theorem runPass_stalled (intervals : Intervals) (stalled : Stalled record domain w) (seen : Seen record.spec w)
    (room : record.version.toNat + 1 < UInt64.size) :
    ∃ w', (runPass intervals record.name : Action ε Next) w = (.done (.after intervals.poll), w') ∧
      Idled record 1 w w' ∧ Stalled (record.stalled 1) domain w' := by
  obtain ⟨w₁, probed⟩ := probe_seen (ε := Error) stalled.quiet stalled.there seen
  have looking : Reaches (Measures record.name) w w₁ :=
    (probe_within record.spec (by rfl) (by rfl)).of_run probed
  have there₁ : w₁.host.domains[record.name]? = some domain := by
    rw [Host.domains_of_objects ((looking.mono fun _ => measures_query).objects stalled.quiet), stalled.there]
  obtain ⟨w₂, asked⟩ :=
    isRunning_halted (ε := Error) (looking.store.undisturbed stalled.quiet) there₁ stalled.halted
  have path : Reaches (Measures record.name) w w₂ :=
    reaches_frame.trans looking ((holds_reaches (by rfl)).of_run asked)
  have objects := (path.mono fun _ => measures_query).objects stalled.quiet
  have serves : w₂.StoreServes := by
    rw [World.StoreServes, path.store.storeFaults]
    exact stalled.serves
  have found : w₂.records[record.name]? = some record := by rw [path.store.records, stalled.found]
  have observed : observe intervals record w₁ =
      (.done (.after intervals.poll), Store.insert (record.stalled 1) w₂) := by
    rw [observe, bind_of_done (apart_of_done asked), if_neg Bool.false_ne_true,
      bind_of_done (publish_served serves rfl found room)]
    rfl
  have quiet := path.store.undisturbed stalled.quiet
  refine ⟨Store.insert (record.stalled 1) w₂, runPass_of_done ?_, ?_, ?_⟩
  · rw [reconcile_served stalled.serves stalled.found, step_linked stalled.toLinked,
      bind_of_done (apart_of_done probed), fits_iff.mpr stalled.sized]
    exact observed
  · exact {
      objects := objects
      records := congrArg (·.insert record.name (record.stalled 1)) path.store.records
      asked := path.logs }
  · exact {
      found := Std.ExtTreeMap.getElem?_insert_self
      alive := (by decide : Phase.verifying ≠ .deleted)
      looked := stalled.looked
      kept := stalled.kept
      satisfied := stalled.satisfied
      there := (congrArg (·[record.name]?) (Host.domains_of_objects objects)).trans stalled.there
      sized := ⟨stalled.sized.cpu, stalled.sized.memory⟩
      halted := stalled.halted
      quiet := ⟨quiet.host, quiet.store⟩
      serves := serves }

theorem afterPasses_stalled (stalled : Stalled record domain w)
    (seen : ∀ k < n, Seen record.spec (afterPasses intervals record.name k w))
    (room : record.version.toNat + n < UInt64.size) {k : Nat} (early : k < n) :
    ((runPass intervals record.name : Action Empty Next) (afterPasses intervals record.name k w)).1 =
        .done (.after intervals.poll) ∧
      Idled record (k + 1) w (afterPasses intervals record.name (k + 1) w) := by
  -- The record changes with each pass, and the passes that follow are those over what the first has left.
  induction k generalizing w record n with
  | zero =>
    obtain ⟨w₁, ran, idled, _⟩ := runPass_stalled (ε := Empty) intervals stalled (seen 0 early) (by omega)
    rw [afterPasses_succ ran]
    exact ⟨congrArg Prod.fst ran, idled⟩
  | succ k ih =>
    obtain ⟨w₁, ran, idled, stalled₁⟩ :=
      runPass_stalled (ε := Empty) intervals stalled (seen 0 (by omega)) (by omega)
    have version : (record.stalled 1).version.toNat = record.version.toNat + 1 :=
      published_version record id (by omega)
    have seen₁ : ∀ j < n - 1, Seen record.spec (afterPasses intervals record.name j w₁) := by
      intro j before
      rw [← afterPasses_succ ran]
      exact seen (j + 1) (by omega)
    obtain ⟨waits, idled₁⟩ := ih stalled₁ seen₁ (by omega) (by omega)
    rw [afterPasses_succ ran, afterPasses_succ ran, Nat.add_comm (k + 1) 1]
    exact ⟨waits, idled.trans idled₁⟩

/-- A machine whose domain is there in sync and does not run stays as it is. Whatever else fails, each pass that can
see it comes back after the same time, leaves domains and pools alone, asks the host for nothing but the state and the
size of the domain, and notes that the machine is not ready and is being verified. -/
theorem stalls (stalled : Stalled record domain w)
    (seen : ∀ k < n, Seen record.spec (afterPasses intervals record.name k w))
    (room : record.version.toNat + n < UInt64.size) : ∀ k < n,
    ((runPass intervals record.name : Action Empty Next) (afterPasses intervals record.name k w)).1 =
      .done (.after intervals.poll) ∧
    (afterPasses intervals record.name (k + 1) w).host.domains = w.host.domains ∧
    (afterPasses intervals record.name (k + 1) w).host.pools = w.host.pools ∧
    (afterPasses intervals record.name (k + 1) w).records =
      w.records.insert record.name (record.stalled (k + 1)) ∧
    Logs (Event.Within (Measures record.name)) w (afterPasses intervals record.name (k + 1) w) := by
  intro k early
  obtain ⟨waits, idled⟩ := afterPasses_stalled stalled seen room early
  exact ⟨waits, Host.domains_of_objects idled.objects, Host.pools_of_objects idled.objects, idled.records,
    idled.asked⟩

/-- The planned machine was defined and could not be started. The first time that it is to be seen whether it runs,
there is no connection. -/
def unstarted : World :=
  let serving := World.serving planned
  { serving with
    host := { serving.host.updateDomain "m" ({ · with state := .shutoff }) with failing := [.startDomain] }
    hostFaults := [⟨.connect, 3, some (.call (.other "connection reset")), []⟩] }

theorem stalls_unstarted : (∃ domain, Stalled planned domain unstarted) ∧
    (∀ k < 2, Seen planned.spec (afterPasses .standard "m" k unstarted)) ∧
    ∀ k < 2, ((runPass .standard "m" : Action Empty Next) (afterPasses .standard "m" k unstarted)).1 =
        .done (.after (.ofSeconds 10)) ∧
      (afterPasses .standard "m" (k + 1) unstarted).host.domains = unstarted.host.domains ∧
      (afterPasses .standard "m" (k + 1) unstarted).host.pools = unstarted.host.pools ∧
      (afterPasses .standard "m" (k + 1) unstarted).records =
        unstarted.records.insert "m" (planned.stalled (k + 1)) ∧
      Logs (Event.Within (Measures "m")) unstarted (afterPasses .standard "m" (k + 1) unstarted) := by
  obtain ⟨domain, there, facts⟩ : ∃ domain, unstarted.host.domains["m"]? = some domain ∧
      (domain.vcpus, domain.maxMemoryKib / 1024, domain.state) = (1, 1024, .shutoff) :=
    Option.map_eq_some_iff.mp (by decide)
  simp only [Prod.mk.injEq] at facts
  obtain ⟨cpu, memory, off⟩ := facts
  have stalled : Stalled planned domain unstarted := {
    found := by decide
    alive := by decide
    looked := rfl
    kept := rfl
    satisfied := rfl
    there := there
    sized := ⟨cpu, memory⟩
    halted := by rw [off]; nofun
    quiet := ⟨by simp [unstarted], nofun⟩
    serves := nofun }
  have seen : ∀ k < 2, Seen planned.spec (afterPasses .standard planned.name k unstarted) := by decide +kernel
  exact ⟨⟨domain, stalled⟩, seen, stalls stalled seen (by decide)⟩

end Reconcile

end MachineKeeper
