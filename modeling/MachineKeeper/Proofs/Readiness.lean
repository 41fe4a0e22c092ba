import MachineKeeper.Proofs.Coherence
import MachineKeeper.Proofs.Restraint

/-! When a machine counts as ready after a pass that went through. The pass says so where it saw an
address; but where it saw none, or no domain, what an earlier pass said is left as it was. -/
namespace MachineKeeper

/-- The host answered a request with a reply that passes `test`. -/
def Event.Told (r : Request) (test : r.Reply → Bool) (e : Event) : Prop :=
  ∃ reply, e = .request r true (.done reply) ∧ test reply = true

namespace Lifecycle

open Session MachineKeeper.Action

variable {ε : Type} {w w' : World} {r : Request} {name : String}

theorem send_told {test : r.Reply → Bool} {reply : r.Reply} (run : send r w = (.done reply, w'))
    (passes : test reply = true) : Shows (Event.Told r test) w w' :=
  .one (send_done run) ⟨reply, rfl, passes⟩

theorem holds_told {context : String} {test : r.Reply → Bool}
    (run : (holds (connected (ask context r)) test : Action ε Bool) w = (.done true, w')) :
    Shows (Event.Told r test) w w' := by
  rcases holds_cases run with ⟨reply, answered, same⟩ | ⟨_, _, same⟩ | ⟨_, same⟩
  · obtain ⟨w₁, w₂, asked, lift⟩ := connected_shows answered
    exact lift (send_told (ask_done asked) (Outcome.done.inj same).symm)
  · cases same
  · cases same

theorem readLeases_done {addresses : List String} (run : readLeases name w = (.done addresses, w')) :
    Shows (fun e => e.asks .leaseAddresses = true) w w' ∧ (addresses ≠ [] →
      Shows (Event.Told (.leaseAddresses name) fun interfaces => reachable interfaces = addresses) w w') := by
  obtain ⟨state, w₁, looked, rest⟩ := bind_done run
  have path : Reaches (fun _ => True) w w₁ := (reaches_ask _ trivial).of_run looked
  have looking : Logs (fun _ => True) w w₁ := path.logs.mono fun _ _ => trivial
  split at rest
  · cases (Prod.mk.inj rest).1
  obtain ⟨_, w₂, asked, rest⟩ := bind_done rest
  obtain ⟨_, noted⟩ := send_noted (.leaseAddresses name) w₁
  rcases attempt_cases asked with ⟨interfaces, sent, same⟩ | ⟨e, sent, same⟩ | ⟨_, same⟩ <;>
    cases same <;>
    rw [sent] at noted <;> obtain ⟨same, rfl⟩ := Prod.mk.inj rest <;> cases same
  · refine ⟨.behind looking (.one noted.log rfl), fun _ => .behind looking (send_told sent ?_)⟩
    exact decide_eq_true rfl
  · exact ⟨.behind looking (.one noted.log rfl), fun reached => absurd rfl reached⟩

end Lifecycle

namespace Reconcile

open Session Lifecycle Store MachineKeeper.Action

variable {ε : Type} {w w' w₀ : World} {record : Record} {intervals : Intervals} {next : Next}
  {name : String}

/-- On the way from the first world to the second the host said of a machine that its domain is there,
that it is of the size that is asked for, that it runs, and that it has just these addresses. -/
structure Sighted (record : Record) (addresses : List String) (w w' : World) : Prop where
  defined : Shows (Event.Told (.domainState record.name) fun _ => true) w w'
  sized : Shows (Event.Told (.domainInfo record.name) (fits record.spec)) w w'
  runs : Shows (Event.Told (.domainState record.name) fun state => state = .running) w w'
  leased : Shows (Event.Told (.leaseAddresses record.name) fun interfaces =>
    reachable interfaces = addresses) w w'
  reached : addresses ≠ []

/-- What a pass that went through has published of a machine that is looked after, with what it had
asked before. -/
inductive Concludes (record : Record) (w w' : World) : (Status → Status) → Prop
  | drifted : Concludes record w w' fun s => { s.clearObservations with phase := .drifted }
  | awaiting : Concludes record w w' ({ · with phase := .awaitingBootstrap })
  | created : Concludes record w w' ({ · with phase := .creating })
  | halted (unasked : Logs (fun e => e.asks .leaseAddresses = false) w w') :
      Concludes record w w' fun s =>
        { s with providerId := some (providerId record.name), ready := false, phase := .verifying }
  | unreached (asked : Shows (fun e => e.asks .leaseAddresses = true) w w') :
      Concludes record w w' fun s =>
        { s with providerId := some (providerId record.name), phase := .verifying }
  | ready {addresses : List String} (sighted : Sighted record addresses w w') :
      Concludes record w w' fun s =>
        { s with
          providerId := some (providerId record.name), addresses := addresses.map Address.mk
          ready := true, provisioned := true, phase := .ready }

theorem Concludes.patches {patch : Status → Status} (concludes : Concludes record w w' patch) :
    Status.Patch record.name patch := by
  cases concludes with
  | drifted => exact .cleared (by decide)
  | awaiting => exact .moved (by decide)
  | created => exact .moved (by decide)
  | halted => exact .halted
  | unreached => exact .unreached
  | ready sighted => exact .ready (mt List.map_eq_nil_iff.mp sighted.reached)

/-- On a way that began at `w₀` the status was published that is due then. -/
def Concluded (record : Record) (w₀ w w' : World) : Prop :=
  ∃ patch old, Concludes record w₀ w' patch ∧ w.records[record.name]? = some old ∧
    w'.records = w.records.insert record.name (old.published patch)

theorem report_concludes {patch : Status → Status} {next' : Next}
    (concludes : ∀ {w' : World}, w'.log = w.log → Concludes record w₀ w' patch)
    (run : (do publish record.name patch; return next' : Action Failure Next) w = (.done next, w')) :
    Concluded record w₀ w w' := by
  have log := (report_keeps unlogged_store (concludes rfl).patches next').of_run run
  obtain ⟨_, w₁, published, rest⟩ := bind_done run
  obtain ⟨-, rfl⟩ := Prod.mk.inj rest
  obtain ⟨_, w₂, patched, rest⟩ := bind_done published
  obtain ⟨-, rfl⟩ := Prod.mk.inj rest
  obtain ⟨old, found, records⟩ := patchStatus_done patched
  exact ⟨patch, old, concludes log, found, records⟩

theorem Concluded.of_records {w₁ : World} (concluded : Concluded record w₀ w₁ w')
    (same : w₁.records = w.records) : Concluded record w₀ w w' := by
  rwa [Concluded, ← same]

theorem apart_records {α : Type} {ok : Request → Prop} {op : Action Error α} {report : Error → Failure}
    (within : op.Keeps (Reaches ok)) : (apart report op).Keeps fun w w' => w'.records = w.records :=
  apart_keeps (within.mono fun path => path.store.records) report

theorem discard_concludes (run : discard intervals record w = (.done next, w')) :
    Concluded record w₀ w w' := by
  obtain ⟨_, w₁, torn, rest⟩ := bind_done run
  exact (report_concludes (fun _ => .drifted) rest).of_records
    ((apart_records (destroy_reaches _ _)).of_run torn)

theorem build_concludes (run : build intervals record w = (.done next, w')) :
    Concluded record w₀ w w' := by
  obtain ⟨text, w₁, read, rest⟩ := bind_done run
  have same := (cloudConfig_keeps records_frame secret_records record).of_run read
  cases text with
  | none => exact (report_concludes (fun _ => .awaiting) rest).of_records same
  | some userData =>
    obtain ⟨_, w₂, made, rest⟩ := bind_done rest
    exact (report_concludes (fun _ => .created) rest).of_records
      (((apart_records (create_reaches _)).of_run made).trans same)

/-- What is asked to see whether a domain is there, how large it is and whether it runs. -/
def Measures (name : String) : Request → Prop
  | .domainState n | .domainInfo n => n = name
  | _ => False

theorem measures_query {name : String} {r : Request} (measures : Measures name r) : r.IsQuery := by
  cases r <;> first | exact measures.elim | exact ⟨rfl, rfl⟩

theorem measures_unasked (path : Reaches (Measures name) w w') :
    Logs (fun e => e.asks .leaseAddresses = false) w w' := by
  refine path.logs.mono fun e within => ?_
  cases e with
  | request r _ _ => cases r <;> first | exact within.elim | rfl
  | connect _ => rfl
  | disconnect => rfl

theorem observe_concludes
    (defined : Shows (Event.Told (.domainState record.name) fun _ => true) w₀ w)
    (sized : Shows (Event.Told (.domainInfo record.name) (fits record.spec)) w₀ w)
    (unasked : Logs (fun e => e.asks .leaseAddresses = false) w₀ w)
    (run : observe intervals record w = (.done next, w')) : Concluded record w₀ w w' := by
  obtain ⟨running, w₁, asked, rest⟩ := bind_done run
  have asked := apart_done asked
  have path : Reaches (Measures record.name) w w₁ := (holds_reaches (by rfl)).of_run asked
  have unasked₁ := logs_frame.trans unasked (measures_unasked path)
  cases running with
  | false =>
    refine (report_concludes (fun log => .halted ?_) rest).of_records path.store.records
    exact logs_frame.trans unasked₁ (.of_log log)
  | true =>
    have runs : Shows _ w₀ w₁ := .behind unasked (holds_told asked)
    obtain ⟨addresses, w₂, read, rest⟩ := bind_done rest
    have read := apart_done read
    have path' := (addresses_reaches record.name).of_run read
    have records := path'.store.records.trans path.store.records
    obtain ⟨_, _, leases, lift⟩ := connected_shows read
    obtain ⟨asks, tells⟩ := readLeases_done leases
    split at rest
    next =>
      refine (report_concludes (fun log => .unreached ?_) rest).of_records records
      exact (Shows.behind unasked₁ (lift asks)).before (Logs.of_log (P := fun _ => True) log)
    next leased =>
      have reached : addresses ≠ [] := by simpa using leased
      have leased : Shows _ w₀ w₂ := .behind unasked₁ (lift (tells reached))
      refine (report_concludes (fun log => .ready ?_) rest).of_records records
      have silent : Logs (fun _ => True) w₂ _ := .of_log log
      have later := logs_frame.trans (path'.logs.mono fun _ _ => trivial) silent
      exact ⟨defined.before (logs_frame.trans (path.logs.mono fun _ _ => trivial) later),
        sized.before (logs_frame.trans (path.logs.mono fun _ _ => trivial) later),
        runs.before later, leased.before silent, reached⟩

theorem probe_told {spec : Spec} (run : (probe spec : Action ε (Bool × Bool)) w = (.done (true, true), w')) :
    Shows (Event.Told (.domainState spec.name) fun _ => true) w w' ∧
    Shows (Event.Told (.domainInfo spec.name) (fits spec)) w w' := by
  obtain ⟨found, w₁, asked, rest⟩ := bind_done run
  cases found with
  | false => cases (Prod.mk.inj rest).1
  | true =>
    obtain ⟨sync, w₂, measured, rest⟩ := bind_done rest
    obtain ⟨same, rfl⟩ := Prod.mk.inj rest
    cases same
    have looking := ((isDefined_reaches spec.name).of_run asked).logs
    have measuring := ((isInSync_reaches spec).of_run measured).logs
    exact ⟨(holds_told asked).before measuring, .behind looking (holds_told measured)⟩

theorem step_concludes {key : String} {v : World} (linked : Linked key v record) (silent : w.log = w₀.log)
    (run : step intervals record w = (.done next, w')) : Concluded record w₀ w w' := by
  rw [step_linked linked] at run
  obtain ⟨⟨found, sync⟩, w₁, probed, rest⟩ := bind_done run
  have probed := apart_done probed
  have path : Reaches (Measures record.name) w w₁ :=
    (probe_within record.spec (by rfl) (by rfl)).of_run probed
  have same := path.store.records
  have start : Logs (fun _ => True) w₀ w := .of_log silent
  cases found with
  | false => exact (build_concludes rest).of_records same
  | true =>
    cases sync with
    | false => exact (discard_concludes rest).of_records same
    | true =>
      obtain ⟨defined, sized⟩ := probe_told probed
      exact (observe_concludes (.behind start defined) (.behind start sized)
        (logs_frame.trans (.of_log silent) (measures_unasked path)) rest).of_records same

theorem reconcile_concludes (linked : Linked record.name w record)
    (run : reconcile intervals record.name w = (.done next, w')) :
    ∃ patch, Concludes record w w' patch ∧
      w'.records[record.name]? = some (record.published patch) := by
  rcases reconcile_ways run with ⟨_, got, rfl | turned⟩ | ⟨_, w₁, got, stepped⟩
  · cases (get_done got).1.trans linked.found
  · cases turned
  · have silent := (unlogged_store.get record.name).of_run got
    obtain ⟨found, records⟩ := get_done got
    obtain rfl := Option.some.inj (found.trans linked.found)
    obtain ⟨patch, old, concludes, there, written⟩ := step_concludes linked silent stepped
    rw [records, linked.found] at there
    obtain rfl := Option.some.inj there
    exact ⟨patch, concludes, by rw [written, Std.ExtTreeMap.getElem?_insert_self]⟩

/-- After a pass that went through for a machine that is looked after, the machine counts as ready where
the pass says so by the phase, and else where it did before and the pass found no domain, or found it
running and asked for its addresses in vain. The phase says so only of a machine that the pass has seen
to be there, of the right size, running and with an address. -/
theorem ready_after_iff (linked : Linked record.name w record)
    (run : reconcile intervals record.name w = (.done next, w')) :
    ∃ after : Record, w'.records[record.name]? = some after ∧
      (after.status.ready = true ↔ after.status.phase = .ready ∨ record.status.ready = true ∧
        (after.status.phase = .awaitingBootstrap ∨ after.status.phase = .creating ∨
          after.status.phase = .verifying ∧ Shows (fun e => e.asks .leaseAddresses = true) w w')) ∧
      (after.status.phase = .ready → ∃ addresses, after.status.addresses = addresses.map Address.mk ∧
        Sighted record addresses w w') := by
  obtain ⟨patch, concludes, found⟩ := reconcile_concludes linked run
  refine ⟨_, found, ?_⟩
  cases concludes with
  | drifted => simp [Record.published, Status.clearObservations]
  | awaiting => simp [Record.published]
  | created => simp [Record.published]
  | halted unasked => simp [Record.published, Logs.not_shows unasked]
  | unreached asked => simp [Record.published, asked]
  | ready sighted => exact ⟨by simp [Record.published], fun _ => ⟨_, rfl, sighted⟩⟩

/-- The machine was ready, and then its lease was lost. -/
def deserted : World :=
  { greeted with host := greeted.host.updateDomain "m" ({ · with interfaces := [] }) }

def desertedPass : Outcome Failure Next × World := reconcile .standard "m" deserted

theorem deserted_linked : ∃ record, Linked record.name deserted record ∧ record.name = "m" ∧
    record.status.ready = true := by
  have facts : (deserted.records["m"]?.map fun r =>
      (r.name, r.status.phase, r.status.ready, r.paused, r.deletionRequested, r.prerequisites)) =
      some ("m", .ready, true, false, false, .all) := by decide +kernel
  obtain ⟨record, found, same⟩ := Option.map_eq_some_iff.mp facts
  simp only [Prod.mk.injEq] at same
  obtain ⟨named, phase, ready, looked, kept, linked⟩ := same
  refine ⟨record, ?_, named, ready⟩
  exact ⟨⟨⟨named ▸ found, by rw [phase]; nofun⟩, looked, kept⟩, by rw [linked]; rfl⟩

theorem deserted_run :
    reconcile .standard "m" deserted = (.done (.after (.ofSeconds 10)), desertedPass.2) := by
  have ended : desertedPass.1 = .done (.after (.ofSeconds 10)) := by decide +kernel
  rw [← ended]
  rfl

theorem ready_after_iff_deserted : ∃ record after : Record, Linked "m" deserted record ∧
    desertedPass.2.records["m"]? = some after ∧
    (after.status.ready = true ↔ after.status.phase = .ready ∨ record.status.ready = true ∧
      (after.status.phase = .awaitingBootstrap ∨ after.status.phase = .creating ∨
        after.status.phase = .verifying ∧
          Shows (fun e => e.asks .leaseAddresses = true) deserted desertedPass.2)) ∧
    (after.status.phase = .ready → ∃ addresses, after.status.addresses = addresses.map Address.mk ∧
      Sighted record addresses deserted desertedPass.2) := by
  obtain ⟨record, linked, named, _⟩ := deserted_linked
  obtain ⟨after, found, readiness⟩ :=
    ready_after_iff linked (named ▸ deserted_run)
  exact ⟨record, after, named ▸ linked, named ▸ found, readiness⟩

/-- It is not so that a machine is ready only after a pass that says so by the phase. -/
theorem ready_unseen : ¬ ∀ (w w' : World) (record after : Record) (next : Next), History .standard w →
    Linked record.name w record → reconcile .standard record.name w = (.done next, w') →
    w'.records[record.name]? = some after →
    (after.status.ready = true ↔ after.status.phase = .ready) := by
  intro claimed
  obtain ⟨record, linked, named, _⟩ := deserted_linked
  have stale : (desertedPass.2.records["m"]?.map fun r => (r.status.phase, r.status.ready)) =
      some (.verifying, true) := by decide +kernel
  obtain ⟨after, found, same⟩ := Option.map_eq_some_iff.mp stale
  obtain ⟨phase, ready⟩ := Prod.mk.inj same
  have history : History .standard deserted := .changed (by rfl) greeted_history
  have seen := (claimed deserted _ record after _ history linked (named ▸ deserted_run)
    (named ▸ found)).mp ready
  rw [phase] at seen
  cases seen

end Reconcile

end MachineKeeper
