import MachineKeeper.Proofs.Lifecycle
import MachineKeeper.Proofs.Store
import MachineKeeper.Reconcile

/-! How a pass is put together: it reads a record, takes a step for it, and notes a failure. Only the
operations on machines reach the host, and only the store's operations change a record. -/
namespace MachineKeeper.Reconcile

open Session MachineKeeper.Action Store

variable {ε α : Type} {w w' : World} {name : String}

theorem apart_cases {report : Error → Failure} {op : Action Error α} {o : Outcome Failure α}
    (run : apart report op w = (o, w')) :
    (∃ a, op w = (.done a, w') ∧ o = .done a) ∨
    (∃ e, op w = (.failed e, w') ∧ o = .failed (report e)) ∨
    (op w = (.overflow, w') ∧ o = .failed .overflow) := by
  unfold apart at run
  split at run
  next a w₁ ran =>
    obtain ⟨rfl, rfl⟩ := Prod.mk.inj run
    exact .inl ⟨a, ran, rfl⟩
  next e w₁ ran =>
    obtain ⟨rfl, rfl⟩ := Prod.mk.inj run
    exact .inr (.inl ⟨e, ran, rfl⟩)
  next w₁ ran =>
    obtain ⟨rfl, rfl⟩ := Prod.mk.inj run
    exact .inr (.inr ⟨ran, rfl⟩)

theorem apart_done {report : Error → Failure} {op : Action Error α} {a : α}
    (run : apart report op w = (.done a, w')) : op w = (.done a, w') := by
  rcases apart_cases run with ⟨_, ran, same⟩ | ⟨_, _, same⟩ | ⟨_, same⟩ <;> cases same
  exact ran

/-- Whatever an operation comes to, it is what was run. -/
theorem apart_ran {report : Error → Failure} {op : Action Error α} {o : Outcome Failure α}
    (run : apart report op w = (o, w')) : ∃ o₁, op w = (o₁, w') := by
  rcases apart_cases run with ⟨_, ran, _⟩ | ⟨_, ran, _⟩ | ⟨ran, _⟩ <;> exact ⟨_, ran⟩

theorem apart_of_done {report : Error → Failure} {op : Action Error α} {a : α}
    (ran : op w = (.done a, w')) : apart report op w = (.done a, w') := by
  rw [apart, ran]

theorem apart_of_failed {report : Error → Failure} {op : Action Error α} {e : Error}
    (ran : op w = (.failed e, w')) : apart report op w = (.failed (report e), w') := by
  rw [apart, ran]

theorem apart_keeps {R : World → World → Prop} {op : Action Error α} (kept : op.Keeps R)
    (report : Error → Failure) : (apart report op).Keeps R := by
  intro w
  have before := kept w
  unfold apart
  split <;> next run => rwa [run] at before

theorem apart_world (report : Error → Failure) (op : Action Error α) (w : World) :
    (apart report op w).2 = (op w).2 := by
  have ended : op.Keeps fun w w' => w' = (op w).2 := fun _ => rfl
  exact apart_keeps ended report w

theorem cloudConfig_keeps {R : World → World → Prop} (frame : Frame R)
    (reads : ∀ secret, (Store.secret secret).Keeps R) (record : Record) : (cloudConfig record).Keeps R := by
  unfold cloudConfig
  split
  · exact frame.pure _
  · apply frame.bind (reads _)
    intro found
    split
    · exact frame.fail _
    · split
      · exact frame.fail _
      · exact frame.pure _

section
variable {R : World → World → Prop} (store : StoreFrame R)
include store

theorem publish_keeps {patch : Status → Status} (patches : Status.Patch name patch) :
    (publish name patch).Keeps R :=
  store.bind (store.patchStatus (.published patches)) fun _ => store.pure ()

/-- How most passes end: with a status, and with what is to happen next. -/
theorem report_keeps {patch : Status → Status} (patches : Status.Patch name patch) (next : Next) :
    (do publish name patch; return next : Action Failure Next).Keeps R :=
  store.bind (publish_keeps store patches) fun _ => store.pure next

theorem handleFailure_keeps (intervals : Intervals) (name : String) (failure : Failure) :
    (handleFailure intervals name failure : Action ε Next).Keeps R :=
  store.bind (store.patchStatus .failed).attempt fun _ => store.pure _

theorem build_keeps (intervals : Intervals) (record : Record)
    (creates : ∀ userData, (Lifecycle.create { record.spec with userData }).Keeps R) :
    (build intervals record).Keeps R := by
  apply store.bind (cloudConfig_keeps store.toFrame store.secret record)
  intro text
  cases text with
  | none => exact report_keeps store (.moved (by decide)) _
  | some userData =>
    exact store.bind (apart_keeps (creates userData) _) fun _ =>
      report_keeps store (.moved (by decide)) _

theorem observe_keeps (intervals : Intervals) (record : Record)
    (asks : (Lifecycle.isRunning record.name : Action Error Bool).Keeps R)
    (reads : (Lifecycle.addresses record.name).Keeps R) : (observe intervals record).Keeps R := by
  apply store.bind (apart_keeps asks _)
  intro running
  cases running with
  | false => exact report_keeps store .halted _
  | true =>
    apply store.bind (apart_keeps reads _)
    intro addresses
    split
    next => exact report_keeps store .unreached _
    next leased => exact report_keeps store (.ready (by simpa using leased)) _

theorem discard_keeps (intervals : Intervals) (record : Record)
    (tears : (Lifecycle.destroy record.name record.spec.storagePool).Keeps R) :
    (discard intervals record).Keeps R :=
  store.bind (apart_keeps tears _) fun _ => report_keeps store (.cleared (by decide)) _

end

theorem publish_retains {key : String} {patch : Status → Status}
    (alive : ∀ status, (patch status).phase = .deleted → status.phase = .deleted) :
    (publish key patch).Keeps (Retains name) :=
  retains_frame.bind (patchStatus_retains alive) fun _ => retains_frame.pure ()

theorem handleFailure_retains (intervals : Intervals) (key : String) (failure : Failure) :
    (handleFailure intervals key failure : Action ε Next).Keeps (Retains name) := by
  have noted : (patchStatus key ({ · with failureMessage := some failure.message })).Keeps
      (Retains name) := patchStatus_retains fun _ deleted => deleted
  exact retains_frame.bind noted.attempt fun _ => retains_frame.pure _

theorem reaches_retains {ok : Request → Prop} (path : Reaches ok w w') : Retains name w w' :=
  Released.of_records path.store.records

/-- An undisturbed way on which only events that `P` allows are noted. -/
def Adds (P : Event → Prop) (w w' : World) : Prop :=
  w.Undisturbed → w'.Undisturbed ∧ Logs P w w'

section
variable {P : Event → Prop}

theorem adds_frame : Frame (Adds P) where
  refl w quiet := ⟨quiet, logs_frame.refl w⟩
  trans first second quiet :=
    ⟨(second (first quiet).1).1, logs_frame.trans (first quiet).2 (second (first quiet).1).2⟩

theorem stays_adds (stays : Stays w w') : Adds P w w' := by
  intro quiet
  have same := stays quiet
  exact ⟨same.undisturbed quiet, [], same.log, by simp⟩

theorem reaches_adds {ok : Request → Prop} (path : Reaches ok w w')
    (allowed : ∀ e : Event, e.Within ok → P e) : Adds P w w' :=
  fun quiet => ⟨path.store.undisturbed quiet, path.logs.mono allowed⟩

theorem adds_store : StoreFrame (Adds P) where
  toFrame := adds_frame
  faults site := (stays_store.faults site).mono stays_adds
  write edited := stays_adds (stays_store.write edited)

end

/-- The end of a deletion: what is left to do once there is no domain. -/
def letGo (record : Record) : Action Failure Next := do
  publish record.name fun status => { status.clearObservations with phase := .deleted }
  (removeFinalizer record.name).mapError
    (.context s!"failed to remove finalizer from machine '{record.name}'")
  return .done

/-- The domain's part of a deletion: it is torn down where the probe finds it. -/
def eject (record : Record) : Action Failure Unit := do
  if ← apart .error (Lifecycle.isDefined record.name) then
    apartWithin s!"failed to destroy virtual machine '{record.name}'"
      (Lifecycle.destroy record.name record.spec.storagePool)

theorem remove_eq (record : Record) : remove record = (do
    publish record.name ({ · with phase := .deleting })
    eject record
    letGo record) := by
  unfold remove eject
  simp only [bind_assoc]
  congr
  funext _
  congr
  funext found
  cases found
  · rfl
  · rfl

section
variable {R : World → World → Prop} (store : StoreFrame R)
include store

theorem letGo_keeps (record : Record) : (letGo record).Keeps R := by
  apply store.bind (publish_keeps store (.cleared (by decide)))
  intro _
  exact store.bind ((store.removeFinalizer _).mapError _) fun _ => store.pure _

theorem remove_keeps (record : Record) (ejects : (eject record).Keeps R) : (remove record).Keeps R := by
  rw [remove_eq]
  apply store.bind (publish_keeps store (.moved (by decide)))
  intro _
  exact store.bind ejects fun _ => letGo_keeps store record

end

theorem eject_keeps {R : World → World → Prop} (frame : Frame R) (record : Record)
    (asks : (Lifecycle.isDefined record.name : Action Error Bool).Keeps R)
    (tears : (Lifecycle.destroy record.name record.spec.storagePool).Keeps R) : (eject record).Keeps R := by
  apply frame.bind (apart_keeps asks _)
  intro found
  cases found with
  | false => exact frame.pure ()
  | true => exact apart_keeps tears _

theorem probe_within {ok : Request → Prop} (spec : Spec) (state : ok (.domainState spec.name))
    (info : ok (.domainInfo spec.name)) : (probe spec : Action ε (Bool × Bool)).Keeps (Reaches ok) := by
  apply reaches_frame.bind (Lifecycle.holds_reaches state)
  intro found
  cases found with
  | false => exact reaches_frame.pure _
  | true => exact reaches_frame.bind (Lifecycle.holds_reaches info) fun _ => reaches_frame.pure _

theorem probe_reaches (spec : Spec) :
    (probe spec : Action ε (Bool × Bool)).Keeps (Reaches (Lifecycle.Observes spec.name)) :=
  probe_within spec rfl rfl

/-- What comes behind `reconcile` in a pass is no more than a note about a failure. -/
theorem runPass_parts {intervals : Intervals} {o : Outcome ε Next}
    (run : runPass intervals name w = (o, w')) :
    ∃ o₁ w₁, reconcile intervals name w = (o₁, w₁) ∧
      (w' = w₁ ∨ ∃ failure, handleFailure intervals name failure w₁ = (o, w')) := by
  rcases bind_cases run with ⟨result, w₁, tried, rest⟩ | ⟨_, tried, _⟩ | ⟨tried, _⟩ <;>
    rcases attempt_cases tried with ⟨next, ran, same⟩ | ⟨failure, ran, same⟩ | ⟨ran, same⟩ <;>
    cases same
  · obtain ⟨-, rfl⟩ := Prod.mk.inj rest
    exact ⟨_, w₁, ran, .inl rfl⟩
  · exact ⟨_, w₁, ran, .inr ⟨failure, rest⟩⟩
  · exact ⟨_, w', ran, .inl rfl⟩

theorem runPass_cases {intervals : Intervals} {o : Outcome ε Next}
    (run : runPass intervals name w = (o, w')) :
    ∃ o₁ w₁, reconcile intervals name w = (o₁, w₁) ∧ Stays w₁ w' ∧ Retains name w₁ w' := by
  obtain ⟨o₁, w₁, ran, rfl | ⟨failure, noted⟩⟩ := runPass_parts run
  · exact ⟨o₁, w', ran, stays_frame.refl w', retains_frame.refl w'⟩
  · exact ⟨o₁, w₁, ran, (handleFailure_keeps stays_store _ _ _).of_run noted,
      (handleFailure_retains _ _ _).of_run noted⟩

/-- The ways that a step for a record goes. The record alone decides the first four; the others begin
with the probe. -/
inductive Stepped (intervals : Intervals) (record : Record) (w : World) :
    Outcome Failure Next → World → Prop
  | gone (deleted : record.status.phase = .deleted) : Stepped intervals record w (.done .done) w
  | paused {o : Outcome Failure Next} {w' : World} (paused : record.paused = true)
      (ran : (do publish record.name ({ · with phase := .paused }); return .after intervals.paused :
        Action Failure Next) w = (o, w')) : Stepped intervals record w o w'
  | removed {o : Outcome Failure Next} {w' : World} (requested : record.deletionRequested = true)
      (ran : remove record w = (o, w')) : Stepped intervals record w o w'
  | unlinked {o : Outcome Failure Next} {w' : World} (unsatisfied : record.prerequisites.satisfied = false)
      (ran : (do publish record.name ({ · with phase := .awaitingDependencies }); return .done :
        Action Failure Next) w = (o, w')) : Stepped intervals record w o w'
  | unprobed {o : Outcome Failure Next} {o₁ : Outcome Failure (Bool × Bool)} {w' : World}
      (turned : o₁.isDone = false) (probed : apart .error (probe record.spec) w = (o₁, w')) :
      Stepped intervals record w o w'
  | discarded {o : Outcome Failure Next} {w₁ w' : World}
      (probed : apart .error (probe record.spec) w = (.done (true, false), w₁))
      (ran : discard intervals record w₁ = (o, w')) : Stepped intervals record w o w'
  | observed {o : Outcome Failure Next} {w₁ w' : World}
      (probed : apart .error (probe record.spec) w = (.done (true, true), w₁))
      (ran : observe intervals record w₁ = (o, w')) : Stepped intervals record w o w'
  | built {o : Outcome Failure Next} {sync : Bool} {w₁ w' : World}
      (probed : apart .error (probe record.spec) w = (.done (false, sync), w₁))
      (ran : build intervals record w₁ = (o, w')) (alive : record.status.phase ≠ .deleted)
      (looked : record.paused = false) (kept : record.deletionRequested = false)
      (satisfied : record.prerequisites.satisfied = true) : Stepped intervals record w o w'

theorem step_stepped {intervals : Intervals} {record : Record} {o : Outcome Failure Next}
    (run : step intervals record w = (o, w')) : Stepped intervals record w o w' := by
  unfold step at run
  split at run
  next deleted =>
    obtain ⟨rfl, rfl⟩ := Prod.mk.inj run
    exact .gone deleted
  next alive =>
  split at run
  next paused => exact .paused paused run
  next looked =>
  split at run
  next requested => exact .removed requested run
  next kept =>
  split at run
  next unsatisfied => exact .unlinked (by simpa using unsatisfied) run
  next satisfied =>
  rcases bind_cases run with ⟨⟨found, sync⟩, w₁, probed, rest⟩ | ⟨_, probed, _⟩ | ⟨probed, _⟩
  · cases found with
    | false =>
      exact .built probed rest alive (by simpa using looked) (by simpa using kept) (by simpa using satisfied)
    | true =>
      cases sync with
      | false => exact .discarded probed rest
      | true => exact .observed probed rest
  · exact .unprobed rfl probed
  · exact .unprobed rfl probed

/-- A pass takes a step for the record that it reads, or it does no more than to look for one. -/
theorem reconcile_ways {intervals : Intervals} {o : Outcome Failure Next}
    (run : reconcile intervals name w = (o, w')) :
    (∃ got, get name w = (got, w') ∧ (got = .done none ∨ o.isDone = false)) ∨
    ∃ record w₁, get name w = (.done (some record), w₁) ∧ step intervals record w₁ = (o, w') := by
  rcases bind_cases run with ⟨found, w₁, got, rest⟩ | ⟨e, got, rfl⟩ | ⟨got, rfl⟩
  · cases found with
    | none =>
      obtain ⟨-, rfl⟩ := Prod.mk.inj rest
      exact .inl ⟨_, got, .inl rfl⟩
    | some record => exact .inr ⟨record, w₁, got, rest⟩
  · exact .inl ⟨_, got, .inr rfl⟩
  · exact .inl ⟨_, got, .inr rfl⟩

/-- The same in an undisturbed world. -/
theorem reconcile_cases {intervals : Intervals} {record : Record} {o : Outcome Failure Next}
    (quiet : w.Undisturbed) (found : w.records[name]? = some record)
    (run : reconcile intervals name w = (o, w')) :
    ∃ w₁, SameHost w w₁ ∧ w₁.records = w.records ∧
      (w' = w₁ ∨ step intervals record w₁ = (o, w')) := by
  rcases bind_cases run with ⟨_, w₁, got, rest⟩ | ⟨_, got, _⟩ | ⟨got, _⟩
  · obtain ⟨same, records, ⟨_, failed⟩ | done⟩ := get_cases quiet got
    · cases failed
    · cases done
      rw [found] at rest
      exact ⟨w₁, same, records, .inr rest⟩
  · obtain ⟨same, records, _⟩ := get_cases quiet got
    exact ⟨w', same, records, .inl rfl⟩
  · obtain ⟨same, records, _⟩ := get_cases quiet got
    exact ⟨w', same, records, .inl rfl⟩

end MachineKeeper.Reconcile
