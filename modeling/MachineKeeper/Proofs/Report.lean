import MachineKeeper.Proofs.Retry

/-! What a pass leaves of a record where the store does what it is asked to, and anything else may fail.
A pass that goes through lets go of the record or publishes a status without a failure. One that fails
has published at most that a machine is about to go, and notes its failure in that status. -/
namespace MachineKeeper

namespace Record

/-- A pass over the record means to let go of it. -/
def isLeaving (record : Record) : Bool := record.deletionRequested && !record.paused

/-- How often a pass over the record counts its version up. -/
def writes (record : Record) : UInt64 := if record.isLeaving then 2 else 1

/-- The record once a pass over it has failed. -/
def failed (record : Record) (failure : Failure) : Record :=
  { record with
    status := { record.status with
      phase := if record.isLeaving then .deleting else record.status.phase
      failureMessage := some failure.message }
    version := record.version + record.writes }

theorem isLeaving_iff {record : Record} :
    record.isLeaving = true ↔ record.deletionRequested = true ∧ record.paused = false := by
  simp [isLeaving]

theorem writes_leaving {record : Record} (leaving : record.isLeaving = true) : record.writes = 2 :=
  if_pos leaving

theorem writes_staying {record : Record} (staying : record.isLeaving = false) : record.writes = 1 := by
  simp [writes, staying]

end Record

namespace Reconcile

open Session Lifecycle Store MachineKeeper.Action

variable {ε α β : Type} {w w' : World} {record : Record} {intervals : Intervals}

/-- A part of a pass that writes no record. It may fail, but it comes to an end. -/
def Unwriting (m : Action Failure α) : Prop :=
  ∀ ⦃w w' : World⦄ ⦃o : Outcome Failure α⦄, w.StoreServes → m w = (o, w') →
    w'.StoreServes ∧ w'.records = w.records ∧ o ≠ .overflow

theorem unwriting_pure (a : α) : Unwriting (pure a) := by
  intro w w' o serves run
  obtain ⟨rfl, rfl⟩ := Prod.mk.inj run
  exact ⟨serves, rfl, nofun⟩

theorem unwriting_fail (failure : Failure) : Unwriting (Action.fail failure : Action Failure α) := by
  intro w w' o serves run
  obtain ⟨rfl, rfl⟩ := Prod.mk.inj run
  exact ⟨serves, rfl, nofun⟩

theorem Unwriting.bind {m : Action Failure α} {f : α → Action Failure β} (first : Unwriting m)
    (rest : ∀ a, Unwriting (f a)) : Unwriting (m >>= f) := by
  intro w w' o serves run
  rcases bind_cases run with ⟨a, w₁, ran, run⟩ | ⟨e, ran, rfl⟩ | ⟨ran, rfl⟩ <;>
    obtain ⟨serves₁, records₁, ended⟩ := first serves ran
  · obtain ⟨serves₂, records₂, ended⟩ := rest a serves₁ run
    exact ⟨serves₂, records₂.trans records₁, ended⟩
  · exact ⟨serves₁, records₁, nofun⟩
  · exact absurd rfl ended

theorem unwriting_apart {ok : Request → Prop} {op : Action Error α} (within : op.Keeps (Reaches ok))
    (report : Error → Failure) : Unwriting (apart report op) := by
  intro w w' o serves run
  have store := ((apart_keeps within report).of_run run).store
  refine ⟨?_, store.records, fun overran => ?_⟩
  · rw [World.StoreServes, store.storeFaults]
    exact serves
  · rcases apart_cases run with ⟨_, _, same⟩ | ⟨_, _, same⟩ | ⟨_, same⟩ <;> cases overran.symm.trans same

theorem unwriting_secret (name : String) : Unwriting (Store.secret name) := by
  apply Unwriting.bind
  · intro w w' o serves run
    have inert : ∀ f ∈ Fault.due .secret w.storeFaults, f.changes = [] :=
      fun f due => (serves f (Fault.mem_due due).1).2
    obtain ⟨rfl, rfl⟩ := Prod.mk.inj run
    refine ⟨fun g remains => ?_, rfl, ?_⟩
    · obtain ⟨f, there, site, _, changes⟩ := Fault.mem_remaining remains
      rw [site, changes]
      exact serves f there
    · obtain ⟨_, done | ⟨_, _, _, _, failed⟩⟩ := Fault.fire_inert inert w.host
      · rw [done]
        nofun
      · rw [failed]
        nofun
  · intro _ w w' o serves run
    obtain ⟨rfl, rfl⟩ := Prod.mk.inj run
    exact ⟨serves, rfl, nofun⟩

theorem unwriting_cloudConfig (record : Record) : Unwriting (cloudConfig record) := by
  unfold cloudConfig
  split
  · exact unwriting_pure _
  · apply (unwriting_secret _).bind
    intro found
    split
    · exact unwriting_fail _
    · split
      · exact unwriting_fail _
      · exact unwriting_pure _

theorem unwriting_eject (record : Record) : Unwriting (eject record) := by
  apply (unwriting_apart (isDefined_reaches _) _).bind
  intro found
  cases found with
  | false => exact unwriting_pure ()
  | true => exact unwriting_apart (destroy_reaches _ _) _

/-- The rest of a pass publishes a status, or it fails and leaves the records as they are. -/
def Reports (record : Record) (m : Action Failure Next) : Prop :=
  ∀ ⦃w w' : World⦄ ⦃o : Outcome Failure Next⦄, w.StoreServes →
    w.records[record.name]? = some record → record.version.toNat + 1 < UInt64.size → m w = (o, w') →
    (∃ next patch, o = .done next ∧
      w'.records = w.records.insert record.name (record.published patch)) ∨
    (∃ failure, o = .failed failure ∧ w'.records = w.records ∧ w'.StoreServes)

theorem reports_publish (record : Record) (patch : Status → Status) (next : Next) :
    Reports record (do publish record.name patch; return next) := by
  intro w w' o serves found room run
  rw [bind_of_done (publish_served serves rfl found room)] at run
  obtain ⟨rfl, rfl⟩ := Prod.mk.inj run
  exact .inl ⟨next, patch, rfl, rfl⟩

theorem Unwriting.reports {m : Action Failure α} {f : α → Action Failure Next} (first : Unwriting m)
    (rest : ∀ a, Reports record (f a)) : Reports record (m >>= f) := by
  intro w w' o serves found room run
  rcases bind_cases run with ⟨a, w₁, ran, run⟩ | ⟨e, ran, rfl⟩ | ⟨ran, rfl⟩ <;>
    obtain ⟨serves₁, records, ended⟩ := first serves ran
  · rw [← records] at found ⊢
    exact rest a serves₁ found room run
  · exact .inr ⟨e, rfl, records, serves₁⟩
  · exact absurd rfl ended

theorem build_reports (intervals : Intervals) (record : Record) :
    Reports record (build intervals record) := by
  apply (unwriting_cloudConfig record).reports
  intro text
  cases text with
  | none => exact reports_publish record _ _
  | some userData =>
    apply (unwriting_apart (create_reaches _) _).reports
    intro _
    exact reports_publish record _ _

theorem observe_reports (intervals : Intervals) (record : Record) :
    Reports record (observe intervals record) := by
  apply (unwriting_apart (isRunning_reaches _) _).reports
  intro running
  cases running with
  | false => exact reports_publish record _ _
  | true =>
    apply (unwriting_apart (addresses_reaches _) _).reports
    intro addresses
    split
    · exact reports_publish record _ _
    · exact reports_publish record _ _

theorem discard_reports (intervals : Intervals) (record : Record) :
    Reports record (discard intervals record) := by
  apply (unwriting_apart (destroy_reaches _ _) _).reports
  intro _
  exact reports_publish record _ _

theorem step_reports (intervals : Intervals) (alive : record.status.phase ≠ .deleted)
    (staying : record.isLeaving = false) : Reports record (step intervals record) := by
  unfold step
  rw [if_neg alive]
  split
  · exact reports_publish record _ _
  next looked =>
  split
  next requested =>
    have leaving := Record.isLeaving_iff.mpr ⟨requested, Bool.eq_false_iff.mpr looked⟩
    cases staying.symm.trans leaving
  split
  · exact reports_publish record _ _
  apply (unwriting_apart (probe_reaches record.spec) _).reports
  rintro ⟨_ | _, sync⟩
  · exact build_reports intervals record
  · cases sync with
    | false => exact discard_reports intervals record
    | true => exact observe_reports intervals record

/-- A machine that is to go is said to be about to, and then its record goes, or tearing the machine
down fails. -/
theorem remove_served (serves : w.StoreServes) (found : w.records[record.name]? = some record)
    (requested : record.deletionRequested = true) (room : record.version.toNat + 2 < UInt64.size)
    {o : Outcome Failure Next} (run : remove record w = (o, w')) :
    (o = .done .done ∧ w'.records = w.records.erase record.name) ∨
    (∃ failure, o = .failed failure ∧ w'.StoreServes ∧ w'.records =
      w.records.insert record.name (record.published ({ · with phase := .deleting }))) := by
  have serves₁ : (Store.insert (record.published ({ · with phase := .deleting })) w).StoreServes := serves
  rw [remove_eq, bind_of_done (publish_served serves rfl found (by omega))] at run
  rcases bind_cases run with ⟨_, w₂, ejected, run⟩ | ⟨e, ejected, rfl⟩ | ⟨ejected, rfl⟩ <;>
    obtain ⟨serves₂, records₂, ended⟩ := unwriting_eject record serves₁ ejected
  · have found₂ := insert_record record ({ · with phase := .deleting }) w
    rw [← records₂] at found₂
    have version := published_version record ({ · with phase := .deleting }) (by omega)
    obtain ⟨rfl, rfl⟩ := letGo_served serves₂ (rfl : (record.published _).name = record.name)
      found₂ requested (by omega) run
    refine .inl ⟨rfl, ?_⟩
    simp only [records₂, Store.insert, Record.published, Table.erase_insert_self]
  · exact .inr ⟨e, rfl, serves₂, records₂⟩
  · exact absurd rfl ended

/-- How a pass over a record ends, by how looking after its machine ended, and what it leaves of the
records. -/
inductive Completes (intervals : Intervals) (records : Table Record) (record : Record) :
    Outcome Failure Next → Outcome ε Next → Table Record → Prop
  | dropped {next : Next} (leaving : record.isLeaving = true) :
      Completes intervals records record (.done next) (.done next) (records.erase record.name)
  | published {next : Next} {status : Status} (staying : record.isLeaving = false)
      (clear : status.failureMessage = none) :
      Completes intervals records record (.done next) (.done next)
        (records.insert record.name { record with status, version := record.version + 1 })
  | failed (failure : Failure) :
      Completes intervals records record (.failed failure) (.done (.after intervals.error))
        (records.insert record.name (record.failed failure))

/-- A failure is noted in the record as the pass left it. -/
theorem runPass_noted (serves : w'.StoreServes) {failure : Failure} {noted : Record}
    (ran : reconcile intervals record.name w = (.failed failure, w'))
    (found : w'.records[record.name]? = some noted) (room : noted.version.toNat + 1 < UInt64.size) :
    ∃ w₁, (runPass intervals record.name : Action ε Next) w = (.done (.after intervals.error), w₁) ∧
      w₁.records = w'.records.insert record.name
        { noted with
          status := { noted.status with failureMessage := some failure.message }
          version := noted.version + 1 } := by
  rw [runPass_of_failed ran]
  exact ⟨_, bind_of_done (attempt_of_done (patchStatus_served serves found room)), rfl⟩

theorem runPass_stays (serves : w.StoreServes) (found : w.records[record.name]? = some record)
    (alive : record.status.phase ≠ .deleted) (staying : record.isLeaving = false)
    (room : record.version.toNat + 1 < UInt64.size) :
    Completes intervals w.records record (reconcile intervals record.name w).1
      ((runPass intervals record.name : Action ε Next) w).1
      ((runPass intervals record.name : Action ε Next) w).2.records := by
  obtain ⟨o, w₁, ran⟩ : ∃ o w₁, reconcile intervals record.name w = (o, w₁) := ⟨_, _, rfl⟩
  have stepped := (reconcile_served serves found).symm.trans ran
  rw [ran]
  rcases step_reports intervals alive staying serves found room stepped with
    ⟨next, patch, rfl, records⟩ | ⟨failure, rfl, records, serves₁⟩
  · rw [runPass_of_done ran, records]
    exact .published staying rfl
  · obtain ⟨w', passed, noted⟩ := runPass_noted serves₁ ran (records ▸ found) room
    have failed : record.failed failure = { record with
        status := { record.status with failureMessage := some failure.message }
        version := record.version + 1 } := by
      simp [Record.failed, Record.writes, staying]
    rw [passed, noted, records, ← failed]
    exact .failed failure

theorem runPass_leaves (serves : w.StoreServes) (found : w.records[record.name]? = some record)
    (alive : record.status.phase ≠ .deleted) (leaving : record.isLeaving = true)
    (room : record.version.toNat + 2 < UInt64.size) :
    Completes intervals w.records record (reconcile intervals record.name w).1
      ((runPass intervals record.name : Action ε Next) w).1
      ((runPass intervals record.name : Action ε Next) w).2.records := by
  obtain ⟨requested, looked⟩ := Record.isLeaving_iff.mp leaving
  obtain ⟨o, w₁, ran⟩ : ∃ o w₁, reconcile intervals record.name w = (o, w₁) := ⟨_, _, rfl⟩
  have removed := (reconcile_served serves found).symm.trans ran
  rw [step_doomed alive looked requested] at removed
  rw [ran]
  rcases remove_served serves found requested room removed with
    ⟨rfl, records⟩ | ⟨failure, rfl, serves₁, records⟩
  · rw [runPass_of_done ran, records]
    exact .dropped leaving
  · have found₁ : w₁.records[record.name]? = some (record.published ({ · with phase := .deleting })) := by
      rw [records]
      exact insert_record record _ w
    have version := published_version record ({ · with phase := .deleting }) (by omega)
    obtain ⟨w', passed, noted⟩ := runPass_noted serves₁ ran found₁ (by omega)
    have failed : record.failed failure = { record with
        status := { record.status with phase := .deleting, failureMessage := some failure.message }
        version := record.version + 1 + 1 } := by
      simp only [Record.failed, Record.writes, leaving, ↓reduceIte, UInt64.add_assoc]
      rfl
    rw [passed, noted, records, Table.insert_insert_self]
    simp only [Record.published, ← failed]
    exact .failed failure

/-- Whatever fails on the way to the host or when a secret is read, a pass comes to an end, and its record
tells of the failure or of none, or is gone. -/
theorem runPass_completes (serves : w.StoreServes) (found : w.records[record.name]? = some record)
    (alive : record.status.phase ≠ .deleted)
    (room : record.version.toNat + record.writes.toNat < UInt64.size) :
    Completes intervals w.records record (reconcile intervals record.name w).1
      ((runPass intervals record.name : Action ε Next) w).1
      ((runPass intervals record.name : Action ε Next) w).2.records := by
  cases leaving : record.isLeaving with
  | false =>
    rw [Record.writes_staying leaving] at room
    exact runPass_stays serves found alive leaving room
  | true =>
    rw [Record.writes_leaving leaving] at room
    exact runPass_leaves serves found alive leaving room

theorem runPass_completes_busy :
    busy.StoreServes ∧ busy.records["m"]? = some doomed ∧ doomed.status.phase ≠ .deleted ∧
    doomed.version.toNat + doomed.writes.toNat < UInt64.size ∧
    Completes .standard busy.records doomed (reconcile .standard "m" busy).1
      ((runPass .standard "m" : Action Failure Next) busy).1 (passed busy).records := by
  have serves : busy.StoreServes := World.storeServes_of_nil rfl
  have found : busy.records["m"]? = some doomed := by decide
  exact ⟨serves, found, by decide, by decide, runPass_completes serves found (by decide) (by decide)⟩

end Reconcile

end MachineKeeper
