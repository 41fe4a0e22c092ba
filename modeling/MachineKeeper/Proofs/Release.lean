import MachineKeeper.Proofs.Rules

/-! A pass over a record whose deletion is requested, where every call gets through. It lets go of the
record unless something holds it up, and its machine goes with it if there is a domain. -/
namespace MachineKeeper

/-- The host once a machine was to go: one without a domain is left as it is, volumes and all. -/
def Host.ejected (h : Host) (name pool : String) : Host :=
  if name ∈ h.domains then h.without name pool else h

theorem Host.ejected_there {h : Host} {name pool : String} (there : name ∈ h.domains) :
    h.ejected name pool = h.without name pool :=
  if_pos there

theorem Host.ejected_missing {h : Host} {name pool : String} (missing : name ∉ h.domains) :
    h.ejected name pool = h :=
  if_neg missing

theorem Store.patchStatus_full {w : World} {name : String} {record : Record} {patch : Status → Status}
    (calm : w.Calm) (found : w.records[name]? = some record)
    (full : ¬ record.version.toNat + 1 < UInt64.size) : patchStatus name patch w = (.overflow, w) := by
  refine (Action.bind_of_done (meetFaults_idle calm.storeFaults .patchStatus)).trans ?_
  simp only [found, Action.map_run, writeBack, nextVersion?, full, ↓reduceIte]

namespace Reconcile

open Session Lifecycle Store MachineKeeper.Action

variable {ε : Type} {w w' : World} {name : String} {record : Record} {intervals : Intervals}

/-- Nothing in a record keeps a pass from letting go of it: it is written twice before it goes. -/
structure Releasable (record : Record) : Prop where
  alive : record.status.phase ≠ .deleted
  looked : record.paused = false
  room : record.version.toNat + 2 < UInt64.size

theorem publish_full {patch : Status → Status} (calm : w.Calm) (found : w.records[name]? = some record)
    (full : ¬ record.version.toNat + 1 < UInt64.size) : publish name patch w = (.overflow, w) := by
  rw [publish, bind_run, patchStatus_full calm found full]

theorem eject_calm (calm : w.Calm) (record : Record) : ∃ w', eject record w = (.done (), w') ∧
    Reaches (Discards record.name record.spec.storagePool) w w' ∧
    w'.host.objects = w.host.objects.ejected record.name record.spec.storagePool := by
  cases there : w.host.domains[record.name]? with
  | none =>
    obtain ⟨w', ejected, path, objects⟩ := eject_missing calm there
    have missing : record.name ∉ w.host.objects.domains := fun member => by
      obtain ⟨_, found⟩ := Table.found_of_mem member
      cases there.symm.trans found
    exact ⟨w', ejected, path.mono fun _ => .inl, by rw [objects, Host.ejected_missing missing]⟩
  | some domain =>
    obtain ⟨w', ejected, path, objects⟩ := eject_there calm there
    have there : record.name ∈ w.host.objects.domains := Table.mem_of_found there
    exact ⟨w', ejected, path, by rw [objects, Host.ejected_there there]⟩

theorem reconcile_served (serves : w.StoreServes) (found : w.records[name]? = some record) :
    reconcile intervals name w = step intervals record w := by
  rw [reconcile, bind_of_done (get_served serves name), found]

theorem reconcile_calm (calm : w.Calm) (found : w.records[name]? = some record) :
    reconcile intervals name w = step intervals record w :=
  reconcile_served calm.storeServes found

theorem runPass_of_done {next : Next} (ran : reconcile intervals name w = (.done next, w')) :
    (runPass intervals name : Action ε Next) w = (.done next, w') := by
  rw [runPass, bind_of_done (attempt_of_done ran)]
  rfl

theorem runPass_of_failed {failure : Failure} (ran : reconcile intervals name w = (.failed failure, w')) :
    (runPass intervals name : Action ε Next) w = handleFailure intervals name failure w' := by
  rw [runPass, bind_of_done (attempt_of_failed ran)]

theorem runPass_of_overflow (ran : reconcile intervals name w = (.overflow, w')) :
    (runPass intervals name : Action ε Next) w = (.overflow, w') := by
  rw [runPass, bind_run, attempt, ran]

theorem step_paused (alive : record.status.phase ≠ .deleted) (looked : record.paused = true) :
    step intervals record = (do
      publish record.name ({ · with phase := .paused })
      return .after intervals.paused) := by
  simp [step, alive, looked]

theorem step_doomed (alive : record.status.phase ≠ .deleted) (looked : record.paused = false)
    (requested : record.deletionRequested = true) : step intervals record = remove record := by
  simp [step, alive, looked, requested]

/-- The record goes, and with it whatever there is of a machine that has a domain. -/
theorem runPass_releases (calm : w.Calm) (found : w.records[record.name]? = some record)
    (requested : record.deletionRequested = true) (free : Releasable record) :
    ∃ w', (runPass intervals record.name : Action ε Next) w = (.done .done, w') ∧
      w'.records = w.records.erase record.name ∧
      w'.host.objects = w.host.objects.ejected record.name record.spec.storagePool := by
  obtain ⟨alive, looked, room⟩ := free
  have calm₁ := insert_calm calm (record.published ({ · with phase := .deleting }))
  obtain ⟨w₂, ejected, path, objects⟩ := eject_calm calm₁ record
  obtain ⟨o, w', left⟩ : ∃ o w', letGo record w₂ = (o, w') := ⟨_, _, rfl⟩
  obtain ⟨rfl, leaves⟩ := letGo_leaves calm requested room path objects left
  refine ⟨w', runPass_of_done ?_, leaves.records, leaves.host⟩
  rw [reconcile_calm calm found, step_doomed alive looked requested, remove_eq,
    bind_of_done (publish_calm calm rfl found (by omega)), bind_of_done ejected, left]

theorem runPass_ejects (calm : w.Calm) (found : w.records[record.name]? = some record)
    (requested : record.deletionRequested = true) (free : Releasable record) :
    ((runPass intervals record.name : Action ε Next) w).2.host.objects =
      w.host.objects.ejected record.name record.spec.storagePool := by
  obtain ⟨w', ran, _, objects⟩ := runPass_releases calm found requested free
  rw [ran, objects]

theorem insert_record (record : Record) (patch : Status → Status) (w : World) :
    (Store.insert (record.published patch) w).records[record.name]? = some (record.published patch) :=
  Std.ExtTreeMap.getElem?_insert_self

theorem remove_full (calm : w.Calm) (found : w.records[record.name]? = some record)
    (full : ¬ record.version.toNat + 2 < UInt64.size) :
    ∃ w', remove record w = (.overflow, w') ∧ w'.records[record.name]? ≠ none := by
  by_cases room : record.version.toNat + 1 < UInt64.size
  · have calm₁ := insert_calm calm (record.published ({ · with phase := .deleting }))
    obtain ⟨w₂, ejected, path, _⟩ := eject_calm calm₁ record
    have found₂ := insert_record record ({ · with phase := .deleting }) w
    rw [← path.store.records] at found₂
    have full₂ := published_version record ({ · with phase := .deleting }) room
    refine ⟨w₂, ?_, by simp [found₂]⟩
    rw [remove_eq, bind_of_done (publish_calm calm rfl found room), bind_of_done ejected, letGo,
      bind_run, publish_full (path.calm calm₁) found₂ (by omega)]
  · exact ⟨w, by rw [remove_eq, bind_run, publish_full calm found room], by simp [found]⟩

/-- A record that is held up stays in the store. -/
theorem runPass_withholds (calm : w.Calm) (found : w.records[record.name]? = some record)
    (requested : record.deletionRequested = true) (held : ¬ Releasable record) :
    ((runPass intervals record.name : Action ε Next) w).2.records[record.name]? ≠ none := by
  have stays : w.records[record.name]? ≠ none := by simp [found]
  by_cases gone : record.status.phase = .deleted
  · have ran : reconcile intervals record.name w = (.done .done, w) := by
      rw [reconcile_calm calm found, step, if_pos gone, pure_run]
    rwa [runPass_of_done ran]
  cases looked : record.paused with
  | true =>
    by_cases room : record.version.toNat + 1 < UInt64.size
    · have ran : reconcile intervals record.name w = (.done (.after intervals.paused),
          Store.insert (record.published ({ · with phase := .paused })) w) := by
        rw [reconcile_calm calm found, step_paused gone looked,
          bind_of_done (publish_calm calm rfl found room), pure_run]
      rw [runPass_of_done ran, insert_record]
      nofun
    · have ran : reconcile intervals record.name w = (.overflow, w) := by
        rw [reconcile_calm calm found, step_paused gone looked, bind_run, publish_full calm found room]
      rwa [runPass_of_overflow ran]
  | false =>
    have full : ¬ record.version.toNat + 2 < UInt64.size := fun room => held ⟨gone, looked, room⟩
    obtain ⟨w', removed, stays'⟩ := remove_full calm found full
    have ran : reconcile intervals record.name w = (.overflow, w') := by
      rw [reconcile_calm calm found, step_doomed gone looked requested, removed]
    rwa [runPass_of_overflow ran]

theorem runPass_releases_iff (calm : w.Calm) (found : w.records[record.name]? = some record)
    (requested : record.deletionRequested = true) :
    ((runPass intervals record.name : Action ε Next) w).2.records[record.name]? = none ↔
      Releasable record := by
  constructor
  · intro dropped
    by_cases free : Releasable record
    · exact free
    · exact absurd dropped (runPass_withholds calm found requested free)
  · intro free
    obtain ⟨w', ran, records, _⟩ := runPass_releases calm found requested free
    rw [ran, records, Std.ExtTreeMap.getElem?_erase_self]

end Reconcile

end MachineKeeper
