import MachineKeeper.Proofs.Action
import MachineKeeper.Proofs.Session
import MachineKeeper.Proofs.Status
import MachineKeeper.Store

/-! What the operations of the store do in an undisturbed world. None of them has to do with the
host; a write goes to one record and counts its version up. -/
namespace MachineKeeper.Store

open MachineKeeper.Action

variable {ε : Type} {w w' : World} {name : String}

/-- Two worlds with the same host, of which the second came about through the store. -/
structure SameHost (w w' : World) : Prop where
  host : w'.host = w.host
  log : w'.log = w.log
  secrets : w'.secrets = w.secrets
  hostFaults : w'.hostFaults = w.hostFaults
  storeFaults : ∀ g ∈ w'.storeFaults, ∃ f ∈ w.storeFaults, g.changes = f.changes

theorem sameHost_frame : Frame SameHost where
  refl w := ⟨rfl, rfl, rfl, rfl, fun g member => ⟨g, member, rfl⟩⟩
  trans := by
    intro a b c ab bc
    refine ⟨bc.host.trans ab.host, bc.log.trans ab.log, bc.secrets.trans ab.secrets,
      bc.hostFaults.trans ab.hostFaults, fun g member => ?_⟩
    obtain ⟨f, inB, changes⟩ := bc.storeFaults g member
    obtain ⟨e, inA, changes'⟩ := ab.storeFaults f inB
    exact ⟨e, inA, changes.trans changes'⟩

theorem SameHost.undisturbed (same : SameHost w w') (quiet : w.Undisturbed) : w'.Undisturbed where
  host := by rw [same.hostFaults]; exact quiet.host
  store := by
    intro g member
    obtain ⟨f, there, changes⟩ := same.storeFaults g member
    exact changes.trans (quiet.store f there)

theorem SameHost.callErrors (same : SameHost w w') (calls : w.CallErrors) : w'.CallErrors := by
  rw [World.CallErrors, same.hostFaults]
  exact calls

theorem meetFaults_none {site : StoreSite} (none : ∀ f ∈ w.storeFaults, f.site ≠ site) :
    meetFaults site w = (.done (), w) := by
  rw [meetFaults, Fault.due_none none, Fault.remaining_none none]
  rfl

theorem meetFaults_served {site : StoreSite} (serves : w.StoreServes) (other : site ≠ .secret) :
    meetFaults site w = (.done (), w) :=
  meetFaults_none fun f member => (serves f member).1 ▸ other.symm

theorem get_served (serves : w.StoreServes) (name : String) : get name w = (.done w.records[name]?, w) :=
  bind_of_done (meetFaults_served serves (by decide))

theorem meetFaults_cases {site : StoreSite} {o : Outcome Failure Unit} (quiet : w.Undisturbed)
    (run : meetFaults site w = (o, w')) :
    SameHost w w' ∧ w'.records = w.records ∧ (o = .done () ∨ ∃ e, o = .failed e) := by
  have inert : ∀ f ∈ Fault.due site w.storeFaults, f.changes = [] :=
    fun f due => quiet.store f (Fault.mem_due due).1
  obtain ⟨same, ended⟩ := Fault.fire_inert inert w.host
  obtain ⟨rfl, rfl⟩ := Prod.mk.inj run
  refine ⟨⟨same, rfl, rfl, rfl, fun g member => ?_⟩, rfl, ?_⟩
  · obtain ⟨f, there, _, _, changes⟩ := Fault.mem_remaining member
    exact ⟨f, there, changes⟩
  · rcases ended with done | ⟨_, _, e, _, failed⟩
    · exact .inl (by rw [done]; rfl)
    · exact .inr ⟨_, by rw [failed]; rfl⟩

theorem get_cases {o : Outcome Failure (Option Record)} (quiet : w.Undisturbed)
    (run : get name w = (o, w')) :
    SameHost w w' ∧ w'.records = w.records ∧ ((∃ e, o = .failed e) ∨ o = .done w.records[name]?) := by
  rcases bind_cases run with ⟨_, w₁, met, rest⟩ | ⟨e, met, rfl⟩ | ⟨met, _⟩
  · obtain ⟨same, records, _⟩ := meetFaults_cases quiet met
    obtain ⟨rfl, rfl⟩ := Prod.mk.inj rest
    exact ⟨same, records, .inr (by rw [records])⟩
  · obtain ⟨same, records, _⟩ := meetFaults_cases quiet met
    exact ⟨same, records, .inl ⟨e, rfl⟩⟩
  · obtain ⟨_, _, done | ⟨_, failed⟩⟩ := meetFaults_cases quiet met
    · cases done
    · cases failed

/-- What an operation of the store does to the rest of an undisturbed world. -/
def Stays (w w' : World) : Prop := w.Undisturbed → SameHost w w'

theorem stays_frame : Frame Stays where
  refl w _ := sameHost_frame.refl w
  trans first second quiet :=
    sameHost_frame.trans (first quiet) (second ((first quiet).undisturbed quiet))

theorem records_frame : Frame fun w w' => w'.records = w.records where
  refl _ := rfl
  trans first second := second.trans first

theorem secret_records (name : String) : (secret name).Keeps fun w w' => w'.records = w.records :=
  records_frame.bind (fun _ => rfl) fun _ _ => rfl

/-- Whatever happens behind its back, a record is read as it is in the store. -/
theorem get_done {found : Option Record} (run : get name w = (.done found, w')) :
    found = w.records[name]? ∧ w'.records = w.records := by
  obtain ⟨_, w₁, met, read⟩ := bind_done run
  obtain ⟨-, rfl⟩ := Prod.mk.inj met
  obtain ⟨same, rfl⟩ := Prod.mk.inj read
  exact ⟨(Outcome.done.inj same).symm, rfl⟩

theorem writeBack_done {record written : Record}
    (run : (writeBack name record : Action ε Record) w = (.done written, w')) :
    w'.records = w.records.insert name { record with version := record.version + 1 } := by
  unfold writeBack at run
  split at run
  next version counted =>
    obtain ⟨-, rfl⟩ := Prod.mk.inj run
    unfold nextVersion? at counted
    split at counted
    · rw [← Option.some.inj counted]
    · cases counted
  next => cases (Prod.mk.inj run).1

/-- A status that was changed had a record, in which nothing else was changed. -/
theorem patchStatus_done {patch : Status → Status} {status : Status}
    (run : patchStatus name patch w = (.done status, w')) :
    ∃ record, w.records[name]? = some record ∧ w'.records = w.records.insert name
      { record with status := patch record.status, version := record.version + 1 } := by
  obtain ⟨_, w₁, met, wrote⟩ := bind_done run
  obtain ⟨-, rfl⟩ := Prod.mk.inj met
  split at wrote
  next record found =>
    refine ⟨record, found, ?_⟩
    rw [map_run] at wrote
    split at wrote
    next back =>
      obtain ⟨-, rfl⟩ := Prod.mk.inj wrote
      exact writeBack_done back
    next => cases (Prod.mk.inj wrote).1
    next => cases (Prod.mk.inj wrote).1
  next => cases (Prod.mk.inj wrote).1

/-- An edit of a record writes it back, unless there is none or its version cannot be counted up. -/
theorem update_cases {edit : Record → Record} (name : String) (w : World) :
    ((update name edit : Action ε (Option Record)) w).2 = w ∨
    ∃ record version, w.records[name]? = some record ∧
      ((update name edit : Action ε (Option Record)) w).2 =
        { w with records := w.records.insert name { edit record with version } } := by
  unfold update
  split
  next record found =>
    rw [map_world, writeBack]
    split
    next version _ => exact .inr ⟨record, version, found, rfl⟩
    next => exact .inl rfl
  next => exact .inl rfl

section
variable {R : World → World → Prop}

theorem patchStatus_keeps {patch : Status → Status} (frame : Frame R)
    (faults : (meetFaults .patchStatus).Keeps R)
    (written : ∀ {w : World} {record : Record} {version : UInt64}, w.records[name]? = some record →
      R w { w with records :=
        w.records.insert name { record with status := patch record.status, version } }) :
    (patchStatus name patch).Keeps R := by
  apply frame.bind faults
  intro _ w
  dsimp only
  split
  next record found =>
    rw [map_world, writeBack]
    split
    · exact written found
    · exact frame.refl w
  next => exact frame.refl w

/-- What passes make of the records: one is written back, or one that is to go leaves. -/
inductive Edited (records : Table Record) : Table Record → Prop
  | written {key : String} {record record' : Record} (found : records[key]? = some record)
      (rewritten : Record.Rewritten key record record') : Edited records (records.insert key record')
  | dropped {key : String} {record : Record} (found : records[key]? = some record)
      (requested : record.deletionRequested = true) : Edited records (records.erase key)

/-- A relation that holds over whatever passes do in the store, where faults happen and records are
written. -/
structure StoreFrame (R : World → World → Prop) : Prop extends Frame R where
  faults : ∀ site, (meetFaults site).Keeps R
  write : ∀ {w : World} {records : Table Record}, Edited w.records records → R w { w with records }

namespace StoreFrame

variable (store : StoreFrame R)
include store

theorem get (name : String) : (Store.get name).Keeps R :=
  store.bind (store.faults _) fun _ => store.refl

theorem secret (name : String) : (Store.secret name).Keeps R :=
  store.bind (store.faults _) fun _ => store.refl

theorem patchStatus {patch : Status → Status} (rewritten : ∀ {record : Record} {version : UInt64},
    Record.Rewritten name record { record with status := patch record.status, version }) :
    (Store.patchStatus name patch).Keeps R :=
  patchStatus_keeps store.toFrame (store.faults _) fun found => store.write (.written found rewritten)

theorem removeFinalizer (name : String) : (Store.removeFinalizer name).Keeps R := by
  apply store.bind (store.faults _)
  intro _ w
  dsimp only
  split
  next record found =>
    split
    next requested => exact store.write (.dropped found requested)
    next =>
      rw [map_world, writeBack]
      split
      · exact store.write (.written found .unheld)
      · exact store.refl w
  next => exact store.refl w

end StoreFrame

end

theorem stays_store : StoreFrame Stays where
  toFrame := stays_frame
  faults site := fun w quiet => (meetFaults_cases quiet (run_halves (meetFaults site) w)).1
  write _ _ := ⟨rfl, rfl, rfl, rfl, fun g member => ⟨g, member, rfl⟩⟩

/-- The record is out of the store, or it says that its machine is deleted. -/
def Released (name : String) (w : World) : Prop :=
  ∀ record, w.records[name]? = some record → record.status.phase = .deleted

/-- A record that is released at the end was so before. -/
def Retains (name : String) (w w' : World) : Prop := Released name w' → Released name w

theorem retains_frame : Frame (Retains name) where
  refl _ released := released
  trans first second released := first (second released)

theorem Released.of_records (same : w'.records = w.records) (released : Released name w') :
    Released name w := by
  rwa [Released, ← same]

theorem written_retains {key : String} {record edited : Record}
    (found : w.records[key]? = some record)
    (alive : edited.status.phase = .deleted → record.status.phase = .deleted) :
    Retains name w { w with records := w.records.insert key edited } := by
  intro released old there
  by_cases same : key = name
  · subst same
    obtain rfl := Option.some.inj (found.symm.trans there)
    exact alive (released edited Std.ExtTreeMap.getElem?_insert_self)
  · exact released old (by simpa [Std.ExtTreeMap.getElem?_insert, same] using there)

/-- A patch that does not say that a machine is deleted lets go of no record. -/
theorem patchStatus_retains {key : String} {patch : Status → Status}
    (alive : ∀ status, (patch status).phase = .deleted → status.phase = .deleted) :
    (patchStatus key patch).Keeps (Retains name) :=
  patchStatus_keeps retains_frame (fun _ => Released.of_records rfl) fun {_ record _} found =>
    written_retains found (alive record.status)

end MachineKeeper.Store
