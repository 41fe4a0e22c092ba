import MachineKeeper.Proofs.Coupling
import MachineKeeper.Proofs.Drift

/-! Passes go by what is, and not by what was noted of it. Two worlds that differ in the statuses of
records at most are the same to a pass, unless a status says that the machine is deleted. -/
namespace MachineKeeper

/-- The records differ in the status at most. -/
def Record.Sibling (a b : Record) : Prop := ∃ status, b = { a with status }

/-- Where a pass publishes a status, its phase is not made of the one before. -/
theorem Status.Patch.phase {machine : String} {patch : Status → Status} (patches : Patch machine patch)
    (s s' : Status) : (patch s').phase = (patch s).phase := by
  cases patches <;> rfl

namespace Store

/-- The same names have records, which differ in the status at most. -/
def Siblings (records records' : Table Record) : Prop :=
  ∀ key : String, Option.Rel Record.Sibling records[key]? records'[key]?

/-- A machine's record, where it has one twice, is in the same phase. -/
def SamePhase (machine : String) (records records' : Table Record) : Prop :=
  ∀ a b, records[machine]? = some a → records'[machine]? = some b → b.status.phase = a.status.phase

end Store

/-- The worlds differ in their records at most, which are in a relation. -/
inductive World.Beside (D : Table Record → Table Record → Prop) (w : World) : World → Prop
  | mk (records : Table Record) (related : D w.records records) : Beside D w { w with records }

namespace World

open Store

/-- The worlds differ in the statuses of records at most. -/
abbrev Level : World → World → Prop := Beside Siblings

/-- The same, and one machine is in the same phase in both. -/
def InPhase (machine : String) : World → World → Prop :=
  Beside fun records records' => Siblings records records' ∧ SamePhase machine records records'

theorem InPhase.level {machine : String} {w v : World} (inPhase : InPhase machine w v) : Level w v := by
  obtain ⟨records, siblings, _⟩ := inPhase
  exact ⟨records, siblings⟩

end World

namespace Action

variable {ε α : Type} {D : Table Record → Table Record → Prop}

/-- An operation that neither reads nor writes a record. -/
structure Unrecorded (m : Action ε α) : Prop where
  blind : ∀ (w : World) (records : Table Record),
    m { w with records } = ((m w).1, { (m w).2 with records })
  kept : m.Keeps fun w w' => w'.records = w.records

theorem Unrecorded.steady {m : Action ε α} (unrecorded : Unrecorded m) : Steady (World.Beside D) m := by
  rintro w _ ⟨records, related⟩
  rw [unrecorded.blind w records]
  rw [← unrecorded.kept w] at related
  revert related
  rcases m w with ⟨a | e | _, w'⟩ <;> intro related
  · exact .done ⟨rfl, records, related⟩
  · exact .failed e ⟨records, related⟩
  · exact .overflow ⟨records, related⟩

end Action

namespace Session

open MachineKeeper.Action

theorem meetFaults_unrecorded (site : HostSite) : Unrecorded (meetFaults site) where
  blind _ _ := rfl
  kept _ := rfl

theorem connect_unrecorded : Unrecorded connect where
  blind w records := by
    unfold connect
    rw [(meetFaults_unrecorded .connect).blind]
    rcases meetFaults .connect w with ⟨_ | e | _, w'⟩
    · dsimp only
      split <;> rfl
    · rfl
    · rfl
  kept w := by
    obtain ⟨_, noted⟩ := connect_noted w
    exact noted.records

theorem disconnect_unrecorded : Unrecorded disconnect where
  blind w records := by
    unfold disconnect
    rw [(meetFaults_unrecorded .disconnect).blind]
    rcases meetFaults .disconnect w with ⟨_ | e | _, w'⟩ <;> rfl
  kept w := (disconnect_noted w).records

theorem send_unrecorded (r : Request) : Unrecorded (send r) where
  blind w records := by
    unfold send
    rw [(meetFaults_unrecorded (.call r.call)).blind]
    rcases meetFaults (.call r.call) w with ⟨_ | e | _, w'⟩ <;> rfl
  kept w := by
    obtain ⟨_, noted⟩ := send_noted r w
    exact noted.records

end Session

namespace Store

open World MachineKeeper.Action

variable {ε : Type} {key machine : String} {w v : World} {record : Record} {status : Status}

theorem meetFaults_unrecorded (site : StoreSite) : Unrecorded (meetFaults site) where
  blind _ _ := rfl
  kept _ := rfl

theorem secret_level (name : String) : Steady Level (secret name) := by
  apply (meetFaults_unrecorded .secret).steady.bind
  rintro _ w _ ⟨records, siblings⟩
  exact .done ⟨rfl, records, siblings⟩

/-- What is found under a name twice: nothing, or the same but for the status. -/
theorem found_level (level : Level w v) (key : String) :
    (w.records[key]? = none ∧ v.records[key]? = none) ∨
    ∃ record status, w.records[key]? = some record ∧ v.records[key]? = some { record with status } := by
  obtain ⟨records, siblings⟩ := level
  have related := siblings key
  revert related
  dsimp only
  generalize w.records[key]? = a, records[key]? = b
  rintro (⟨status, rfl⟩ | _)
  · exact .inr ⟨_, status, rfl, rfl⟩
  · exact .inl ⟨rfl, rfl⟩

theorem siblings_insert {records records' : Table Record} (siblings : Siblings records records')
    (key : String) (record : Record) (status : Status) :
    Siblings (records.insert key record) (records'.insert key { record with status }) := by
  intro other
  simp only [Std.ExtTreeMap.getElem?_insert]
  split
  · exact .some ⟨status, rfl⟩
  · exact siblings other

theorem siblings_erase {records records' : Table Record} (siblings : Siblings records records')
    (key : String) : Siblings (records.erase key) (records'.erase key) := by
  intro other
  simp only [Std.ExtTreeMap.getElem?_erase]
  split
  · exact .none
  · exact siblings other

theorem samePhase_insert {records records' : Table Record} (same : status.phase = record.status.phase) :
    SamePhase key (records.insert key record) (records'.insert key { record with status }) := by
  rintro _ _ first second
  simp only [Std.ExtTreeMap.getElem?_insert_self, Option.some.injEq] at first second
  rw [← first, ← second]
  exact same

theorem writeBack_level (level : Level w v) :
    Paired Level (fun _ _ w v => Level w v ∧ (status.phase = record.status.phase → InPhase key w v))
      ((writeBack key record : Action ε Record) w)
      ((writeBack key { record with status } : Action ε Record) v) := by
  obtain ⟨records, siblings⟩ := level
  unfold writeBack
  dsimp only
  split
  · have inserted := siblings_insert siblings key
    exact .done ⟨⟨_, inserted _ _⟩, fun same => ⟨_, inserted _ _, samePhase_insert same⟩⟩
  · exact .overflow ⟨records, siblings⟩

theorem patchStatus_level (key : String) (patch : Status → Status) :
    Coupled Level Level (fun _ _ w v => Level w v ∧
        ((∀ s s', (patch s').phase = (patch s).phase) → InPhase key w v))
      (patchStatus key patch) (patchStatus key patch) := by
  apply Coupled.bind (meetFaults_unrecorded .patchStatus).steady
  rintro _ _ w v ⟨-, level⟩
  dsimp only
  rcases found_level level key with ⟨first, second⟩ | ⟨record, status, first, second⟩
  · rw [first, second]
    exact .failed _ level
  · rw [first, second]
    apply (writeBack_level level).map
    exact fun both => ⟨both.1, fun constant => both.2 (constant _ _)⟩

theorem removeFinalizer_level (machine : String) :
    Coupled Level (InPhase machine) (fun a b w v => b = a ∧ InPhase machine w v)
      (removeFinalizer machine) (removeFinalizer machine) := by
  have faults : Coupled Level (InPhase machine) (fun _ _ => InPhase machine)
      (meetFaults .removeFinalizer) (meetFaults .removeFinalizer) :=
    (meetFaults_unrecorded .removeFinalizer).steady.mono InPhase.level And.right
  apply faults.bind
  rintro _ _ w v inPhase
  dsimp only
  rcases found_level inPhase.level machine with ⟨first, second⟩ | ⟨record, status, first, second⟩
  · rw [first, second]
    exact .done ⟨rfl, inPhase⟩
  rw [first, second]
  dsimp only
  obtain ⟨records, siblings, same⟩ := inPhase
  split
  · refine .done ⟨rfl, _, siblings_erase siblings machine, ?_⟩
    rintro _ _ gone
    simp at gone
  · have written : Paired Level _
        ((writeBack machine { record with finalizer := false } : Action Failure Record) w)
        (writeBack machine { record with finalizer := false, status } { w with records }) :=
      writeBack_level ⟨records, siblings⟩
    exact written.map fun both => ⟨rfl, both.2 (same _ _ first second)⟩

end Store

namespace Reconcile

open World Store Session MachineKeeper.Action

variable {ε : Type} {machine key : String} {intervals : Intervals} {w w' v v' : World}
  {record : Record} {status : Status}

theorem publish_level {patch : Status → Status} (patches : Status.Patch machine patch) :
    Coupled Level Level (fun a b w v => b = a ∧ InPhase machine w v) (publish machine patch)
      (publish machine patch) := by
  apply (patchStatus_level machine _).bind
  exact fun _ _ _ _ both => .done ⟨rfl, both.2 fun s s' => patches.phase s s'⟩

theorem level_uniform (key machine : String) : Uniform key machine Level (InPhase machine) where
  connect := connect_unrecorded.steady
  disconnect := disconnect_unrecorded.steady
  send _ := (send_unrecorded _).steady
  weaker := InPhase.level
  secret := secret_level
  publish := publish_level
  letGo := removeFinalizer_level machine
  note _ := (patchStatus_level key _).mono id And.left

/-- Both worlds have a record of the name, of a machine that is not deleted. -/
def Pending (key machine : String) : World → World → Prop :=
  Beside fun records records' => Siblings records records' ∧ ∃ (record : Record) (status : Status),
    record.name = machine ∧ record.status.phase ≠ .deleted ∧ status.phase ≠ .deleted ∧
    records[key]? = some record ∧ records'[key]? = some { record with status }

theorem Pending.level (pending : Pending key machine w v) : Level w v := by
  obtain ⟨records, siblings, _⟩ := pending
  exact ⟨records, siblings⟩

theorem pending_restated (found : w.records[key]? = some record)
    (alive : record.status.phase ≠ .deleted) (alive' : status.phase ≠ .deleted) :
    Pending key record.name w
      { w with records := w.records.insert key { record with status } } := by
  refine ⟨_, fun other => ?_, record, status, rfl, alive, alive', found,
    Std.ExtTreeMap.getElem?_insert_self⟩
  rw [Std.ExtTreeMap.getElem?_insert]
  split
  next here =>
    rw [← Std.LawfulEqCmp.compare_eq_iff_eq.mp here, found]
    exact .some ⟨status, rfl⟩
  next =>
    cases w.records[other]? with
    | none => exact .none
    | some stored => exact .some ⟨stored.status, rfl⟩

theorem get_pending (key machine : String) :
    Coupled Level (Pending key machine) (Found machine Level (InPhase machine)) (Store.get key)
      (Store.get key) := by
  have faults : Coupled Level (Pending key machine) (fun _ _ => Pending key machine)
      (Store.meetFaults .get) (Store.meetFaults .get) :=
    (meetFaults_unrecorded .get).steady.mono Pending.level And.right
  apply faults.bind
  rintro _ _ w _ ⟨records, siblings, record, status, here, alive, alive', found, found'⟩
  dsimp only
  rw [found, found']
  exact .done (.alive here alive alive' ⟨records, siblings⟩)

/-- A pass for a machine that is not deleted goes by the level: its status makes no difference to what
is asked of the host, to what becomes of host and record, or to when the next pass is due; and where
the pass goes through, the status says the same of the machine's phase afterwards. -/
theorem level_triggered {o o' : Outcome ε Next} (found : w.records[key]? = some record)
    (alive : record.status.phase ≠ .deleted) (alive' : status.phase ≠ .deleted)
    (run : runPass intervals key w = (o, w'))
    (run' : runPass intervals key
      { w with records := w.records.insert key { record with status } } = (o', v')) :
    v'.log = w'.log ∧ v'.host.domains = w'.host.domains ∧ v'.host.pools = w'.host.pools ∧
      (key ∈ v'.records ↔ key ∈ w'.records) ∧ o' = o ∧
      (record.name = key → (reconcile intervals key w).1.isDone = true →
        ∀ a b, w'.records[key]? = some a → v'.records[key]? = some b →
          b.status.phase = a.status.phase) := by
  have pending := pending_restated found alive alive'
  have ended : Paired Level _ ((runPass intervals key : Action ε Next) w) (runPass intervals key _) :=
    runPass_coupled (level_uniform key record.name) (get_pending key record.name) pending
  rw [run, run'] at ended
  obtain ⟨same, level⟩ := ended.same
  have kept : key ∈ v'.records ↔ key ∈ w'.records := by
    simp only [Std.ExtTreeMap.mem_iff_isSome_getElem?]
    rcases found_level level key with ⟨first, second⟩ | ⟨_, _, first, second⟩
    · rw [first, second]
    · rw [first, second]
      rfl
  refine ⟨?_, ?_, ?_, kept, same, ?_⟩
  · obtain ⟨records, _⟩ := level
    rfl
  · obtain ⟨records, _⟩ := level
    rfl
  · obtain ⟨records, _⟩ := level
    rfl
  rintro rfl through
  have reconciled : Paired Level _ (reconcile intervals record.name w) (reconcile intervals record.name _) :=
    reconcile_coupled (level_uniform record.name record.name) (get_pending record.name record.name) pending
  obtain ⟨o₁, w₁, ran⟩ : ∃ o₁ w₁, reconcile intervals record.name w = (o₁, w₁) := ⟨_, _, rfl⟩
  obtain ⟨o₂, v₁, ran'⟩ : ∃ o₂ v₁, reconcile intervals record.name
    { w with records := w.records.insert record.name { record with status } } = (o₂, v₁) := ⟨_, _, rfl⟩
  rw [ran, ran'] at reconciled
  rw [ran] at through
  cases reconciled with
  | done both =>
    obtain ⟨rfl, _, _, phase⟩ := both
    obtain ⟨-, rfl⟩ := Prod.mk.inj ((runPass_of_done ran).symm.trans run)
    obtain ⟨-, rfl⟩ := Prod.mk.inj ((runPass_of_done ran').symm.trans run')
    exact phase
  | failed => cases through
  | overflow => cases through

/-- What an earlier pass noted of a machine that runs: it was looked for in vain, and held off. -/
def misnoted : Status := { Status.initial with phase := .paused, failureMessage := some "no answer" }

theorem level_triggered_misnoted :
    let w := World.serving linked
    let v := { w with records := w.records.insert "m" { linked with status := misnoted } }
    let w' := ((runPass .standard "m" : Action Failure Next) w).2
    let v' := ((runPass .standard "m" : Action Failure Next) v).2
    w.records["m"]? = some linked ∧ linked.status.phase ≠ .deleted ∧ misnoted.phase ≠ .deleted ∧
    v'.log = w'.log ∧ v'.host.domains = w'.host.domains ∧ v'.host.pools = w'.host.pools ∧
      ("m" ∈ v'.records ↔ "m" ∈ w'.records) ∧
      ((runPass .standard "m" : Action Failure Next) v).1 =
        ((runPass .standard "m" : Action Failure Next) w).1 ∧
      (linked.name = "m" → (reconcile .standard "m" w).1.isDone = true →
        ∀ a b, w'.records["m"]? = some a → v'.records["m"]? = some b →
          b.status.phase = a.status.phase) :=
  ⟨by decide, by decide, by decide,
    level_triggered (by decide) (by decide) (by decide) (run_halves _ _) (run_halves _ _)⟩

end Reconcile

end MachineKeeper
