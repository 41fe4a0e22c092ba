import MachineKeeper.Machine.Record

/-! What passes make of a status, and what its fields say of one another whatever passes make of it. -/
namespace MachineKeeper

namespace Status

/-- What a pass that went through makes of the status of a machine. -/
inductive Patch (machine : String) : (Status → Status) → Prop
  | moved {phase : Phase}
      (plain : phase ∈ [.awaitingDependencies, .awaitingBootstrap, .creating, .deleting, .paused]) :
      Patch machine ({ · with phase })
  | cleared {phase : Phase} (gone : phase ∈ [.drifted, .deleted]) :
      Patch machine fun s => { s.clearObservations with phase }
  | halted : Patch machine fun s =>
      { s with providerId := some (MachineKeeper.providerId machine), ready := false, phase := .verifying }
  | unreached : Patch machine fun s =>
      { s with providerId := some (MachineKeeper.providerId machine), phase := .verifying }
  | ready {addresses : List Address} (reached : addresses ≠ []) : Patch machine fun s =>
      { s with
        providerId := some (MachineKeeper.providerId machine), addresses, ready := true, provisioned := true
        phase := .ready }

/-- What the fields of a machine's status say of one another. -/
structure Coherent (machine : String) (s : Status) : Prop where
  provisioned_of_ready : s.ready = true → s.provisioned = true
  provisioned_iff : s.provisioned = true ↔ s.addresses ≠ []
  identified : s.providerId = none ∨ s.providerId = some (MachineKeeper.providerId machine)
  identified_of_provisioned : s.provisioned = true → s.providerId ≠ none
  ready_of_phase : s.phase = .ready → s.ready = true
  cleared : s.phase = .drifted ∨ s.phase = .deleted →
    s.ready = false ∧ s.provisioned = false ∧ s.addresses = [] ∧ s.providerId = none

theorem initial_coherent (machine : String) : Coherent machine .initial where
  provisioned_of_ready := nofun
  provisioned_iff := by simp [initial]
  identified := .inl rfl
  identified_of_provisioned := nofun
  ready_of_phase := nofun
  cleared _ := ⟨rfl, rfl, rfl, rfl⟩

theorem Coherent.noted {machine : String} {s : Status} (coherent : s.Coherent machine)
    (failureMessage : Option String) : Coherent machine { s with failureMessage } :=
  ⟨coherent.provisioned_of_ready, coherent.provisioned_iff, coherent.identified,
    coherent.identified_of_provisioned, coherent.ready_of_phase, coherent.cleared⟩

theorem Patch.coherent {machine : String} {patch : Status → Status} {s : Status}
    (patches : Patch machine patch) (coherent : s.Coherent machine) : (patch s).Coherent machine := by
  cases patches with
  | moved plain =>
    exact { coherent with
      ready_of_phase := by rintro rfl; simp at plain
      cleared := by rintro (rfl | rfl) <;> simp at plain }
  | cleared gone =>
    exact {
      provisioned_of_ready := nofun
      provisioned_iff := by simp [clearObservations]
      identified := .inl rfl
      identified_of_provisioned := nofun
      ready_of_phase := by rintro rfl; simp at gone
      cleared := fun _ => ⟨rfl, rfl, rfl, rfl⟩ }
  | halted =>
    exact { coherent with
      provisioned_of_ready := nofun
      identified := .inr rfl
      identified_of_provisioned := nofun
      ready_of_phase := nofun
      cleared := by rintro (same | same) <;> cases same }
  | unreached =>
    exact { coherent with
      identified := .inr rfl
      identified_of_provisioned := nofun
      ready_of_phase := nofun
      cleared := by rintro (same | same) <;> cases same }
  | ready reached =>
    exact {
      provisioned_of_ready := fun _ => rfl
      provisioned_iff := ⟨fun _ => reached, fun _ => rfl⟩
      identified := .inr rfl
      identified_of_provisioned := nofun
      ready_of_phase := fun _ => rfl
      cleared := by rintro (same | same) <;> cases same }

end Status

/-- How passes write a record back. -/
inductive Record.Rewritten (key : String) (record : Record) : Record → Prop
  | published {patch : Status → Status} {version : UInt64} (patches : Status.Patch key patch) :
      Rewritten key record
        { record with status := { patch record.status with failureMessage := none }, version }
  | failed {message : String} {version : UInt64} : Rewritten key record
      { record with status := { record.status with failureMessage := some message }, version }
  | unheld {version : UInt64} : Rewritten key record { record with finalizer := false, version }

end MachineKeeper
