import MachineKeeper.Proofs.Calm

/-! Writes to one record from two sides. Whoever says what is wanted of a machine edits its record, and passes patch
its status; each writes the whole record back, but neither undoes what the other wrote, in whatever order they come. -/
namespace MachineKeeper

/-- An edit of what is wanted of a machine: status and version have no part in it and come out of it as they were. -/
def Record.Edits (edit : Record → Record) : Prop :=
  ∀ (record : Record) (status : Status) (version : UInt64),
    edit { record with status, version } = { edit record with status, version }

def Record.edited (record : Record) (edits : List (Record → Record)) : Record :=
  edits.foldl (fun record edit => edit record) record

def Status.patched (status : Status) (patches : List (Status → Status)) : Status :=
  patches.foldl (fun status patch => patch status) status

/-- The record after edits and patches, each of which counts its version up. -/
def Record.merged (record : Record) (edits : List (Record → Record)) (patches : List (Status → Status)) : Record :=
  { record.edited edits with
    status := record.status.patched patches
    version := record.version + .ofNat (edits.length + patches.length) }

theorem Record.Edits.leaves {edit : Record → Record} (desired : Record.Edits edit) (record : Record) :
    (edit record).status = record.status ∧ (edit record).version = record.version := by
  have same := desired record record.status record.version
  exact ⟨(congrArg Record.status same :), (congrArg Record.version same :)⟩

namespace Record

variable {record : Record} {edits : List (Record → Record)} {patches : List (Status → Status)}

theorem edited_edits (desired : ∀ edit ∈ edits, Edits edit) : Edits (edited · edits) := by
  induction edits with
  | nil => exact fun _ _ _ => rfl
  | cons edit edits ih =>
    intro record status version
    have rest := ih fun edit member => desired edit (List.mem_cons_of_mem _ member)
    calc edited { record with status, version } (edit :: edits)
      _ = edited { edit record with status, version } edits :=
        congrArg (edited · edits) (desired edit List.mem_cons_self record status version)
      _ = { edited record (edit :: edits) with status, version } := rest (edit record) status version

theorem merged_nil (record : Record) : record.merged [] [] = record := by
  have same : record.version + UInt64.ofNat 0 = record.version := UInt64.add_zero _
  simp only [merged, edited, Status.patched, List.foldl_nil, List.length_nil, Nat.add_zero, same]

theorem merged_version (room : record.version.toNat + (edits.length + patches.length) < UInt64.size) :
    (record.merged edits patches).version.toNat = record.version.toNat + (edits.length + patches.length) := by
  have few : edits.length + patches.length < UInt64.size := by omega
  rw [merged, UInt64.toNat_add, UInt64.toNat_ofNat_of_lt' few, Nat.mod_eq_of_lt room]

/-- A status and a version that were changed before have no part in the edits. -/
theorem merged_over (desired : ∀ edit ∈ edits, Edits edit) (record : Record) (status : Status) (version : UInt64) :
    { record with status, version }.merged edits patches = { record.edited edits with
      status := status.patched patches
      version := version + .ofNat (edits.length + patches.length) } := by
  have same : edited { record with status, version } edits = { record.edited edits with status, version } :=
    edited_edits desired record status version
  rw [merged, same]

theorem version_succ (version : UInt64) (n : Nat) : version + .ofNat 1 + .ofNat n = version + .ofNat (n + 1) := by
  rw [UInt64.ofNat_add, UInt64.add_assoc, UInt64.add_comm (.ofNat 1)]

/-- An edit can be made before all else. -/
theorem merged_edit (f : Record → Record) (desired : ∀ edit ∈ edits, Edits edit) :
    (record.merged [f] []).merged edits patches = record.merged (f :: edits) patches := by
  have count : (f :: edits).length + patches.length = edits.length + patches.length + 1 := by
    simp only [List.length_cons]
    omega
  calc (record.merged [f] []).merged edits patches
    _ = { f record with
          status := record.status, version := record.version + UInt64.ofNat 1 }.merged edits patches := rfl
    _ = { (f record).edited edits with
          status := record.status.patched patches
          version := record.version + .ofNat (edits.length + patches.length + 1) } := by
      rw [merged_over desired, version_succ]
    _ = record.merged (f :: edits) patches := by rw [← count]; rfl

theorem merged_patch (f : Status → Status) (desired : ∀ edit ∈ edits, Edits edit) :
    (record.merged [] [f]).merged edits patches = record.merged edits (f :: patches) := by
  calc (record.merged [] [f]).merged edits patches
    _ = { record with
          status := f record.status, version := record.version + UInt64.ofNat 1 }.merged edits patches := rfl
    _ = { record.edited edits with
          status := (f record.status).patched patches
          version := record.version + .ofNat (edits.length + patches.length + 1) } := by
      rw [merged_over desired, version_succ]
    _ = record.merged edits (f :: patches) := rfl

end Record

namespace Store

open MachineKeeper.Action

variable {ε : Type} {w : World} {record : Record} {name : String}

/-- A call that writes to a record. -/
inductive Write
  | edit (f : Record → Record)
  | patch (f : Status → Status)

def Write.run (name : String) : Write → Action Failure Unit
  | .edit f => (fun _ => ()) <$> update name f
  | .patch f => (fun _ => ()) <$> patchStatus name f

/-- Calls one after another, each as a whole. -/
def Write.runAll (name : String) : List Write → Action Failure Unit
  | [] => pure ()
  | call :: rest => do
    call.run name
    runAll name rest

/-- The calls are the edits and the patches, those of each kind in their order. -/
inductive Interleaving : List (Record → Record) → List (Status → Status) → List Write → Prop
  | nil : Interleaving [] [] []
  | edit {edits patches calls} (f : Record → Record) (rest : Interleaving edits patches calls) :
      Interleaving (f :: edits) patches (.edit f :: calls)
  | patch {edits patches calls} (f : Status → Status) (rest : Interleaving edits patches calls) :
      Interleaving edits (f :: patches) (.patch f :: calls)

theorem update_room {edit : Record → Record} (found : w.records[name]? = some record)
    (room : (edit record).version.toNat + 1 < UInt64.size) :
    (update name edit : Action ε (Option Record)) w =
      (.done (some { edit record with version := (edit record).version + 1 }), { w with
        records := w.records.insert name { edit record with version := (edit record).version + 1 } }) := by
  simp only [update, found, map_run, writeBack_room room]

theorem patchStatus_missing {patch : Status → Status} (serves : w.StoreServes) (missing : name ∉ w.records) :
    patchStatus name patch w = (.failed (.unknownMachine name), w) := by
  refine (bind_of_done (meetFaults_served serves (by decide))).trans ?_
  simp only [Std.ExtTreeMap.getElem?_eq_none missing]

theorem run_edit {f : Record → Record} (found : w.records[name]? = some record) (desired : Record.Edits f)
    (room : record.version.toNat + 1 < UInt64.size) : Write.run name (.edit f) w =
      (.done (), { w with records := w.records.insert name (record.merged [f] []) }) := by
  obtain ⟨status, version⟩ := desired.leaves record
  have edited : { f record with version := (f record).version + 1 } = record.merged [f] [] := by
    calc { f record with version := (f record).version + 1 }
      _ = { f record with status := (f record).status, version := (f record).version + 1 } := rfl
      _ = record.merged [f] [] := by rw [status, version]; rfl
  rw [Write.run, map_run, update_room found (version ▸ room), edited]

theorem run_patch {f : Status → Status} (serves : w.StoreServes) (found : w.records[name]? = some record)
    (room : record.version.toNat + 1 < UInt64.size) : Write.run name (.patch f) w =
      (.done (), { w with records := w.records.insert name (record.merged [] [f]) }) := by
  rw [Write.run, map_run, patchStatus_served serves found room]
  rfl

/-- What is left of the calls once one was made finds the record as that call left it. -/
theorem runAll_cons {call : Write} {calls : List Write} {one all : Record} (ran : call.run name w =
      (.done (), { w with records := w.records.insert name one }))
    (rest : Write.runAll name calls { w with records := w.records.insert name one } =
      (.done (), { w with records := (w.records.insert name one).insert name all })) :
    Write.runAll name (call :: calls) w = (.done (), { w with records := w.records.insert name all }) := by
  rw [Write.runAll, bind_of_done ran, rest, Table.insert_insert_self]

theorem runAll_merges {edits : List (Record → Record)} {patches : List (Status → Status)} {calls : List Write}
    (interleaving : Interleaving edits patches calls) (serves : w.StoreServes)
    (desired : ∀ edit ∈ edits, Record.Edits edit) (found : w.records[name]? = some record)
    (room : record.version.toNat + (edits.length + patches.length) < UInt64.size) :
    Write.runAll name calls w =
      (.done (), { w with records := w.records.insert name (record.merged edits patches) }) := by
  induction interleaving generalizing w record with
  | nil => rw [Record.merged_nil, Table.insert_found found, Write.runAll, pure_run]
  | edit f _ ih =>
    simp only [List.length_cons] at room
    have version : (record.merged [f] []).version.toNat = record.version.toNat + 1 :=
      Record.merged_version (by simp only [List.length_cons, List.length_nil]; omega)
    have rest : ∀ edit ∈ _, Record.Edits edit := fun edit member => desired edit (List.mem_cons_of_mem _ member)
    rw [← Record.merged_edit f rest]
    refine runAll_cons (run_edit found (desired f List.mem_cons_self) (by omega)) (ih serves rest
      Std.ExtTreeMap.getElem?_insert_self ?_)
    omega
  | patch f _ ih =>
    simp only [List.length_cons] at room
    have version : (record.merged [] [f]).version.toNat = record.version.toNat + 1 :=
      Record.merged_version (by simp only [List.length_cons, List.length_nil]; omega)
    rw [← Record.merged_patch f desired]
    refine runAll_cons (run_patch serves found (by omega)) (ih serves desired
      Std.ExtTreeMap.getElem?_insert_self ?_)
    omega

/-- However edits and patches of one record come between each other, as long as its version can be counted up all of
them are done, none is lost, and no other record is touched. A record that is not there cannot be patched. -/
theorem writes_merge (name : String) (serves : w.StoreServes) :
    (∀ record edits patches calls, w.records[name]? = some record → (∀ edit ∈ edits, Record.Edits edit) →
      Interleaving edits patches calls →
      record.version.toNat + (edits.length + patches.length) < UInt64.size →
      Write.runAll name calls w =
        (.done (), { w with records := w.records.insert name (record.merged edits patches) }) ∧
      (record.merged edits patches).version.toNat = record.version.toNat + (edits.length + patches.length)) ∧
    ∀ patch, name ∉ w.records → patchStatus name patch w = (.failed (.unknownMachine name), w) := by
  refine ⟨fun record edits patches calls found desired interleaving room => ⟨?_, Record.merged_version room⟩, ?_⟩
  · exact runAll_merges interleaving serves desired found room
  · exact fun patch missing => patchStatus_missing serves missing

def written : Record := { Record.ofSpec (.ofName "m") with version := 7 }

/-- A world with that record and another one. -/
def shared : World :=
  { World.initial with
    records := ((∅ : Table Record).insert "m" written).insert "n" (.ofSpec (.ofName "n")) }

/-- The machine is paused, and then it is to have more processors. -/
def pauseAndGrow : List (Record → Record) :=
  [({ · with paused := true }), fun record => { record with spec := { record.spec with cpu := 8 } }]

/-- Its creation is noted, and then a failure. -/
def noteAndReport : List (Status → Status) :=
  [({ · with phase := .creating }), ({ · with failureMessage := some "slow" })]

theorem writes_merge_shared : shared.StoreServes ∧ (∀ edit ∈ pauseAndGrow, Record.Edits edit) ∧
    ∃ calls w', Interleaving pauseAndGrow noteAndReport calls ∧ Write.runAll "m" calls shared = (.done (), w') ∧
      w'.records["m"]? = some { written with
        paused := true, version := 11
        spec := { written.spec with cpu := 8 }
        status := { written.status with phase := .creating, failureMessage := some "slow" } } ∧
      w'.records["n"]? = shared.records["n"]? ∧
      "o" ∉ shared.records ∧ ∀ patch, patchStatus "o" patch shared = (.failed (.unknownMachine "o"), shared) := by
  have serves : shared.StoreServes := nofun
  have desired : ∀ edit ∈ pauseAndGrow, Record.Edits edit := by
    simp only [pauseAndGrow, List.mem_cons, List.not_mem_nil, or_false, forall_eq_or_imp, forall_eq]
    exact ⟨fun _ _ _ => rfl, fun _ _ _ => rfl⟩
  have interleaving : ∃ calls, Interleaving pauseAndGrow noteAndReport calls :=
    ⟨_, .patch _ (.edit _ (.edit _ (.patch _ .nil)))⟩
  obtain ⟨calls, interleaving⟩ := interleaving
  obtain ⟨ran, _⟩ := (writes_merge "m" serves).1 written pauseAndGrow noteAndReport calls (by decide) desired
    interleaving (by decide)
  have missing : "o" ∉ shared.records := by decide
  exact ⟨serves, desired, calls, _, interleaving, ran, by decide, by decide, missing,
    fun patch => (writes_merge "o" serves).2 patch missing⟩

end Store

end MachineKeeper
