import MachineKeeper.Proofs.Ways

/-! What the fields of a stored status say of one another. They do so whatever comes between the parts
of passes: every write that a pass makes keeps it, and nothing else in a pass touches a record. -/
namespace MachineKeeper

/-- Records stand under their names, with coherent statuses. -/
def World.Sound (w : World) : Prop :=
  ∀ key (record : Record), w.records[key]? = some record → record.name = key ∧ record.status.Coherent key

/-- The worlds that come about by passes from a store without records, by records that are put into it
and edited, and by whatever happens to the host, to secrets and to the calls that are to fail. -/
inductive History (intervals : Intervals) : World → Prop
  | start {w : World} (empty : w.records = ∅) : History intervals w
  | inserted {w : World} (spec : Spec) : History intervals w →
      History intervals (Store.insert (.ofSpec spec) w)
  | edited {w : World} {edit : Record → Record} (name : String)
      (keeps : ∀ record, (edit record).name = record.name ∧ (edit record).status = record.status) :
      History intervals w →
      History intervals ((Store.update name edit : Action Empty (Option Record)) w).2
  | changed {w w' : World} (same : w'.records = w.records) : History intervals w → History intervals w'
  | passed {w : World} (name : String) : History intervals w →
      History intervals ((runPass intervals name : Action Empty Next) w).2

variable {w w' : World} {key : String} {record record' : Record} {records : Table Record}

theorem World.Sound.of_records (sound : w.Sound) (same : w'.records = w.records) : w'.Sound := by
  intro key record found
  rw [same] at found
  exact sound key record found

theorem World.Sound.insert (sound : w.Sound) (named : record.name = key)
    (coherent : record.status.Coherent key) :
    World.Sound { w with records := w.records.insert key record } := by
  intro other old found
  by_cases same : key = other
  · subst same
    obtain rfl := Option.some.inj (Std.ExtTreeMap.getElem?_insert_self.symm.trans found)
    exact ⟨named, coherent⟩
  · exact sound other old (by simpa [Std.ExtTreeMap.getElem?_insert, same] using found)

theorem World.Sound.erase (sound : w.Sound) (key : String) :
    World.Sound { w with records := w.records.erase key } := by
  intro other old found
  refine sound other old ?_
  simp only [Std.ExtTreeMap.getElem?_erase] at found
  split at found
  · cases found
  · exact found

theorem Record.Rewritten.name (rewritten : Rewritten key record record') :
    record'.name = record.name := by
  cases rewritten <;> rfl

theorem Record.Rewritten.coherent (rewritten : Rewritten key record record')
    (coherent : record.status.Coherent key) : record'.status.Coherent key := by
  cases rewritten with
  | published patches => exact (patches.coherent coherent).noted none
  | failed => exact coherent.noted _
  | unheld => exact coherent

theorem Store.Edited.sound (edited : Edited w.records records) (sound : w.Sound) :
    World.Sound { w with records } := by
  cases edited with
  | written found rewritten =>
    obtain ⟨named, coherent⟩ := sound _ _ found
    exact sound.insert (rewritten.name.trans named) (rewritten.coherent coherent)
  | dropped => exact sound.erase _

theorem Store.update_sound {edit : Record → Record} (name : String)
    (keeps : ∀ record, (edit record).name = record.name ∧ (edit record).status = record.status)
    (sound : w.Sound) : ((Store.update name edit : Action Empty (Option Record)) w).2.Sound := by
  rcases update_cases name w with same | ⟨record, version, found, same⟩
  · rwa [same]
  · obtain ⟨named, coherent⟩ := sound _ _ found
    obtain ⟨sameName, sameStatus⟩ := keeps record
    have still : Status.Coherent name (edit record).status := sameStatus ▸ coherent
    rw [same]
    exact sound.insert (sameName.trans named) still

namespace Reconcile

variable {ok : Request → Prop} {intervals : Intervals} {name : String}

theorem Travels.sound (way : Travels ok w w') (sound : w.Sound) : w'.Sound := by
  induction way with
  | refl => exact sound
  | faults site _ ih => exact ih.of_records rfl
  | write edited _ ih => exact edited.sound ih
  | reach _ path ih => exact ih.of_records path.store.records

theorem history_sound (history : History intervals w) : w.Sound := by
  induction history with
  | start empty =>
    intro key record found
    simp [empty] at found
  | inserted spec _ ih => exact ih.insert rfl (Status.initial_coherent _)
  | edited name keeps _ ih => exact Store.update_sound name keeps ih
  | changed same _ ih => exact ih.of_records same
  | passed name _ ih => exact (runPass_travels intervals name _).sound ih

/-- Whatever fails in passes and whatever happens between them: a ready machine is provisioned, one is
provisioned exactly if it has addresses, and its provider's name for it is known by then; the phase says
ready only of ready machines; and nothing is left of what was seen of a machine that is gone. -/
theorem history_coherent (history : History intervals w) (found : w.records[name]? = some record) :
    record.status.Coherent record.name := by
  obtain ⟨rfl, coherent⟩ := history_sound history name record found
  exact coherent

/-- A host on which a machine runs as it is asked for, and can be reached. -/
def attended : World :=
  let w := World.serving (.ofSpec (.ofName "m"))
  { w with
    host := w.host.updateDomain "m" ({ · with interfaces := [⟨"vnet0", none, ["192.168.122.10"]⟩] })
    records := ∅ }

/-- The machine has a record, which was linked to the rest. -/
def joined : World :=
  (Store.update "m" ({ · with prerequisites := .all }) (Store.insert (.ofSpec (.ofName "m")) attended) :
    Outcome Empty (Option Record) × World).2

def greeted : World := ((runPass .standard "m" : Action Empty Next) joined).2

theorem greeted_history : History .standard greeted :=
  .passed "m" (.edited "m" (fun _ => ⟨rfl, rfl⟩) (.inserted (.ofName "m") (.start rfl)))

theorem history_coherent_greeted : ∃ record, greeted.records["m"]? = some record ∧
    record.status.phase = .ready ∧ record.status.Coherent record.name := by
  have ready : (greeted.records["m"]?.map (·.status.phase)) = some .ready := by decide +kernel
  obtain ⟨record, found, phase⟩ := Option.map_eq_some_iff.mp ready
  exact ⟨record, found, phase, history_coherent greeted_history found⟩

end Reconcile

end MachineKeeper
