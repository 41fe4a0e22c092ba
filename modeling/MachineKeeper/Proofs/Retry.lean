import MachineKeeper.Proofs.Deletion
import MachineKeeper.Proofs.Release

/-! Passes over a record whose deletion is requested, where calls may fail at any point. What a pass
does not get done a later one does, with one exception: a record is marked as deleted before its
finalizer is removed, and one that is marked is passed over from then on. -/
namespace MachineKeeper

/-- A failure without a context. -/
def Failure.Bare : Failure → Prop
  | .context _ _ => False
  | _ => True

namespace Reconcile

open Session Lifecycle Store MachineKeeper.Action

variable {ε α : Type} {w w' : World} {name : String} {record : Record} {phase next : Phase}
  {intervals : Intervals}

/-- Something came to no end, for a reason that no context was put around. -/
def Stopped : Outcome Failure α → Prop
  | .done _ => False
  | .failed failure => failure.Bare
  | .overflow => True

/-- A pass could not remove the finalizer. -/
def Withheld (name : String) (o : Outcome Failure Next) : Prop :=
  ∃ cause, o = .failed (.context s!"failed to remove finalizer from machine '{name}'" cause)

theorem Stopped.not_withheld {o : Outcome Failure Next} (stopped : Stopped o) : ¬ Withheld name o := by
  rintro ⟨cause, rfl⟩
  exact stopped

/-- A record in the store whose deletion is requested, with its phase. -/
def Doomed (name : String) (phase : Phase) (w : World) : Prop :=
  ∃ record, w.records[name]? = some record ∧ record.name = name ∧ record.deletionRequested = true ∧
    record.status.phase = phase

theorem Doomed.of_records (doomed : Doomed name phase w) (same : w'.records = w.records) :
    Doomed name phase w' := by
  rwa [Doomed, same]

theorem meetFaults_ends {site : StoreSite} {o : Outcome Failure Unit}
    (run : Store.meetFaults site w = (o, w')) : w'.records = w.records ∧ (o = .done () ∨ Stopped o) := by
  obtain ⟨rfl, rfl⟩ := Prod.mk.inj run
  refine ⟨rfl, ?_⟩
  rcases (Fault.fire (Fault.due site w.storeFaults) w.host).1 with _ | text | _
  · exact .inl rfl
  · exact .inr trivial
  · exact .inr trivial

theorem get_ends {o : Outcome Failure (Option Record)} (run : get name w = (o, w')) :
    w'.records = w.records ∧ (o = .done w.records[name]? ∨ Stopped o) := by
  rcases bind_cases run with ⟨_, w₁, met, rest⟩ | ⟨e, met, rfl⟩ | ⟨met, rfl⟩ <;>
    obtain ⟨records, ended⟩ := meetFaults_ends met
  · obtain ⟨rfl, rfl⟩ := Prod.mk.inj rest
    exact ⟨records, .inl (by rw [records])⟩
  · exact ⟨records, .inr (ended.resolve_left (by nofun))⟩
  · exact ⟨records, .inr trivial⟩

/-- A status is changed as a whole or not at all. -/
theorem patchStatus_ends {patch : Status → Status} {o : Outcome Failure Status}
    (doomed : Doomed name phase w)
    (marks : ∀ status, status.phase = phase → (patch status).phase = next)
    (run : patchStatus name patch w = (o, w')) :
    (∃ status, o = .done status) ∧ Doomed name next w' ∨ Stopped o ∧ Doomed name phase w' := by
  rcases bind_cases run with ⟨_, w₁, met, rest⟩ | ⟨e, met, rfl⟩ | ⟨met, rfl⟩ <;>
    obtain ⟨records, ended⟩ := meetFaults_ends met
  · obtain ⟨record, found, named, requested, rfl⟩ := doomed.of_records records
    simp only [found, map_run, writeBack] at rest
    cases counted : nextVersion? record.version with
    | some version =>
      rw [counted] at rest
      obtain ⟨rfl, rfl⟩ := Prod.mk.inj rest
      exact .inl ⟨⟨_, rfl⟩, _, Std.ExtTreeMap.getElem?_insert_self, named, requested, marks _ rfl⟩
    | none =>
      rw [counted] at rest
      obtain ⟨rfl, rfl⟩ := Prod.mk.inj rest
      exact .inr ⟨trivial, record, found, named, requested, rfl⟩
  · exact .inr ⟨ended.resolve_left (by nofun), doomed.of_records records⟩
  · exact .inr ⟨trivial, doomed.of_records records⟩

theorem publish_ends {patch : Status → Status} {o : Outcome Failure Unit} (doomed : Doomed name phase w)
    (marks : ∀ status, (patch status).phase = next) (run : publish name patch w = (o, w')) :
    o = .done () ∧ Doomed name next w' ∨ Stopped o ∧ Doomed name phase w' := by
  have marks' : ∀ status : Status, status.phase = phase →
      ({ patch status with failureMessage := none } : Status).phase = next :=
    fun status _ => marks status
  rcases bind_cases run with ⟨_, w₁, patched, rest⟩ | ⟨e, patched, rfl⟩ | ⟨patched, rfl⟩ <;>
    rcases patchStatus_ends doomed marks' patched with ⟨⟨_, same⟩, marked⟩ | ⟨stopped, same⟩
  · obtain ⟨rfl, rfl⟩ := Prod.mk.inj rest
    exact .inl ⟨rfl, marked⟩
  · exact stopped.elim
  · cases same
  · exact .inr ⟨stopped, same⟩
  · cases same
  · exact .inr ⟨trivial, same⟩

theorem removeFinalizer_ends {o : Outcome Failure Unit} (quiet : w.Undisturbed)
    (doomed : Doomed name phase w) (run : removeFinalizer name w = (o, w')) :
    o = .done () ∧ w'.records[name]? = none ∨ (∃ cause, o = .failed cause) ∧ Doomed name phase w' := by
  rcases bind_cases run with ⟨_, w₁, met, rest⟩ | ⟨e, met, rfl⟩ | ⟨met, rfl⟩
  · obtain ⟨record, found, _, requested, _⟩ := doomed.of_records (meetFaults_ends met).1
    simp only [found, requested, ↓reduceIte] at rest
    obtain ⟨rfl, rfl⟩ := Prod.mk.inj rest
    exact .inl ⟨rfl, Std.ExtTreeMap.getElem?_erase_self⟩
  · exact .inr ⟨⟨e, rfl⟩, doomed.of_records (meetFaults_ends met).1⟩
  · obtain ⟨_, _, same | ⟨_, same⟩⟩ := Store.meetFaults_cases quiet met <;> cases same

/-- How a record that was in `phase` is left: it is gone, or it is marked as deleted exactly if it was so
before or its finalizer could not be removed. -/
def Ends (name : String) (phase : Phase) (o : Outcome Failure Next) (w : World) : Prop :=
  w.records[name]? = none ∨
    ∃ phase', Doomed name phase' w ∧ (phase' = .deleted ↔ phase = .deleted ∨ Withheld name o)

section
variable {phase' : Phase} {o : Outcome Failure Next}

theorem Ends.unmarked (other : ¬ Withheld name o) (doomed : Doomed name phase' w)
    (same : phase' = .deleted ↔ phase = .deleted) : Ends name phase o w :=
  .inr ⟨phase', doomed, by rw [same, or_iff_left other]⟩

theorem Ends.stopped (stopped : Stopped o) (doomed : Doomed name phase w) : Ends name phase o w :=
  .unmarked stopped.not_withheld doomed .rfl

theorem letGo_ends (quiet : w.Undisturbed) (doomed : Doomed record.name phase w)
    (run : letGo record w = (o, w')) : Ends record.name phase o w' := by
  rcases bind_cases run with ⟨_, w₁, marked, rest⟩ | ⟨e, marked, rfl⟩ | ⟨marked, rfl⟩ <;>
    rcases publish_ends doomed (by exact fun _ => rfl) marked with ⟨done, doomed₁⟩ | ⟨stopped, doomed₁⟩
  · have quiet₁ := ((publish_keeps stays_store (.cleared (by decide))).of_run marked quiet).undisturbed quiet
    rcases bind_cases rest with ⟨_, w₂, removed, rest⟩ | ⟨e, removed, rfl⟩ | ⟨removed, rfl⟩ <;>
      obtain ⟨o₂, removed, same⟩ := mapError_cases removed <;>
      rcases removeFinalizer_ends quiet₁ doomed₁ removed with ⟨rfl, gone⟩ | ⟨⟨cause, rfl⟩, doomed₂⟩ <;>
      cases same
    · obtain ⟨rfl, rfl⟩ := Prod.mk.inj rest
      exact .inl gone
    · exact .inr ⟨.deleted, doomed₂, fun _ => .inr ⟨cause, rfl⟩, fun _ => rfl⟩
  · exact stopped.elim
  · cases done
  · exact .stopped stopped doomed₁
  · cases done
  · exact .stopped trivial doomed₁

theorem destroy_not_withheld (key : String) (cause : Failure) : ¬ Withheld name
    (.failed (.context s!"failed to destroy virtual machine '{key}'" cause)) := by
  rintro ⟨cause', same⟩
  simp only [Outcome.failed.injEq, Failure.context.injEq] at same
  have letters := congrArg String.toList same.1
  simp [toString, String.toList_append] at letters

theorem eject_ends {o : Outcome Failure Unit} (run : eject record w = (o, w')) :
    w'.records = w.records ∧
      (o = .done () ∨ ∃ failure, o = .failed failure ∧ ¬ Withheld record.name (.failed failure)) := by
  refine ⟨((eject_stays_store record).of_run run).records, ?_⟩
  rcases bind_cases run with ⟨found, w₁, probed, rest⟩ | ⟨e, probed, rfl⟩ | ⟨probed, rfl⟩
  · cases found with
    | false =>
      obtain ⟨rfl, rfl⟩ := Prod.mk.inj rest
      exact .inl rfl
    | true =>
      rcases apart_cases rest with ⟨_, _, rfl⟩ | ⟨e, _, rfl⟩ | ⟨_, rfl⟩
      · exact .inl rfl
      · exact .inr ⟨_, rfl, destroy_not_withheld _ _⟩
      · exact .inr ⟨_, rfl, Stopped.not_withheld trivial⟩
  · rcases apart_cases probed with ⟨_, _, same⟩ | ⟨_, _, same⟩ | ⟨_, same⟩ <;> cases same
    · exact .inr ⟨_, rfl, Stopped.not_withheld trivial⟩
    · exact .inr ⟨_, rfl, Stopped.not_withheld trivial⟩
  · rcases apart_cases probed with ⟨_, _, same⟩ | ⟨_, _, same⟩ | ⟨_, same⟩ <;> cases same

theorem remove_ends (quiet : w.Undisturbed) (doomed : Doomed record.name phase w)
    (alive : phase ≠ .deleted) (run : remove record w = (o, w')) : Ends record.name phase o w' := by
  have unmarked : Phase.deleting = .deleted ↔ phase = .deleted := by simp [alive]
  rw [remove_eq] at run
  rcases bind_cases run with ⟨_, w₁, begun, rest⟩ | ⟨e, begun, rfl⟩ | ⟨begun, rfl⟩ <;>
    rcases publish_ends doomed (by exact fun _ => rfl) begun with ⟨done, doomed₁⟩ | ⟨stopped, doomed₁⟩
  · have quiet₁ := ((publish_keeps stays_store (.moved (by decide))).of_run begun quiet).undisturbed quiet
    rcases bind_cases rest with ⟨_, w₂, ejected, rest⟩ | ⟨e, ejected, rfl⟩ | ⟨ejected, rfl⟩ <;>
      have quiet₂ := ((eject_stays_store record).of_run ejected).undisturbed quiet₁ <;>
      obtain ⟨records, same | ⟨_, same, other⟩⟩ := eject_ends ejected <;>
      cases same
    · simpa only [Ends, unmarked] using letGo_ends quiet₂ (doomed₁.of_records records) rest
    · exact .unmarked other (doomed₁.of_records records) unmarked
  · exact stopped.elim
  · cases done
  · exact .stopped stopped doomed₁
  · cases done
  · exact .stopped trivial doomed₁

theorem pause_ends (doomed : Doomed name phase w) (alive : phase ≠ .deleted)
    (run : (do publish name ({ · with phase := .paused }); return Next.after intervals.paused) w =
      (o, w')) : Ends name phase o w' := by
  rcases bind_cases run with ⟨_, w₁, begun, rest⟩ | ⟨e, begun, rfl⟩ | ⟨begun, rfl⟩ <;>
    rcases publish_ends doomed (by exact fun _ => rfl) begun with ⟨done, doomed₁⟩ | ⟨stopped, doomed₁⟩
  · obtain ⟨rfl, rfl⟩ := Prod.mk.inj rest
    exact .unmarked (by rintro ⟨_, ⟨⟩⟩) doomed₁ (by simp [alive])
  · exact stopped.elim
  · cases done
  · exact .stopped stopped doomed₁
  · cases done
  · exact .stopped trivial doomed₁

theorem step_ends (quiet : w.Undisturbed) (found : w.records[record.name]? = some record)
    (requested : record.deletionRequested = true) (run : step intervals record w = (o, w')) :
    Ends record.name record.status.phase o w' := by
  have doomed : Doomed record.name record.status.phase w := ⟨record, found, rfl, requested, rfl⟩
  by_cases gone : record.status.phase = .deleted
  · rw [step, if_pos gone] at run
    obtain ⟨rfl, rfl⟩ := Prod.mk.inj run
    exact .unmarked (by rintro ⟨_, ⟨⟩⟩) doomed .rfl
  cases looked : record.paused with
  | true =>
    rw [step_paused gone looked] at run
    exact pause_ends doomed gone run
  | false =>
    rw [step_doomed gone looked requested] at run
    exact remove_ends quiet doomed gone run

theorem reconcile_ends (quiet : w.Undisturbed) (doomed : Doomed name phase w)
    (run : reconcile intervals name w = (o, w')) : Ends name phase o w' := by
  obtain ⟨record, found, rfl, requested, rfl⟩ := id doomed
  rcases bind_cases run with ⟨_, w₁, got, rest⟩ | ⟨e, got, rfl⟩ | ⟨got, rfl⟩ <;>
    obtain ⟨records, same | stopped⟩ := get_ends got
  · cases same
    have quiet₁ := (get_cases quiet got).1.undisturbed quiet
    rw [found] at rest
    exact step_ends quiet₁ (by rw [records, found]) requested rest
  · exact stopped.elim
  · cases same
  · exact .stopped stopped (doomed.of_records records)
  · cases same
  · exact .stopped trivial (doomed.of_records records)

end

theorem reconcile_gone {o : Outcome Failure Next} (gone : w.records[name]? = none)
    (run : reconcile intervals name w = (o, w')) : w'.records = w.records := by
  rcases bind_cases run with ⟨_, w₁, got, rest⟩ | ⟨e, got, rfl⟩ | ⟨got, rfl⟩ <;>
    obtain ⟨records, same | stopped⟩ := get_ends got
  · cases same
    rw [gone] at rest
    obtain ⟨rfl, rfl⟩ := Prod.mk.inj rest
    exact records
  · exact stopped.elim
  all_goals exact records

theorem patchStatus_gone {patch : Status → Status} (gone : w.records[name]? = none) :
    (patchStatus name patch w).2.records = w.records := by
  rcases bind_cases (run_halves (patchStatus name patch) w) with
    ⟨_, w₁, met, rest⟩ | ⟨e, met, _⟩ | ⟨met, _⟩ <;>
    have records := (meetFaults_ends met).1
  · rw [← records] at gone
    simp only [gone] at rest
    rw [← (Prod.mk.inj rest).2, records]
  all_goals exact records

theorem handleFailure_world (intervals : Intervals) (name : String) (failure : Failure) (w : World) :
    ((handleFailure intervals name failure : Action ε Next) w).2 =
      (patchStatus name ({ · with failureMessage := some failure.message }) w).2 := by
  rw [handleFailure, bind_run, attempt]
  rcases patchStatus name _ w with ⟨_ | _ | _, w₁⟩ <;> rfl

theorem handleFailure_doomed (failure : Failure) (doomed : Doomed name phase w) :
    Doomed name phase ((handleFailure intervals name failure : Action ε Next) w).2 := by
  rw [handleFailure_world]
  have kept : ∀ status : Status, status.phase = phase →
      ({ status with failureMessage := some failure.message } : Status).phase = phase :=
    fun _ same => same
  rcases patchStatus_ends doomed kept (run_halves _ w) with ⟨_, doomed₁⟩ | ⟨_, doomed₁⟩ <;>
    exact doomed₁

theorem runPass_ends (quiet : w.Undisturbed) (doomed : Doomed name phase w) :
    Ends name phase (reconcile intervals name w).1
      ((runPass intervals name : Action ε Next) w).2 := by
  obtain ⟨o₁, w₁, ran, same | ⟨failure, noted⟩⟩ :=
    runPass_parts (run_halves (runPass intervals name : Action ε Next) w)
  · rw [same, ran]
    exact reconcile_ends quiet doomed ran
  · rw [ran]
    rw [← congrArg Prod.snd noted]
    rcases reconcile_ends quiet doomed ran with gone | ⟨phase', doomed₁, marked⟩
    · left
      rw [handleFailure_world, patchStatus_gone gone, gone]
    · exact .inr ⟨phase', handleFailure_doomed failure doomed₁, marked⟩

theorem runPass_gone (gone : w.records[name]? = none) :
    ((runPass intervals name : Action ε Next) w).2.records[name]? = none := by
  obtain ⟨o₁, w₁, ran, same | ⟨failure, noted⟩⟩ :=
    runPass_parts (run_halves (runPass intervals name : Action ε Next) w)
  · rw [same, reconcile_gone gone ran, gone]
  · have gone₁ : w₁.records[name]? = none := by rw [reconcile_gone gone ran, gone]
    rw [← congrArg Prod.snd noted, handleFailure_world, patchStatus_gone gone₁, gone₁]

/-- Passes over one record, with how each of them ended, the latest first. In between anything may
happen to the host, to the secrets and to the record, but nobody takes the deletion back and only
passes write a phase. -/
inductive Attempts (intervals : Intervals) (name : String) (w₀ : World) :
    List (Outcome Failure Next) → World → Prop
  | start : Attempts intervals name w₀ [] w₀
  | pass {outcomes : List (Outcome Failure Next)} {w : World}
      (before : Attempts intervals name w₀ outcomes w) (quiet : w.Undisturbed) :
      Attempts intervals name w₀ ((reconcile intervals name w).1 :: outcomes)
        ((runPass intervals name : Action Failure Next) w).2
  | meanwhile {outcomes : List (Outcome Failure Next)} {w w' : World}
      (before : Attempts intervals name w₀ outcomes w)
      (kept : ∀ record, w'.records[name]? = some record →
        record.name = name ∧ record.deletionRequested = true ∧ Doomed name record.status.phase w) :
      Attempts intervals name w₀ outcomes w'

theorem Doomed.unique {phase' : Phase} (doomed : Doomed name phase w) (doomed' : Doomed name phase' w) :
    phase = phase' := by
  obtain ⟨record, found, _, _, rfl⟩ := doomed
  obtain ⟨record', found', _, _, rfl⟩ := doomed'
  obtain rfl := Option.some.inj (found.symm.trans found')
  rfl

/-- A record that is still there after a run is marked as deleted exactly if it was so at the start or a
pass of the run could not remove its finalizer. -/
theorem Attempts.ends {w₀ : World} {outcomes : List (Outcome Failure Next)}
    (run : Attempts intervals name w₀ outcomes w) (start : Doomed name phase w₀) :
    w.records[name]? = none ∨ ∃ phase', Doomed name phase' w ∧
      (phase' = .deleted ↔ phase = .deleted ∨ ∃ o ∈ outcomes, Withheld name o) := by
  induction run with
  | start => exact .inr ⟨phase, start, by simp⟩
  | pass before quiet ih =>
    rcases ih with gone | ⟨phase₁, doomed₁, marked₁⟩
    · exact .inl (runPass_gone gone)
    · rcases runPass_ends quiet doomed₁ with gone | ⟨phase₂, doomed₂, marked₂⟩
      · exact .inl gone
      · refine .inr ⟨phase₂, doomed₂, ?_⟩
        simp only [marked₂, marked₁, List.mem_cons, exists_eq_or_imp]
        exact or_assoc.trans (or_congr_right or_comm)
  | @meanwhile outcomes w w' before kept ih =>
    -- A record that is there again has the phase that some pass before left.
    cases found : w'.records[name]? with
    | none => exact .inl rfl
    | some record =>
      obtain ⟨named, requested, doomed⟩ := kept record found
      have doomed' : Doomed name record.status.phase w' := ⟨record, found, named, requested, rfl⟩
      rcases ih with gone | ⟨phase', doomed₁, marked⟩
      · obtain ⟨_, there, _⟩ := doomed
        cases gone.symm.trans there
      · obtain rfl := doomed.unique doomed₁
        exact .inr ⟨_, doomed', marked⟩

/-- After passes in which anything may have failed, one in which nothing does lets go of the record,
unless the record was marked as deleted before or a pass could not remove its finalizer. -/
theorem retried_iff {w₀ : World} {outcomes : List (Outcome Failure Next)}
    (run : Attempts intervals name w₀ outcomes w) (start : Doomed name phase w₀)
    (found : w.records[name]? = some record) (looked : record.paused = false) (calm : w.Calm) :
    ((runPass intervals name : Action ε Next) w).2.records[name]? = none ↔
      phase ≠ .deleted ∧ (∀ o ∈ outcomes, ¬ Withheld name o) ∧
        record.version.toNat + 2 < UInt64.size := by
  rcases run.ends start with gone | ⟨phase', doomed, marked⟩
  · cases found.symm.trans gone
  obtain ⟨_, found', rfl, requested, rfl⟩ := doomed
  obtain rfl := Option.some.inj (found.symm.trans found')
  rw [runPass_releases_iff calm found requested]
  constructor
  · rintro ⟨alive, _, room⟩
    rw [Ne, marked, not_or] at alive
    exact ⟨alive.1, fun o member held => alive.2 ⟨o, member, held⟩, room⟩
  · rintro ⟨fresh, unheld, room⟩
    refine ⟨fun gone => ?_, looked, room⟩
    rcases marked.mp gone with old | ⟨o, member, held⟩
    · exact fresh old
    · exact unheld o member held

/-- A machine that is to go, whose domain cannot be undefined the first time. -/
def busy : World :=
  { World.serving doomed with
    hostFaults := [⟨.call .undefineDomain, 1, some (.call (.other "busy")), []⟩] }

/-- One whose finalizer cannot be removed the first time. -/
def conflicting : World :=
  { World.serving doomed with storeFaults := [⟨.removeFinalizer, 1, some "conflict", []⟩] }

def passed (w : World) : World := ((runPass .standard "m" : Action Failure Next) w).2

theorem passed_calm (faults : (passed w).hostFaults.isEmpty && (passed w).storeFaults.isEmpty &&
      (passed w).host.failing.isEmpty && !(passed w).host.refusesConnections) : (passed w).Calm := by
  simp only [Bool.and_eq_true, List.isEmpty_iff, Bool.not_eq_true'] at faults
  exact ⟨faults.1.1.1, faults.1.1.2, faults.1.2, faults.2⟩

theorem retried_iff_busy : (passed (passed busy)).records["m"]? = none := by
  have run : Attempts .standard "m" busy [(reconcile .standard "m" busy).1] (passed busy) :=
    .pass .start ⟨by decide, by decide⟩
  have ended : (reconcile .standard "m" busy).1 =
      .failed (.context "failed to destroy virtual machine 'm'" (.error
        (.host "failed to undefine domain 'm'" (.call (.other "busy"))))) := by decide +kernel
  have found : (passed busy).records["m"]? = some { doomed with
      status.phase := .deleting
      status.failureMessage := some
        "failed to destroy virtual machine 'm': failed to undefine domain 'm': busy: busy"
      version := 2 } := by decide +kernel
  refine (retried_iff run ⟨doomed, by decide, rfl, rfl, rfl⟩ found rfl
    (passed_calm (by decide +kernel))).mpr ⟨by decide, ?_, by decide⟩
  rintro o member ⟨cause, held⟩
  rw [List.mem_singleton.mp member, ended] at held
  simp only [Outcome.failed.injEq, Failure.context.injEq] at held
  exact absurd held.1 (by decide)

/-- It is not so that a deletion can always be retried. -/
theorem retried_passed_over : ¬ ∀ (w₀ w : World) (outcomes : List (Outcome Failure Next))
    (phase : Phase) (record : Record), Attempts .standard "m" w₀ outcomes w → Doomed "m" phase w₀ →
    phase ≠ .deleted → w.records["m"]? = some record → record.paused = false →
    record.version.toNat + 2 < UInt64.size → w.Calm → (passed w).records["m"]? = none := by
  intro claimed
  have run : Attempts .standard "m" conflicting [(reconcile .standard "m" conflicting).1]
    (passed conflicting) := .pass .start ⟨by decide, by decide⟩
  have found : (passed conflicting).records["m"]? = some { doomed with
      status.phase := .deleted
      status.failureMessage := some
        "failed to remove finalizer from machine 'm': conflict"
      version := 3 } := by decide +kernel
  have gone := claimed _ _ _ _ _ run ⟨doomed, by decide, rfl, rfl, rfl⟩ (by decide) found rfl
    (by decide) (passed_calm (by decide +kernel))
  exact absurd gone (by decide +kernel)

end Reconcile

end MachineKeeper
