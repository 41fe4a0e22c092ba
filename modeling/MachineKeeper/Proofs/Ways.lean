import MachineKeeper.Proofs.Rules

/-! The ways that passes take: through the store, and over connections by requests that say what a part
of a pass is for. Whatever each such step keeps is kept by a whole pass, whatever fails in it. -/
namespace MachineKeeper.Reconcile

open Session Lifecycle MachineKeeper.Action

variable {ε α : Type} {w w' : World} {ok ok' : Request → Prop} {name : String} {record : Record}
  {intervals : Intervals}

/-- The worlds that are reached through the store and over connections by requests that `ok` allows. -/
inductive Travels (ok : Request → Prop) (w : World) : World → Prop
  | refl : Travels ok w w
  | faults {w₁ : World} (site : StoreSite) : Travels ok w w₁ → Travels ok w (Store.meetFaults site w₁).2
  | write {w₁ : World} {records : Table Record} (edited : Store.Edited w₁.records records) :
      Travels ok w w₁ → Travels ok w { w₁ with records }
  | reach {w₁ w₂ : World} : Travels ok w w₁ → Reaches ok w₁ w₂ → Travels ok w w₂

theorem travels_frame : Frame (Travels ok) where
  refl _ := .refl
  trans := by
    intro a b c first second
    induction second with
    | refl => exact first
    | faults site _ ih => exact .faults site ih
    | write edited _ ih => exact .write edited ih
    | reach _ path ih => exact .reach ih path

theorem Travels.mono (way : Travels ok w w') (weaker : ∀ r, ok r → ok' r) : Travels ok' w w' := by
  induction way with
  | refl => exact .refl
  | faults site _ ih => exact .faults site ih
  | write edited _ ih => exact .write edited ih
  | reach _ path ih => exact .reach ih (path.mono weaker)

theorem reaches_travels (path : Reaches ok w w') : Travels ok w w' := .reach .refl path

theorem Travels.logs (way : Travels ok w w') : Logs (Event.Within ok) w w' := by
  induction way with
  | refl => exact logs_frame.refl w
  | faults site _ ih => exact ih
  | write _ _ ih => exact ih
  | reach _ path ih => exact logs_frame.trans ih path.logs

theorem Travels.secrets (way : Travels ok w w') : w'.secrets = w.secrets := by
  induction way with
  | refl => rfl
  | faults site _ ih => exact ih
  | write _ _ ih => exact ih
  | reach _ path ih => exact path.store.secrets.trans ih

theorem Travels.calm (way : Travels ok w w') (calm : w.Calm) : w'.Calm := by
  induction way with
  | refl => exact calm
  | faults site _ ih => exact (Store.stays_store.faults site _ ih.undisturbed).calm ih
  | write _ _ ih => exact ⟨ih.hostFaults, ih.storeFaults, ih.able, ih.accepts⟩
  | reach _ path ih => exact path.calm ih

theorem travels_store : Store.StoreFrame (Travels ok) where
  toFrame := travels_frame
  faults site := fun _ => .faults site .refl
  write edited := .write edited .refl

theorem apart_travels {report : Error → Failure} {op : Action Error α} (within : op.Keeps (Reaches ok)) :
    (apart report op).Keeps (Travels ok) :=
  apart_keeps (within.mono reaches_travels) report

theorem eject_travels (record : Record) :
    (eject record).Keeps (Travels (Discards record.name record.spec.storagePool)) :=
  eject_keeps travels_frame record
    ((isDefined_reaches _).mono fun path => reaches_travels (path.mono fun _ => .inl))
    ((destroy_reaches _ _).mono fun path => reaches_travels (path.mono fun _ => .inr))

theorem remove_travels (record : Record) :
    (remove record).Keeps (Travels (Discards record.name record.spec.storagePool)) :=
  remove_keeps travels_store record (eject_travels record)

theorem discard_travels (intervals : Intervals) (record : Record) :
    (discard intervals record).Keeps (Travels (TearsDown record.name record.spec.storagePool)) :=
  discard_keeps travels_store intervals record ((destroy_reaches _ _).mono reaches_travels)

theorem build_travels (intervals : Intervals) (record : Record) :
    (build intervals record).Keeps (Travels (Provisions record.spec)) :=
  build_keeps travels_store intervals record fun userData =>
    (create_reaches { record.spec with userData }).mono reaches_travels

/-- What builds a machine reads a cloud-config, makes the machine from that, and tells of it; or it stops
before and makes nothing. -/
theorem build_ways {o : Outcome Failure Next} (run : build intervals record w = (o, w')) :
    Travels (fun _ => False) w w' ∨ ∃ text w₁ o₁ w₂, cloudConfig record w = (.done (some text), w₁) ∧
      Travels (fun _ => False) w w₁ ∧ create { record.spec with userData := text } w₁ = (o₁, w₂) ∧
      Travels (fun _ => False) w₂ w' := by
  have reads : (cloudConfig record).Keeps (Travels fun _ => False) :=
    cloudConfig_keeps travels_frame travels_store.secret record
  rcases bind_cases run with ⟨found, w₁, read, rest⟩ | ⟨e, read, _⟩ | ⟨read, _⟩
  · have way := reads.of_run read
    cases found with
    | none =>
      exact .inl (travels_frame.trans way ((report_keeps travels_store (.moved (by decide)) _).of_run rest))
    | some text =>
      right
      rcases bind_cases rest with ⟨_, w₂, tried, told⟩ | ⟨e, tried, _⟩ | ⟨tried, _⟩ <;>
        obtain ⟨o₁, made⟩ := apart_ran tried
      · exact ⟨text, w₁, o₁, w₂, read, way, made,
          (report_keeps travels_store (.moved (by decide)) _).of_run told⟩
      · exact ⟨text, w₁, o₁, w', read, way, made, .refl⟩
      · exact ⟨text, w₁, o₁, w', read, way, made, .refl⟩
  · exact .inl (reads.of_run read)
  · exact .inl (reads.of_run read)

theorem observe_travels (intervals : Intervals) (record : Record) :
    (observe intervals record).Keeps (Travels (Observes record.name)) :=
  observe_keeps travels_store intervals record ((isRunning_reaches _).mono reaches_travels)
    ((addresses_reaches _).mono reaches_travels)

/-- A step only looks at the machine, or it does one thing to it, in most cases once it has looked. -/
theorem step_ways {o : Outcome Failure Next} (run : step intervals record w = (o, w')) :
    Travels (Observes record.name) w w' ∨ remove record w = (o, w') ∨
    ∃ w₁, Travels (Observes record.name) w w₁ ∧
      (discard intervals record w₁ = (o, w') ∨ build intervals record w₁ = (o, w')) := by
  have looks : (apart .error (probe record.spec)).Keeps (Travels (Observes record.name)) :=
    apart_travels (probe_reaches record.spec)
  cases step_stepped run with
  | gone => exact .inl .refl
  | paused _ ran | unlinked _ ran =>
    exact .inl ((report_keeps travels_store (.moved (by decide)) _).of_run ran)
  | removed _ ran => exact .inr (.inl ran)
  | unprobed _ probed => exact .inl (looks.of_run probed)
  | discarded probed ran => exact .inr (.inr ⟨_, looks.of_run probed, .inl ran⟩)
  | observed probed ran =>
    exact .inl (travels_frame.trans (looks.of_run probed) ((observe_travels intervals record).of_run ran))
  | built probed ran => exact .inr (.inr ⟨_, looks.of_run probed, .inr ran⟩)

/-- A step tears down or builds up, and never both. -/
theorem step_sides {o : Outcome Failure Next} (run : step intervals record w = (o, w')) :
    Travels (Discards record.name record.spec.storagePool) w w' ∨ Travels (Builds record.spec) w w' := by
  rcases step_ways run with looked | removed | ⟨w₁, looked, discarded | built⟩
  · exact .inl (looked.mono fun _ => .inl)
  · exact .inl ((remove_travels record).of_run removed)
  · exact .inl (travels_frame.trans (looked.mono fun _ => .inl)
      (((discard_travels intervals record).of_run discarded).mono fun _ => .inr))
  · exact .inr (travels_frame.trans (looked.mono fun _ => .inl)
      (((build_travels intervals record).of_run built).mono fun _ => .inr))

theorem step_travels (intervals : Intervals) (record : Record) :
    (step intervals record).Keeps (Travels fun r =>
      Discards record.name record.spec.storagePool r ∨ Builds record.spec r) := by
  intro w
  rcases step_sides (run_halves (step intervals record) w) with tears | builds
  · exact tears.mono fun _ => .inl
  · exact builds.mono fun _ => .inr

theorem reconcile_travels (intervals : Intervals) (name : String) :
    (reconcile intervals name).Keeps (Travels fun _ => True) := by
  apply travels_frame.bind (travels_store.get name)
  intro found
  cases found with
  | none => exact travels_frame.pure _
  | some record => exact (step_travels intervals record).mono fun way => way.mono fun _ _ => trivial

theorem runPass_travels (intervals : Intervals) (name : String) :
    (runPass intervals name : Action ε Next).Keeps (Travels fun _ => True) := by
  apply travels_frame.bind (reconcile_travels intervals name).attempt
  intro result
  cases result with
  | ok next => exact travels_frame.pure next
  | error failure => exact handleFailure_keeps travels_store intervals name failure

end MachineKeeper.Reconcile
