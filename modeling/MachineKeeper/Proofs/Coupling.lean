import MachineKeeper.Proofs.Remnants

/-! Two runs of a pass side by side. A relation between two worlds says in what they look alike; where
the single operations do the same in worlds that look alike and leave such worlds again, so does a
whole pass. -/
namespace MachineKeeper

namespace Action

variable {ε δ α β γ : Type} {F P R S : World → World → Prop} {Q : α → β → World → World → Prop}

/-- Two runs end in the same way: both with a value, with the same failure, or with an overflow. -/
inductive Paired (F : World → World → Prop) (Q : α → β → World → World → Prop) :
    Outcome ε α × World → Outcome ε β × World → Prop
  | done {a : α} {b : β} {w v : World} (both : Q a b w v) : Paired F Q (.done a, w) (.done b, v)
  | failed {w v : World} (e : ε) (both : F w v) : Paired F Q (.failed e, w) (.failed e, v)
  | overflow {w v : World} (both : F w v) : Paired F Q (.overflow, w) (.overflow, v)

/-- From worlds in `P` two operations end in the same way: with values and worlds in `Q`, or short of a
value in worlds in `F`. -/
def Coupled (F P : World → World → Prop) (Q : α → β → World → World → Prop) (m : Action ε α)
    (n : Action ε β) : Prop :=
  ∀ ⦃w v : World⦄, P w v → Paired F Q (m w) (n v)

/-- Two ends of one kind, whatever the values are that the worlds are left with. -/
theorem Paired.same {o o' : Outcome ε α} {w v : World}
    (ended : Paired F (fun a b w v => b = a ∧ F w v) (o, w) (o', v)) : o' = o ∧ F w v := by
  cases ended with
  | done both => exact ⟨congrArg _ both.1, both.2⟩
  | failed e both => exact ⟨rfl, both⟩
  | overflow both => exact ⟨rfl, both⟩

theorem paired_same (o : Outcome ε α) {w v : World} (both : F w v) :
    Paired F (fun a b w v => b = a ∧ F w v) (o, w) (o, v) := by
  cases o with
  | done a => exact .done ⟨rfl, both⟩
  | failed e => exact .failed e both
  | overflow => exact .overflow both

section
variable {m : Action ε α} {n : Action ε β}

theorem Paired.map {f : α → γ} {g : β → δ} {Q' : γ → δ → World → World → Prop} {w v : World}
    (ended : Paired F Q (m w) (n v)) (weaker : ∀ {a b w v}, Q a b w v → Q' (f a) (g b) w v) :
    Paired F Q' ((f <$> m) w) ((g <$> n) v) := by
  rw [map_run, map_run]
  revert ended
  generalize m w = x, n v = y
  rintro (both | ⟨e, both⟩ | both)
  · exact .done (weaker both)
  · exact .failed e both
  · exact .overflow both

theorem Coupled.mono {F' : World → World → Prop} {Q' : α → β → World → World → Prop}
    (coupled : Coupled F P Q m n) (short : ∀ {w v}, F w v → F' w v)
    (weaker : ∀ {a b w v}, Q a b w v → Q' a b w v) : Coupled F' P Q' m n := by
  intro w v both
  have ended := coupled both
  revert ended
  generalize m w = x, n v = y
  rintro (both | ⟨e, both⟩ | both)
  · exact .done (weaker both)
  · exact .failed e (short both)
  · exact .overflow (short both)

theorem Coupled.bind {δ : Type} {f : α → Action ε γ} {g : β → Action ε δ}
    {Q' : γ → δ → World → World → Prop} (first : Coupled F P Q m n)
    (rest : ∀ a b, Coupled F (Q a b) Q' (f a) (g b)) : Coupled F P Q' (m >>= f) (n >>= g) := by
  intro w v both
  have ended := first both
  rw [bind_run, bind_run]
  revert ended
  generalize m w = x, n v = y
  rintro (both | ⟨e, both⟩ | both)
  · exact rest _ _ both
  · exact .failed e both
  · exact .overflow both

theorem Coupled.attempt {Q' : Except ε α → Except ε β → World → World → Prop}
    (coupled : Coupled F P Q m n) (done : ∀ {a b w v}, Q a b w v → Q' (.ok a) (.ok b) w v)
    (failed : ∀ {e w v}, F w v → Q' (.error e) (.error e) w v) :
    Coupled F P Q' (m.attempt : Action δ _) n.attempt := by
  intro w v both
  have ended := coupled both
  unfold Action.attempt
  revert ended
  generalize m w = x, n v = y
  rintro (both | ⟨e, both⟩ | both)
  · exact .done (done both)
  · exact .done (failed both)
  · exact .overflow both

theorem Coupled.mapError (coupled : Coupled F P Q m n) (g : ε → δ) :
    Coupled F P Q (m.mapError g) (n.mapError g) := by
  intro w v both
  have ended := coupled both
  unfold Action.mapError
  revert ended
  generalize m w = x, n v = y
  rintro (both | ⟨e, both⟩ | both)
  · exact .done both
  · exact .failed _ both
  · exact .overflow both

end

/-- Run from two worlds in `R`, an operation ends in the same way twice: with the same value and worlds
in `S`, or short of a value in worlds in `R`. -/
abbrev Settles (R S : World → World → Prop) (m : Action ε α) : Prop :=
  Coupled R R (fun a b w v => b = a ∧ S w v) m m

abbrev Steady (R : World → World → Prop) (m : Action ε α) : Prop := Settles R R m

section
variable {m : Action ε α}

theorem steady_pure (a : α) : Steady R (pure a : Action ε α) := fun _ _ both => .done ⟨rfl, both⟩

theorem steady_fail (e : ε) : Steady R (fail e : Action ε α) := fun _ _ both => .failed e both

theorem steady_ofExcept (x : Except ε α) : Steady R (ofExcept x) := by
  cases x with
  | ok a => exact steady_pure a
  | error e => exact steady_fail e

theorem Steady.bind {f : α → Action ε β} (first : Steady R m) (rest : ∀ a, Settles R S (f a)) :
    Settles R S (m >>= f) := by
  apply Coupled.bind first
  rintro a b w v ⟨rfl, both⟩
  exact rest b both

theorem Steady.attempt (steady : Steady R m) : Steady R (m.attempt : Action δ (Except ε α)) :=
  Coupled.attempt steady (fun ⟨same, both⟩ => ⟨congrArg _ same, both⟩) fun both => ⟨rfl, both⟩

end

end Action

/-- A request about one machine: its domain, one of its volumes in some pool, or a whole pool. -/
def Request.Concerns (machine : String) : Request → Prop
  | .domainInfo n | .domainState n | .startDomain n | .destroyDomain n | .undefineDomain n
  | .leaseAddresses n => n = machine
  | .defineDomain descriptor => descriptor.name = machine
  | .lookupPool _ | .refreshPool _ => True
  | .createVolume _ descriptor => descriptor.name ∈ Reconcile.volumesOf machine
  | .volumePath _ v | .uploadVolume _ v _ | .downloadVolume _ v | .deleteVolume _ v =>
    v ∈ Reconcile.volumesOf machine

/-- What is done over connections about a machine is done alike in worlds in `R`. -/
structure Mirrored (machine : String) (R : World → World → Prop) : Prop where
  connect : Action.Steady R Session.connect
  disconnect : Action.Steady R Session.disconnect
  send : ∀ {r : Request}, r.Concerns machine → Action.Steady R (Session.send r)

namespace Lifecycle

open Session MachineKeeper.Action

variable {ε α : Type} {machine pool : String} {spec : Spec} {R : World → World → Prop}

section
variable (mirrored : Mirrored machine R)
include mirrored

theorem steady_ask {r : Request} (context : String) (concerns : r.Concerns machine) :
    Steady R (ask context r) :=
  (mirrored.send concerns).mapError _

theorem steady_connected {body : Action Error α} (steady : Steady R body) :
    Steady R (connected body) := by
  apply mirrored.connect.bind
  intro _
  apply steady.attempt.bind
  intro result
  exact mirrored.disconnect.attempt.bind fun _ => steady_ofExcept result

theorem steady_holds {r : Request} {context : String} {test : r.Reply → Bool}
    (concerns : r.Concerns machine) :
    Steady R (holds (connected (ask context r)) test : Action ε Bool) := by
  apply (steady_connected mirrored (steady_ask mirrored _ concerns)).attempt.bind
  rintro (_ | _) <;> exact steady_pure _

theorem steady_addresses : Steady R (addresses machine) := by
  rw [addresses_eq]
  apply steady_connected mirrored
  apply (steady_ask mirrored _ (by rfl)).bind
  intro state
  split
  · exact steady_fail _
  · apply (mirrored.send (by rfl)).attempt.bind
    rintro (_ | _) <;> exact steady_pure _

theorem steady_deleteIfThere {volume : String} (member : volume ∈ Reconcile.volumesOf machine) :
    Steady R (deleteIfThere pool volume) := by
  apply (mirrored.send (by exact member)).attempt.bind
  rintro (_ | _)
  · exact steady_pure ()
  · exact (mirrored.send (by exact member)).attempt.bind fun _ => steady_pure ()

theorem steady_createSeedVolume {volume : String} (member : volume ∈ Reconcile.volumesOf machine)
    (image : Bytes) : Steady R (createSeedVolume pool volume image) := by
  apply (steady_deleteIfThere mirrored member).bind
  intro _
  apply (steady_ask mirrored _ (by exact member)).bind
  intro path
  apply (steady_ask mirrored _ (by exact member)).bind
  intro _
  apply (steady_ask mirrored _ (by exact member)).bind
  intro content
  split
  · exact steady_fail _
  · exact steady_pure path

theorem steady_createDiskVolume (here : spec.name = machine) : Steady R (createDiskVolume spec) := by
  subst here
  have member : spec.names.diskVolume ∈ Reconcile.volumesOf spec.name := by
    simp [Reconcile.volumesOf, Spec.names]
  apply (steady_deleteIfThere mirrored member).bind
  intro _
  exact steady_ask mirrored _ (by exact member)

theorem steady_provision (here : spec.name = machine) (image : Bytes) :
    Steady R (provision spec image) := by
  have member : spec.names.seedVolume ∈ Reconcile.volumesOf machine := by
    simp [← here, Reconcile.volumesOf, Spec.names]
  apply (steady_ask mirrored _ (by trivial)).bind
  intro _
  apply (steady_createSeedVolume mirrored member image).bind
  intro seedPath
  apply (steady_createDiskVolume mirrored here).bind
  intro diskPath
  apply (steady_ask mirrored _ (by exact here)).bind
  intro _
  exact steady_ask mirrored _ (by exact here)

theorem steady_create (here : spec.name = machine) : Steady R (create spec) := by
  unfold create
  dsimp only
  split
  · exact steady_fail _
  · apply (steady_ofExcept _).bind
    intro image
    exact steady_connected mirrored ((steady_provision mirrored here image).mapError _)

theorem steady_deleteVolumes : Steady R (deleteVolumes pool (.of machine)) := by
  have disk : (Names.of machine).diskVolume ∈ Reconcile.volumesOf machine := by
    simp [Reconcile.volumesOf]
  have seed : (Names.of machine).seedVolume ∈ Reconcile.volumesOf machine := by
    simp [Reconcile.volumesOf]
  have refreshes : Steady R (send (.refreshPool pool)) := mirrored.send (by trivial)
  apply (mirrored.send (by trivial)).attempt.bind
  rintro (_ | _)
  · exact steady_pure ()
  · apply refreshes.attempt.bind
    intro _
    apply (steady_deleteIfThere mirrored disk).bind
    intro _
    apply (steady_deleteIfThere mirrored seed).bind
    intro _
    exact refreshes.attempt.bind fun _ => steady_pure ()

theorem steady_destroy : Steady R (destroy machine pool) := by
  rw [destroy_eq]
  apply steady_connected mirrored
  have undefines : Steady R (undefine machine pool) :=
    (steady_ask mirrored _ (by rfl)).bind fun _ => steady_deleteVolumes mirrored
  apply (mirrored.send (by rfl)).attempt.bind
  rintro (e | state)
  · dsimp only
    split
    · exact steady_pure ()
    · exact steady_fail _
  · dsimp only
    split
    · exact (steady_ask mirrored _ (by rfl)).bind fun _ => undefines
    · exact undefines

end

end Lifecycle

namespace Reconcile

open Session Lifecycle Store MachineKeeper.Action

variable {ε α : Type} {key machine : String} {intervals : Intervals} {record : Record}
  {R S : World → World → Prop}

/-- What two passes read under one name: no record, or records that differ in the status at most, of
machines that are deleted both or both are not. -/
inductive Found (machine : String) (R S : World → World → Prop) :
    Option Record → Option Record → World → World → Prop
  | missing {w v : World} (both : S w v) : Found machine R S none none w v
  | gone {a b : Record} {w v : World} (first : a.status.phase = .deleted)
      (second : b.status.phase = .deleted) (both : S w v) : Found machine R S (some a) (some b) w v
  | alive {a : Record} {status : Status} {w v : World} (here : a.name = machine)
      (first : a.status.phase ≠ .deleted) (second : status.phase ≠ .deleted) (both : R w v) :
      Found machine R S (some a) (some { a with status }) w v

/-- What a pass is made of is done alike in worlds in `R`; once a status is published, the worlds are
in `S`. -/
structure Uniform (key machine : String) (R S : World → World → Prop) : Prop
    extends Mirrored machine R where
  weaker : ∀ {w v}, S w v → R w v
  secret : ∀ name, Steady R (Store.secret name)
  publish : ∀ {patch}, Status.Patch machine patch → Settles R S (publish machine patch)
  letGo : Coupled R S (fun a b w v => b = a ∧ S w v) (removeFinalizer machine)
    (removeFinalizer machine)
  note : ∀ message, Coupled R R (fun _ _ w v => R w v)
    (patchStatus key ({ · with failureMessage := some message }))
    (patchStatus key ({ · with failureMessage := some message }))

theorem steady_apart {report : Error → Failure} {op : Action Error α} (steady : Steady R op) :
    Steady R (apart report op) := by
  intro w v both
  have ended := steady both
  unfold apart
  revert ended
  generalize op w = x, op v = y
  rintro (both | ⟨e, both⟩ | both)
  · exact .done both
  · exact .failed _ both
  · exact .failed _ both

section
variable (uniform : Uniform key machine R S)
include uniform

theorem settles_report {patch : Status → Status} (patches : Status.Patch machine patch) (next : Next) :
    Settles R S (do publish machine patch; return next : Action Failure Next) := by
  apply (uniform.publish patches).bind
  exact fun _ _ _ _ both => .done ⟨rfl, both.2⟩

theorem steady_probe (here : record.name = machine) :
    Steady R (probe record.spec : Action ε (Bool × Bool)) := by
  subst here
  apply (steady_holds uniform.toMirrored (by rfl)).bind
  intro found
  cases found with
  | false => exact steady_pure _
  | true => exact (steady_holds uniform.toMirrored (by rfl)).bind fun _ => steady_pure _

theorem steady_cloudConfig (record : Record) : Steady R (cloudConfig record) := by
  unfold cloudConfig
  split
  · exact steady_pure _
  · apply (uniform.secret _).bind
    intro found
    split
    · exact steady_fail _
    · split
      · exact steady_fail _
      · exact steady_pure _

theorem settles_build (here : record.name = machine) : Settles R S (build intervals record) := by
  subst here
  apply (steady_cloudConfig uniform record).bind
  intro text
  cases text with
  | none => exact settles_report uniform (.moved (by decide)) _
  | some userData =>
    apply (steady_apart (steady_create uniform.toMirrored (by rfl))).bind
    intro _
    exact settles_report uniform (.moved (by decide)) _

theorem settles_observe (here : record.name = machine) : Settles R S (observe intervals record) := by
  subst here
  apply (steady_apart (steady_holds uniform.toMirrored (by rfl))).bind
  intro running
  cases running with
  | false => exact settles_report uniform .halted _
  | true =>
    apply (steady_apart (steady_addresses uniform.toMirrored)).bind
    intro addresses
    split
    next => exact settles_report uniform .unreached _
    next leased => exact settles_report uniform (.ready (by simpa using leased)) _

theorem settles_discard (here : record.name = machine) : Settles R S (discard intervals record) := by
  subst here
  apply (steady_apart (steady_destroy uniform.toMirrored)).bind
  intro _
  exact settles_report uniform (.cleared (by decide)) _

theorem steady_eject (here : record.name = machine) : Steady R (eject record) := by
  subst here
  apply (steady_apart (steady_holds uniform.toMirrored (by rfl))).bind
  intro found
  cases found with
  | false => exact steady_pure ()
  | true => exact steady_apart (steady_destroy uniform.toMirrored)

theorem settles_letGo (here : record.name = machine) : Settles R S (letGo record) := by
  subst here
  apply (uniform.publish (.cleared (by decide))).bind
  intro _ _ w v both
  apply (uniform.letGo.mapError _).bind _ both.2
  exact fun _ _ _ _ both => .done ⟨rfl, both.2⟩

theorem settles_remove (here : record.name = machine) : Settles R S (remove record) := by
  rw [remove_eq]
  have moves : Steady R (publish record.name ({ · with phase := .deleting })) := by
    rw [here]
    exact (uniform.publish (.moved (by decide))).mono id fun both => ⟨both.1, uniform.weaker both.2⟩
  apply moves.bind
  intro _
  apply (steady_eject uniform here).bind
  intro _
  exact settles_letGo uniform here

theorem settles_step (here : record.name = machine) (alive : record.status.phase ≠ .deleted) :
    Settles R S (step intervals record) := by
  unfold step
  dsimp only
  rw [if_neg alive]
  split
  · exact here ▸ settles_report uniform (here ▸ .moved (by decide)) _
  split
  · exact settles_remove uniform here
  split
  · exact here ▸ settles_report uniform (here ▸ .moved (by decide)) _
  apply (steady_apart (steady_probe uniform here)).bind
  rintro ⟨_ | _, sync⟩
  · exact settles_build uniform here
  · cases sync with
    | false => exact settles_discard uniform here
    | true => exact settles_observe uniform here

theorem steady_handleFailure (failure : Failure) :
    Steady R (handleFailure intervals key failure : Action ε Next) := by
  let note := Store.patchStatus key ({ · with failureMessage := some failure.message })
  have noted : Coupled R R (fun _ _ => R) (note.attempt : Action ε _) note.attempt :=
    (uniform.note failure.message).attempt id id
  apply noted.bind
  exact fun _ _ _ _ both => .done ⟨rfl, both⟩

omit uniform in
/-- A step goes by what is wanted of a machine, and not by its status. -/
theorem step_alive {status : Status} (first : record.status.phase ≠ .deleted)
    (second : status.phase ≠ .deleted) :
    step intervals { record with status } = step intervals record := by
  unfold step
  dsimp only
  rw [if_neg first, if_neg second]
  rfl

theorem reconcile_coupled {P : World → World → Prop}
    (reads : Coupled R P (Found machine R S) (Store.get key) (Store.get key)) :
    Coupled R P (fun a b w v => b = a ∧ S w v) (reconcile intervals key) (reconcile intervals key) := by
  apply reads.bind
  intro a b w v found
  cases found with
  | missing both => exact .done ⟨rfl, both⟩
  | gone first second both =>
    simp only [step, first, second, if_pos]
    exact .done ⟨rfl, both⟩
  | alive here first second both =>
    dsimp only
    rw [step_alive first second]
    exact settles_step uniform here first both

/-- What comes behind `reconcile` in a pass leaves worlds in `R`. -/
theorem runPass_coupled {P : World → World → Prop}
    (reads : Coupled R P (Found machine R S) (Store.get key) (Store.get key)) :
    Coupled R P (fun a b w v => b = a ∧ R w v) (runPass intervals key : Action ε Next)
      (runPass intervals key) := by
  have tried : Coupled R P (fun a b w v => b = a ∧ R w v)
      ((reconcile intervals key).attempt : Action ε _) (reconcile intervals key).attempt :=
    (reconcile_coupled uniform reads).attempt
      (fun both => ⟨congrArg _ both.1, uniform.weaker both.2⟩) fun both => ⟨rfl, both⟩
  apply tried.bind
  rintro _ result w v ⟨rfl, both⟩
  cases result with
  | ok next => exact .done ⟨rfl, both⟩
  | error failure => exact steady_handleFailure uniform failure both

end

end Reconcile

end MachineKeeper
