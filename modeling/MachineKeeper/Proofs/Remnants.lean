import MachineKeeper.Proofs.Presence
import MachineKeeper.Proofs.Release

/-! What is left of a machine whose record is gone. Its volumes go with its domain, so that a machine that
was never finished leaves what was made of it. -/
namespace MachineKeeper.Reconcile

open Session Lifecycle Store MachineKeeper.Action

variable {ε : Type} {w w' : World} {name : String} {record : Record} {intervals : Intervals}

/-- Passes for one machine, in each of which calls may fail. In between anything may be changed but what
is on the host. -/
inductive Passes (intervals : Intervals) (name : String) (w₀ : World) : World → Prop
  | start : Passes intervals name w₀ w₀
  | pass {w : World} (before : Passes intervals name w₀ w) (quiet : w.Undisturbed) :
      Passes intervals name w₀ ((runPass intervals name : Action Failure Next) w).2
  | meanwhile {w w' : World} (before : Passes intervals name w₀ w)
      (domains : w'.host.domains = w.host.domains) (pools : w'.host.pools = w.host.pools)
      (log : w'.log = w.log) : Passes intervals name w₀ w'

theorem Passes.tells {w₀ : World} (run : Passes intervals name w₀ w) : Tells w₀ w := by
  induction run with
  | start => exact tells_frame.refl w₀
  | pass before quiet ih =>
    exact tells_frame.trans ih ((runPass_travels intervals name).of_run rfl |>.tells quiet).2
  | meanwhile before domains pools log ih =>
    refine tells_frame.trans ih ⟨[], log, fun thing => ?_⟩
    cases thing <;> simp only [Host.has, Host.volume?, domains, pools] <;> rfl

/-- The log of a run says that something is there: it was made, and not removed since. -/
def Stands (thing : Thing) (events : List Event) : Prop :=
  events.findSome? (Event.leaves? thing) = some true

def volumesOf (name : String) : List String := [(Names.of name).diskVolume, (Names.of name).seedVolume]

theorem without_bare (h : Host) (name pool : String) : (h.without name pool).has (.domain name) = false := by
  simp [Host.has, Host.without, Host.withoutVolumes]

theorem without_empty (h : Host) (name pool : String) {volume : String} (member : volume ∈ volumesOf name) :
    (h.without name pool).has (.volume pool volume) = false := by
  rw [Host.without, Host.has]
  generalize ({ h with domains := h.domains.erase name } : Host) = bare
  cases there : bare.pools[pool]? with
  | none =>
    rw [Host.withoutVolumes_missing there, Host.volume?, there]
    rfl
  | some volumes =>
    rw [Host.withoutVolumes_eq there, Host.volume?_setPool, if_pos rfl]
    rcases member with _ | ⟨_, _ | ⟨_, none⟩⟩
    · simp
    · simp
    · cases none

/-- What was not there at first is there at the end exactly if the log says so. -/
theorem has_iff_stands {w₀ : World} {events : List Event} {thing : Thing}
    (told : w.host.has thing = (events.findSome? (Event.leaves? thing)).getD (w₀.host.has thing))
    (fresh : w₀.host.has thing = false) : w.host.has thing = true ↔ Stands thing events := by
  rw [told, fresh, Stands]
  cases events.findSome? (Event.leaves? thing) <;> simp

/-- A pass that lets go of a record leaves no domain. A volume of the machine it leaves exactly if the
machine has none and the volume was made before, as the log tells. -/
theorem left_over_iff {w₀ : World} (run : Passes intervals record.name w₀ w)
    (bare : w₀.host.has (.domain record.name) = false)
    (empty : ∀ volume ∈ volumesOf record.name,
      w₀.host.has (.volume record.spec.storagePool volume) = false)
    (found : w.records[record.name]? = some record) (requested : record.deletionRequested = true)
    (calm : w.Calm)
    (dropped : ((runPass intervals record.name : Action ε Next) w).2.records[record.name]? = none) :
    let left := ((runPass intervals record.name : Action ε Next) w).2.host
    left.has (.domain record.name) = false ∧ ∃ events, w.log = events ++ w₀.log ∧
      ∀ volume ∈ volumesOf record.name, left.has (.volume record.spec.storagePool volume) = true ↔
        Stands (.volume record.spec.storagePool volume) events ∧
          ¬ Stands (.domain record.name) events := by
  intro left
  obtain ⟨events, log, told⟩ := run.tells
  have free := (runPass_releases_iff calm found requested).mp dropped
  have same (thing : Thing) : left.has thing =
      (w.host.objects.ejected record.name record.spec.storagePool).has thing := by
    rw [← runPass_ejects calm found requested free, Host.objects_has]
  have defined := has_iff_stands (told _) bare
  by_cases there : record.name ∈ w.host.objects.domains
  · rw [Host.ejected_there there] at same
    have stands := defined.mp ((Host.mem_domains_iff _ _).mp there)
    refine ⟨by rw [same, without_bare], events, log, fun volume member => ?_⟩
    rw [same, without_empty _ _ _ member]
    exact ⟨nofun, fun held => absurd stands held.2⟩
  · rw [Host.ejected_missing there] at same
    have missing : ¬ w.host.has (.domain record.name) = true := fun has =>
      there ((Host.mem_domains_iff _ _).mpr has)
    refine ⟨by rw [same, Host.objects_has]; exact Bool.eq_false_iff.mpr missing, events, log, ?_⟩
    intro volume member
    rw [same, Host.objects_has, has_iff_stands (told _) (empty volume member)]
    exact ⟨fun stands => ⟨stands, fun domain => missing (defined.mpr domain)⟩, And.left⟩

section
variable {spec : Spec} {pool volume : String} {image : Bytes} {volumes : Table Volume}

/-- The host with the volume for a machine's image, before anything was uploaded to it. -/
def withEmptySeed (h : Host) (pool volume : String) (image : Bytes) (volumes : Table Volume) : Host :=
  h.setPool pool (volumes.insert volume (.create pool (.raw volume image.length.toUInt64)))

theorem fillSeedVolume_cut {o : Outcome Error String} (quiet : w.Undisturbed)
    (there : w.host.pools[pool]? = some volumes) (absent : volume ∉ volumes)
    (created : w.Hears .createVolume 1) (cut : ¬ w.Hears .uploadVolume 1)
    (run : fillSeedVolume pool volume image w = (o, w')) :
    (∃ e, o = .failed e) ∧ w'.host = withEmptySeed w.host pool volume image volumes := by
  have free : (VolumeDescriptor.raw volume image.length.toUInt64).name ∉ volumes := absent
  obtain ⟨w₁, made, host₁, _⟩ := send_answered quiet (Host.answer_createVolume there free) created
  have unheard : ¬ w₁.Hears .uploadVolume 1 := fun heard =>
    cut ((send_hears_other quiet made (by nofun) Nat.one_pos).mp heard)
  obtain ⟨o₂, w₂, uploaded⟩ : ∃ o₂ w₂, send (.uploadVolume pool volume image) w₁ = (o₂, w₂) := ⟨_, _, rfl⟩
  obtain ⟨e, _, rfl, host₂, _⟩ := send_unheard (send_undisturbed quiet made) uploaded unheard
  rw [fillSeedVolume, bind_of_done (ask_of_done made), bind_of_failed (ask_of_failed uploaded)] at run
  obtain ⟨rfl, rfl⟩ := Prod.mk.inj run
  exact ⟨⟨_, rfl⟩, host₂.trans host₁⟩

theorem provision_cut {o : Outcome Error Unit} (quiet : w.Undisturbed)
    (there : w.host.pools[spec.storagePool]? = some volumes) (absent : spec.names.seedVolume ∉ volumes)
    (found : w.Hears .lookupPool 1) (created : w.Hears .createVolume 1)
    (cut : ¬ w.Hears .uploadVolume 1) (run : provision spec image w = (o, w')) :
    (∃ e, o = .failed e) ∧
      w'.host = withEmptySeed w.host spec.storagePool spec.names.seedVolume image volumes := by
  rcases provision_cases quiet there run with ⟨unheard, _⟩ | ⟨_, w₁, quiet₁, host₁, _, hears₁, furnished⟩
  · exact absurd found unheard
  have missing : w₁.host.volume? spec.storagePool spec.names.seedVolume = none := by
    rw [host₁, Host.volume?_of_pool there, Std.ExtTreeMap.getElem?_eq_none absent]
  obtain ⟨o₂, w₂, removed⟩ : ∃ o₂ w₂,
    deleteIfThere spec.storagePool spec.names.seedVolume w₁ = (o₂, w₂) := ⟨_, _, rfl⟩
  obtain ⟨rfl, host₂, _, hears₂⟩ := deleteIfThere_missing quiet₁ missing removed
  have hears (call : Call) (other : call ≠ .lookupPool ∧ call ≠ .volumePath) :
      w₂.Hears call 1 ↔ w.Hears call 1 := by
    rw [hears₂ call 1 Nat.one_pos, if_neg other.2, hears₁ call 1 other.1 Nat.one_pos]
  obtain ⟨o₃, w₃, filled⟩ : ∃ o₃ w₃,
    fillSeedVolume spec.storagePool spec.names.seedVolume image w₂ = (o₃, w₃) := ⟨_, _, rfl⟩
  obtain ⟨⟨e, rfl⟩, host₃⟩ := fillSeedVolume_cut (deleteIfThere_undisturbed quiet₁ removed)
    (by rw [host₂, host₁, there]) absent ((hears _ (by decide)).mpr created)
    (fun heard => cut ((hears _ (by decide)).mp heard)) filled
  rw [furnish, createSeedVolume_eq, bind_assoc, bind_of_done removed, bind_of_failed filled] at furnished
  obtain ⟨rfl, rfl⟩ := Prod.mk.inj furnished
  exact ⟨⟨e, rfl⟩, by rw [host₃, host₂, host₁]⟩

theorem create_cut {o : Outcome Error Unit} (quiet : w.Undisturbed) (starts : Starts spec w)
    (there : w.host.pools[spec.storagePool]? = some volumes) (absent : spec.names.seedVolume ∉ volumes)
    (created : w.Hears .createVolume 1) (cut : ¬ w.Hears .uploadVolume 1)
    (run : create spec w = (o, w')) : (∃ e, o = .failed e) ∧
      ∃ image, w'.host.objects =
        withEmptySeed w.host.objects spec.storagePool spec.names.seedVolume image volumes := by
  obtain ⟨image, built⟩ := starts.image
  rw [create, if_neg (Nat.not_lt_of_ge starts.name), built] at run
  change connected ((provision spec image).mapError (.create spec.name)) w = (o, w') at run
  obtain ⟨w₁, w₂, opened, hears, ran, closed⟩ :=
    connected_admitted quiet ((provision_reaches spec image).mapError _) starts.admits run
  obtain ⟨o₁, provisioned, rfl⟩ := mapError_cases ran
  obtain ⟨⟨e, rfl⟩, host⟩ := provision_cut (opened.toSameStore.undisturbed quiet)
    (by rw [Host.pools_of_objects opened.objects, there]) absent ((hears _ _ Nat.one_pos).mpr starts.pool)
    ((hears _ _ Nat.one_pos).mpr created) (fun heard => cut ((hears _ _ Nat.one_pos).mp heard)) provisioned
  refine ⟨⟨_, rfl⟩, image, ?_⟩
  have closed : w'.host.objects = w₂.host.objects := by
    rcases closed with idle | ⟨_, rfl⟩
    · exact idle.objects
    · rfl
  rw [closed, host, ← opened.objects]
  rfl

end

/-- A machine that is still to be made. -/
def planned : Record :=
  { Record.ofSpec (.ofName "m") with prerequisites := .all, bootstrapSecret := some "s" }

def plannedSpec : Spec := { planned.spec with userData := "#cloud-config\n" }

/-- A world with nothing but that machine's record and its secret. -/
def roomy : World :=
  { World.initial with
    records := (∅ : Table Record).insert "m" planned
    secrets := (∅ : Table (Table String)).insert "s" ((∅ : Table String).insert "value" "#cloud-config\n") }

/-- The same where the image cannot be uploaded the first time. -/
def cramped : World :=
  { roomy with hostFaults := [⟨.call .uploadVolume, 1, some (.call (.other "no space left")), []⟩] }

/-- Where the creation starts: the domain was looked for, and the cloud-config was read. -/
def readied (w : World) : World := (cloudConfig planned (apart .error (probe planned.spec) w).2).2

def noteCreated : Action Failure Next := do
  publish "m" ({ · with phase := .creating })
  return .after (.ofSeconds 10)

theorem reconcile_readied (got : Store.get "m" w = (.done (some planned), w))
    (probed : (apart .error (probe planned.spec) w).1 = .done (false, false))
    (configured : (cloudConfig planned (apart .error (probe planned.spec) w).2).1 =
      .done (some "#cloud-config\n")) : reconcile .standard "m" w = (do
        apartWithin "failed to create virtual machine 'm'" (create plannedSpec)
        noteCreated) (readied w) := by
  rw [reconcile, bind_of_done got]
  change (apart .error (probe planned.spec) >>= _) w = _
  rw [bind_of_done (Prod.ext probed rfl)]
  exact bind_of_done (Prod.ext configured rfl)

/-- The same machine once it is to go. -/
def leaving : Record := { planned with deletionRequested := true }

def attempted : World := ((runPass .standard "m" : Action Failure Next) cramped).2

/-- The world after that attempt, where the machine is to go and calls get through. -/
def relieved : World :=
  { attempted with
    host := { attempted.host with failing := [], refusesConnections := false }
    records := (∅ : Table Record).insert "m" leaving
    hostFaults := []
    storeFaults := [] }

theorem readied_starts : Starts plannedSpec (readied cramped) where
  name := by decide
  image := CloudInit.image_built (by decide) (by decide)
  admits := by decide
  pool := by decide

theorem attempted_objects : ∃ image, attempted.host.objects =
    withEmptySeed Host.initial.objects "default" "m-cloudinit.iso" image ∅ := by
  have quiet : (readied cramped).Undisturbed := ⟨by decide, by decide⟩
  obtain ⟨o, w₁, run⟩ : ∃ o w₁, create plannedSpec (readied cramped) = (o, w₁) := ⟨_, _, rfl⟩
  obtain ⟨⟨e, rfl⟩, image, host⟩ := create_cut quiet readied_starts
    (show (readied cramped).host.pools["default"]? = some ∅ from rfl) (by decide) (by decide) (by decide) run
  obtain ⟨failure, stopped⟩ : ∃ failure, reconcile .standard "m" cramped = (.failed failure, w₁) := by
    rw [reconcile_readied rfl (by decide +kernel) (by decide +kernel)]
    exact ⟨_, bind_of_failed (apart_of_failed run)⟩
  obtain ⟨o, w₂, noted⟩ : ∃ o w₂, (runPass .standard "m" : Action Failure Next) cramped = (o, w₂) :=
    ⟨_, _, rfl⟩
  obtain ⟨o₁, w₃, ran, stays, _⟩ := runPass_cases noted
  obtain ⟨rfl, rfl⟩ := Prod.mk.inj (stopped.symm.trans ran)
  have quiet₁ := ((create_reaches _).of_run run).store.undisturbed quiet
  refine ⟨image, ?_⟩
  rw [attempted, noted, (stays quiet₁).host, host]
  rfl

theorem relieved_has : relieved.host.has (.volume "default" "m-cloudinit.iso") = true ∧
    relieved.host.has (.domain "m") = false := by
  obtain ⟨image, objects⟩ := attempted_objects
  have has (thing : Thing) : relieved.host.has thing =
      (withEmptySeed Host.initial.objects "default" "m-cloudinit.iso" image ∅).has thing :=
    (Host.objects_has attempted.host thing).symm.trans (by rw [objects])
  exact ⟨(has _).trans (Host.has_insert rfl _ _ _), (has _).trans (Host.has_insert rfl _ _ _)⟩

theorem relieved_reached : Passes .standard leaving.name cramped relieved :=
  .meanwhile (.pass .start ⟨by decide, by decide⟩) rfl rfl rfl

theorem relieved_found : relieved.records[leaving.name]? = some leaving := by decide

theorem relieved_calm : relieved.Calm := ⟨rfl, rfl, rfl, rfl⟩

theorem leaving_releasable : Releasable leaving := ⟨by decide, rfl, by decide⟩

theorem relieved_releases :
    ((runPass .standard leaving.name : Action Failure Next) relieved).2.records[leaving.name]? = none :=
  (runPass_releases_iff relieved_calm relieved_found rfl).mpr leaving_releasable

/-- The pass that lets go of the machine leaves the host as it is. -/
theorem relieved_left :
    ((runPass .standard leaving.name : Action Failure Next) relieved).2.host.objects =
      relieved.host.objects := by
  have missing : leaving.name ∉ relieved.host.objects.domains := fun member =>
    nomatch relieved_has.2.symm.trans ((Host.mem_domains_iff _ _).mp member)
  rw [runPass_ejects relieved_calm relieved_found rfl leaving_releasable, Host.ejected_missing missing]

theorem left_over_iff_cut :
    let left := ((runPass .standard leaving.name : Action Failure Next) relieved).2.host
    left.has (.domain leaving.name) = false ∧ ∃ events, relieved.log = events ++ cramped.log ∧
      ∀ volume ∈ volumesOf leaving.name,
        left.has (.volume leaving.spec.storagePool volume) = true ↔
          Stands (.volume leaving.spec.storagePool volume) events ∧
            ¬ Stands (.domain leaving.name) events :=
  left_over_iff relieved_reached (by decide) (by decide) relieved_found rfl relieved_calm relieved_releases

/-- It is not so that a machine that was never finished leaves no volumes when it goes. -/
theorem left_over_seed : ¬ ∀ (record : Record) (w₀ w : World), Passes .standard record.name w₀ w →
    w₀.host.has (.domain record.name) = false →
    (∀ volume ∈ volumesOf record.name,
      w₀.host.has (.volume record.spec.storagePool volume) = false) →
    w.records[record.name]? = some record → record.deletionRequested = true → w.Calm →
    let w' := ((runPass .standard record.name : Action Failure Next) w).2
    w'.records[record.name]? = none →
      w'.host.has (.domain record.name) = false ∧ ∀ volume ∈ volumesOf record.name,
        w'.host.has (.volume record.spec.storagePool volume) = false := by
  intro claimed
  have gone := (claimed leaving cramped relieved relieved_reached (by decide) (by decide)
    relieved_found rfl relieved_calm relieved_releases).2 "m-cloudinit.iso" (by decide)
  rw [← Host.objects_has, relieved_left, Host.objects_has] at gone
  cases relieved_has.1.symm.trans gone

end MachineKeeper.Reconcile
