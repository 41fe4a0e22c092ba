import MachineKeeper.Proofs.Holding

/-! A domain with both of its volumes. They are made one after another, the domain last, and taken away in
the opposite order, so that there is no domain without them at any point where an operation can stop. -/
namespace MachineKeeper

/-- A domain over both of its volumes: a disk that lies over an image, and the image that it boots from. -/
structure Holding.Complete (image : Bytes) (domain : DomainDescriptor) (disk seed : Volume) : Prop where
  diskPath : domain.diskPath = disk.path
  seedPath : domain.seedPath = seed.path
  format : disk.descriptor.format = "qcow2"
  backing : disk.descriptor.backing? ≠ none
  content : seed.content.bytes = image

def Holding.Whole (image : Bytes) (held : Holding) : Prop :=
  ∃ domain disk seed, held = ⟨some domain, some disk, some seed⟩ ∧
    Holding.Complete image domain disk seed

def Event.Creates (pool volume : String) : Event → Prop
  | .request (.createVolume p d) _ outcome => p = pool ∧ d.name = volume ∧ outcome.isDone = true
  | _ => False

namespace Lifecycle

open Session MachineKeeper.Action

variable {ε α : Type} {w w' : World} {name pool volume : String} {spec : Spec} {image : Bytes}

/-- A machine has no domain. -/
def Bare (name pool : String) (w : World) : Prop := (w.host.holding name pool).domain? = none

/-- A machine is left as it was, or without a domain. -/
def Fades (name pool : String) (w w' : World) : Prop :=
  w.Gentle → w'.Gentle ∧ (w'.host.holding name pool = w.host.holding name pool ∨ Bare name pool w')

theorem fades_frame : Frame (Fades name pool) where
  refl w gentle := ⟨gentle, .inl rfl⟩
  trans := by
    intro a b c first second gentle
    obtain ⟨gentleB, leftB⟩ := first gentle
    obtain ⟨gentleC, same | bare⟩ := second gentleB
    · rw [same, Bare, same]
      exact ⟨gentleC, leftB⟩
    · exact ⟨gentleC, .inr bare⟩

theorem reaches_fades {ok : Request → Prop} (powers : ∀ r, ok r → r.Powers) (path : Reaches ok w w') :
    Fades name pool w w' := by
  intro gentle
  have same := path.holding (Q := (· = w.host.holding name pool)) gentle
    (fun r _ allowed same => (Host.answer_powers (powers r allowed)).trans same) rfl
  exact ⟨path.store.gentle gentle, .inl same⟩

theorem send_fades {r : Request} (powers : r.Powers) : (send r).Keeps (Fades name pool) := by
  intro w
  have path : Reaches (· = r) w (send r w).2 := .send .refl rfl
  refine reaches_fades ?_ path
  rintro _ rfl
  exact powers

theorem connected_fades {body : Action Error α} (within : body.Keeps (Fades name pool)) :
    (connected body).Keeps (Fades name pool) := by
  have idle {w w' : World} (path : Reaches (fun _ => False) w w') : Fades name pool w w' :=
    reaches_fades (fun _ => False.elim) path
  exact connected_keeps fades_frame (fun w => idle (.connect .refl)) (fun w => idle (.disconnect .refl)) within

theorem clears_bare {volumes : List String} (path : Reaches (Clears pool volumes) w w') (gentle : w.Gentle)
    (bare : Bare name pool w) : Bare name pool w' := by
  refine path.holding (Q := (·.domain? = none)) gentle (fun r _ clears => Host.answer_bare ?_) bare
  cases r <;> first | exact id | exact clears.elim

/-- The volumes go once the domain is undefined, and not before. -/
theorem undefine_fades (name pool : String) : (undefine name pool).Keeps (Fades name pool) := by
  intro w gentle
  obtain ⟨o, w', run⟩ : ∃ o w', undefine name pool w = (o, w') := ⟨_, _, rfl⟩
  rw [run]
  refine ⟨((undefine_reaches name pool).of_run run).store.gentle gentle, ?_⟩
  rcases bind_cases run with ⟨_, w₁, asked, rest⟩ | ⟨e, asked, _⟩ | ⟨asked, _⟩
  · obtain ⟨h, _, answer⟩ : ∃ h : Host, h.holding name pool = w.host.holding name pool ∧
      h.answer (.undefineDomain name) = (.done (), w₁.host) := ask_done_holding gentle asked
    have bare : Bare name pool w₁ :=
      Host.bare_iff.mpr (Host.answer_undefineDomain_done answer)
    exact .inr (clears_bare ((deleteVolumes_reaches pool (.of name)).of_run rest)
      (ask_gentle gentle asked) bare)
  · exact .inl (ask_turned gentle asked rfl)
  · exact .inl (ask_turned gentle asked rfl)

theorem teardown_fades (name pool : String) : (teardown name pool).Keeps (Fades name pool) := by
  apply fades_frame.bind (send_fades (by exact ⟨rfl, rfl⟩)).attempt
  rintro (e | state)
  · dsimp only
    split
    · exact fades_frame.pure ()
    · exact fades_frame.fail _
  · dsimp only
    split
    · exact fades_frame.bind ((send_fades (by exact trivial)).mapError _) fun _ => undefine_fades name pool
    · exact undefine_fades name pool

theorem destroy_fades (name pool : String) : (destroy name pool).Keeps (Fades name pool) := by
  rw [destroy_eq]
  exact connected_fades (teardown_fades name pool)

theorem makes_bare (path : Reaches (Makes pool volume) w w') (gentle : w.Gentle)
    (bare : Bare name pool w) : Bare name pool w' := by
  refine path.holding (Q := (·.domain? = none)) gentle (fun r _ makes => Host.answer_bare ?_) bare
  cases r <;> first | exact id | exact (makes.elim id id).elim

theorem ask_logs {r : Request} {context : String} {o : Outcome Error r.Reply}
    (run : ask context r w = (o, w')) : Logs (fun _ => True) w w' := by
  have path : Reaches (fun _ => True) w w' := (reaches_ask context trivial).of_run run
  exact path.logs.mono fun _ _ => trivial

theorem createVolume_shows {d : VolumeDescriptor} {context path : String}
    (run : ask context (.createVolume pool d) w = (.done path, w')) :
    Shows (Event.Creates pool d.name) w w' := by
  have sent := ask_done run
  obtain ⟨reached, noted⟩ := send_noted (.createVolume pool d) w
  rw [sent] at noted
  exact .one noted.log ⟨rfl, rfl, rfl⟩

theorem createVolume_there {d : VolumeDescriptor} {context path : String} (gentle : w.Gentle)
    (run : ask context (.createVolume pool d) w = (.done path, w')) :
    w'.host.volume? pool d.name = some (.create pool d) ∧ path = volumePath pool d.name := by
  obtain ⟨h, _, answer⟩ : ∃ h : Host, h.holding "" pool = _ ∧ _ := ask_done_holding gentle run
  exact Host.answer_createVolume_done answer

section
variable {seed : Volume} {context : String}

theorem uploadVolume_there {data : Bytes} (gentle : w.Gentle)
    (there : (w.host.holding name pool).seed? = some seed)
    (run : ask context (.uploadVolume pool (Names.of name).seedVolume data) w = (.done (), w')) :
    ∃ content, (w'.host.holding name pool).seed? = some { seed with content } := by
  obtain ⟨h, same, answer⟩ : ∃ h : Host, h.holding name pool = w.host.holding name pool ∧ _ :=
    ask_done_holding gentle run
  obtain ⟨found, content, there', filled⟩ := Host.answer_uploadVolume_done answer
  obtain rfl := Option.some.inj (((congrArg Holding.seed? same).symm.trans there').symm.trans there)
  exact ⟨content, filled⟩

theorem downloadVolume_there {content : Content} (gentle : w.Gentle)
    (there : (w.host.holding name pool).seed? = some seed)
    (run : ask context (.downloadVolume pool (Names.of name).seedVolume) w = (.done content, w')) :
    (w'.host.holding name pool).seed? = some seed ∧ seed.content = content := by
  obtain ⟨h, same, answer⟩ : ∃ h : Host, h.holding name pool = w.host.holding name pool ∧ _ :=
    ask_done_holding gentle run
  obtain ⟨found, there', read⟩ := Host.answer_downloadVolume_done answer
  obtain rfl := Option.some.inj (((congrArg Holding.seed? same).symm.trans there').symm.trans there)
  have kept : h = w'.host := (Host.answer_query ⟨rfl, rfl⟩).symm.trans (congrArg Prod.snd answer)
  exact ⟨kept ▸ there', read⟩

end

/-- A seed volume that was filled holds the image, as it was read back. -/
theorem fillSeedVolume_filled {path : String} (gentle : w.Gentle)
    (run : fillSeedVolume spec.storagePool spec.names.seedVolume image w = (.done path, w')) :
    Shows (Event.Creates spec.storagePool spec.names.seedVolume) w w' ∧
    ∃ seed, (w'.host.holding spec.name spec.storagePool).seed? = some seed ∧ seed.path = path ∧
      seed.content.bytes = image := by
  obtain ⟨_, w₁, made, run⟩ := bind_done run
  obtain ⟨there, rfl⟩ := createVolume_there gentle made
  have gentle₁ := ask_gentle gentle made
  obtain ⟨_, w₂, uploaded, run⟩ := bind_done run
  obtain ⟨content, there₂⟩ := uploadVolume_there gentle₁ there uploaded
  obtain ⟨_, w₃, read, run⟩ := bind_done run
  obtain ⟨there₃, rfl⟩ := downloadVolume_there (ask_gentle gentle₁ uploaded) there₂ read
  have shows : Shows (Event.Creates spec.storagePool spec.names.seedVolume) w w₃ :=
    (createVolume_shows made).before (logs_frame.trans (ask_logs uploaded) (ask_logs read))
  -- Whatever the upload left in the volume, it is compared with the image before the path is given.
  split at run
  · cases run
  next whole =>
    obtain ⟨path, rfl⟩ := Prod.mk.inj run
    cases path
    exact ⟨shows, _, there₃, rfl, Classical.not_not.mp whole⟩

theorem createSeedVolume_filled {path : String} (gentle : w.Gentle)
    (run : createSeedVolume spec.storagePool spec.names.seedVolume image w = (.done path, w')) :
    Shows (Event.Creates spec.storagePool spec.names.seedVolume) w w' ∧
    ∃ seed, (w'.host.holding spec.name spec.storagePool).seed? = some seed ∧ seed.path = path ∧
      seed.content.bytes = image := by
  rw [createSeedVolume_eq] at run
  obtain ⟨_, w₁, removed, filled⟩ := bind_done run
  have removing := (deleteIfThere_reaches (List.mem_singleton_self _)).of_run removed
  obtain ⟨shows, filling⟩ := fillSeedVolume_filled (removing.store.gentle gentle) filled
  exact ⟨.behind removing.logs shows, filling⟩

/-- A disk volume that was made lies over the machine's backing image. -/
theorem createDiskVolume_laid {path : String} (gentle : w.Gentle)
    (run : createDiskVolume spec w = (.done path, w')) :
    ∃ disk, (w'.host.holding spec.name spec.storagePool).disk? = some disk ∧ disk.path = path ∧
      disk.descriptor.format = "qcow2" ∧ disk.descriptor.backing? ≠ none := by
  obtain ⟨_, w₁, removed, made⟩ := bind_done run
  have gentle₁ := ((deleteIfThere_reaches (List.mem_singleton_self _)).of_run removed).store.gentle gentle
  obtain ⟨there, rfl⟩ := createVolume_there gentle₁ made
  exact ⟨_, there, rfl, rfl, by nofun⟩

theorem createDiskVolume_seed {o : Outcome Error String} (gentle : w.Gentle)
    (run : createDiskVolume spec w = (o, w')) :
    (w'.host.holding spec.name spec.storagePool).seed? =
      (w.host.holding spec.name spec.storagePool).seed? := by
  have path := (createDiskVolume_makes spec).of_run run
  refine path.holding (Q := (·.seed? = (w.host.holding spec.name spec.storagePool).seed?)) gentle
    (fun r h makes same => ?_) rfl
  exact (Host.answer_volume_other (makes_other makes (diskVolume_ne_seedVolume spec).symm)).trans same

def boot (domain : DomainDescriptor) : Action Error Unit := do
  ask s!"failed to define domain '{domain.name}'" (.defineDomain domain)
  ask s!"failed to start domain '{domain.name}'" (.startDomain domain.name)

theorem install_eq (spec : Spec) (seedPath : String) : install spec seedPath = (do
    let diskPath ← createDiskVolume spec
    boot (domainFor spec diskPath seedPath)) := rfl

theorem boot_whole {domain : DomainDescriptor} {disk seed : Volume} {o : Outcome Error Unit}
    (gentle : w.Gentle) (held : w.host.holding domain.name pool = ⟨none, some disk, some seed⟩)
    (complete : Holding.Complete image domain disk seed) (run : boot domain w = (o, w')) :
    Bare domain.name pool w' ∨ (w'.host.holding domain.name pool).Whole image := by
  rcases bind_cases run with ⟨_, w₁, defined, started⟩ | ⟨e, defined, _⟩ | ⟨defined, _⟩
  · obtain ⟨h, same, answer⟩ : ∃ h : Host, h.holding domain.name pool = _ ∧ _ :=
      ask_done_holding gentle defined
    have volumes (volume : String) : w₁.host.volume? pool volume = h.volume? pool volume := by
      have kept : (h.answer (.defineDomain domain)).2.volume? pool volume = h.volume? pool volume :=
        Host.answer_volume_other (by nofun)
      rwa [answer] at kept
    obtain ⟨-, laid, seeded⟩ := Holding.mk.inj (same.trans held)
    have held₁ : w₁.host.holding domain.name pool = ⟨some domain, some disk, some seed⟩ :=
      Holding.ext (Host.answer_defineDomain_done answer) ((volumes _).trans laid)
        ((volumes _).trans seeded)
    have path : Reaches (· = .startDomain domain.name) w₁ w' := (reaches_ask _ (by rfl)).of_run started
    refine .inr (path.holding (Q := Holding.Whole image) (ask_gentle gentle defined) ?_ ?_)
    · rintro _ h rfl whole
      rwa [Host.answer_powers (by exact trivial)]
    · rw [held₁]
      exact ⟨domain, disk, seed, rfl, complete⟩
  · exact .inl (by rw [Bare, ask_turned gentle defined rfl, held])
  · exact .inl (by rw [Bare, ask_turned gentle defined rfl, held])

/-- The domain is defined over the two volumes, and not before they are there. -/
theorem install_whole {seed : Volume} {o : Outcome Error Unit} (gentle : w.Gentle)
    (bare : Bare spec.name spec.storagePool w)
    (seeded : (w.host.holding spec.name spec.storagePool).seed? = some seed)
    (run : install spec seed.path w = (o, w')) : Bare spec.name spec.storagePool w' ∨
      (w'.host.holding spec.name spec.storagePool).Whole seed.content.bytes := by
  rw [install_eq] at run
  rcases bind_cases run with ⟨diskPath, w₁, made, booted⟩ | ⟨e, made, _⟩ | ⟨made, _⟩ <;>
    have path := (createDiskVolume_makes spec).of_run made
  · obtain ⟨disk, laid, rfl, format, backing⟩ := createDiskVolume_laid gentle made
    have held : w₁.host.holding spec.name spec.storagePool = ⟨none, some disk, some seed⟩ :=
      Holding.ext (makes_bare path gentle bare) laid ((createDiskVolume_seed gentle made).trans seeded)
    exact boot_whole (path.store.gentle gentle) held ⟨rfl, rfl, format, backing, rfl⟩ booted
  · exact .inl (makes_bare path gentle bare)
  · exact .inl (makes_bare path gentle bare)

/-- There is no domain, or the whole machine is there, with a seed volume that was made on the way. -/
def Raises (name pool : String) (image : Bytes) (w w' : World) : Prop :=
  Bare name pool w' ∨ (w'.host.holding name pool).Whole image ∧
    Shows (Event.Creates pool (Names.of name).seedVolume) w w'

theorem Raises.behind {P : Event → Prop} {w₁ : World} (earlier : Logs P w w₁)
    (raises : Raises name pool image w₁ w') : Raises name pool image w w' :=
  raises.imp_right fun ⟨whole, shows⟩ => ⟨whole, .behind earlier shows⟩

theorem Raises.before {P : Event → Prop} {w₁ : World} (raises : Raises name pool image w w₁)
    (later : Logs P w₁ w') (same : w'.host.holding name pool = w₁.host.holding name pool) :
    Raises name pool image w w' := by
  rw [Raises, Bare, same]
  exact raises.imp_right fun ⟨whole, shows⟩ => ⟨whole, shows.before later⟩

theorem furnish_raises {o : Outcome Error Unit} (gentle : w.Gentle)
    (bare : Bare spec.name spec.storagePool w) (run : furnish spec image w = (o, w')) :
    Raises spec.name spec.storagePool image w w' := by
  rcases bind_cases run with ⟨seedPath, w₁, made, installed⟩ | ⟨e, made, _⟩ | ⟨made, _⟩ <;>
    have path := (createSeedVolume_makes spec.storagePool spec.names.seedVolume image).of_run made
  · obtain ⟨shows, seed, seeded, rfl, rfl⟩ := createSeedVolume_filled gentle made
    have later := ((install_reaches spec seed.path).of_run installed).logs
    exact (install_whole (path.store.gentle gentle) (makes_bare path gentle bare) seeded
      installed).imp_right fun whole => ⟨whole, shows.before later⟩
  · exact .inl (makes_bare path gentle bare)
  · exact .inl (makes_bare path gentle bare)

theorem provision_raises {o : Outcome Error Unit} (gentle : w.Gentle)
    (bare : Bare spec.name spec.storagePool w) (run : provision spec image w = (o, w')) :
    Raises spec.name spec.storagePool image w w' := by
  rw [provision_eq] at run
  have looked {o₁ : Outcome Error Unit} {w₁ : World}
      (run : ask s!"failed to get storage pool '{spec.storagePool}'" (.lookupPool spec.storagePool) w =
        (o₁, w₁)) : Bare spec.name spec.storagePool w₁ := by
    have path : Reaches Request.IsQuery w w₁ := (reaches_ask _ ⟨rfl, rfl⟩).of_run run
    refine path.holding (Q := (·.domain? = none)) gentle (fun r h query bare => ?_) bare
    rwa [Host.answer_query query]
  rcases bind_cases run with ⟨_, w₁, found, furnished⟩ | ⟨e, found, _⟩ | ⟨found, _⟩
  · exact (furnish_raises (ask_gentle gentle found) (looked found) furnished).behind (ask_logs found)
  · exact .inl (looked found)
  · exact .inl (looked found)

theorem connected_raises {body : Action Error α} {ok : Request → Prop} {o : Outcome Error α}
    (within : body.Keeps (Reaches ok)) (gentle : w.Gentle) (bare : Bare name pool w)
    (through : ∀ {w₁ w₂ : World} {o₁ : Outcome Error α}, w₁.Gentle → Bare name pool w₁ →
      body w₁ = (o₁, w₂) → Raises name pool image w₁ w₂)
    (run : connected body w = (o, w')) : Raises name pool image w w' := by
  rcases connected_ways run with ⟨o₁, _, refused, _⟩ | ⟨w₁, o₁, w₂, opened, ran, closed⟩
  · exact .inl (by rw [Bare, connect_holding gentle refused, bare])
  · have opening : Reaches ok w w₁ := Keeps.of_run (fun w => .connect .refl) opened
    have gentle₁ := opening.store.gentle gentle
    have bare₁ : Bare name pool w₁ := by rw [Bare, connect_holding gentle opened, bare]
    have raised := (through gentle₁ bare₁ ran).behind opening.logs
    rcases closed with ⟨rfl, _⟩ | ⟨rfl, _⟩
    · exact raised
    · have closing : Reaches ok w₂ (disconnect w₂).2 := .disconnect .refl
      exact raised.before closing.logs
        (disconnect_holding ((within.of_run ran).store.gentle gentle₁))

/-- Where there was no domain, there is none after a creation, or a whole machine with its image. -/
theorem create_raises {o : Outcome Error Unit} (gentle : w.Gentle)
    (bare : Bare spec.name spec.storagePool w) (run : create spec w = (o, w')) :
    Bare spec.name spec.storagePool w' ∨
      ∃ image, CloudInit.image spec.name spec.userData = .ok image ∧
        Raises spec.name spec.storagePool image w w' := by
  unfold create at run
  split at run
  · obtain ⟨-, rfl⟩ := Prod.mk.inj run
    exact .inl bare
  cases built : CloudInit.image spec.name spec.userData with
  | error e =>
    rw [built] at run
    obtain ⟨-, rfl⟩ := Prod.mk.inj run
    exact .inl bare
  | ok image =>
    rw [built] at run
    refine .inr ⟨image, rfl, connected_raises ((provision_reaches spec image).mapError _) gentle bare
      (fun gentle₁ bare₁ ran => ?_) run⟩
    obtain ⟨o₂, provisioned, _⟩ := mapError_cases ran
    exact provision_raises gentle₁ bare₁ provisioned

end Lifecycle

end MachineKeeper
