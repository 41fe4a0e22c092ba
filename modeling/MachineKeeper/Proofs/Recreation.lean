import MachineKeeper.Proofs.Volumes

/-! Creating a machine whose volumes are there already. Which of them are deleted depends on the
calls that get through, and not on whether there is a domain that uses them. -/
namespace MachineKeeper.Lifecycle

open Session MachineKeeper.Action

variable {w w' : World} {spec : Spec}

/-- Whatever the machines' names are, no disk is named as a seed is. -/
theorem diskVolume_ne_seedVolume_of (a b : String) :
    (Names.of a).diskVolume ≠ (Names.of b).seedVolume := by
  intro same
  have last := congrArg (fun name : String => name.toList.getLast?) same
  simp [Names.of] at last

theorem diskVolume_ne_seedVolume (spec : Spec) : spec.names.diskVolume ≠ spec.names.seedVolume :=
  diskVolume_ne_seedVolume_of spec.name spec.name

theorem image_length {machine userData : String} {image : Bytes}
    (built : CloudInit.image machine userData = .ok image) :
    image ≠ [] ∧ image.length < UInt64.size := by
  obtain ⟨sectors, start, bounded, length⟩ := Iso.build_length built
  simp only [Iso.firstFileSector, Iso.sectorSize, UInt32.size, UInt64.size] at *
  exact ⟨fun empty => by simp only [empty, List.length_nil] at length; omega, by omega⟩

theorem utf8ByteSize_le (text : String) : text.utf8ByteSize ≤ 4 * text.length := by
  induction text using String.push_induction with
  | empty => decide
  | push text c ih =>
    have size := c.utf8Size_le_four
    rw [String.utf8ByteSize_push, String.length_push]
    omega

/-- A name that is short enough leaves room for an image with any cloud-config below 4 GiB. -/
theorem image_built_of_short {machine userData : String} (short : machine.length ≤ maxNameLength)
    (fits : userData.utf8ByteSize < UInt32.size) : ∃ image, CloudInit.image machine userData = .ok image := by
  refine CloudInit.image_built fits ?_
  have name := utf8ByteSize_le machine
  have first : "instance-id: ".utf8ByteSize = 13 := by decide
  have second : "\nlocal-hostname: ".utf8ByteSize = 17 := by decide
  have last : "\n".utf8ByteSize = 1 := by decide
  -- The lengths of the texts are stated, since unfolding by equation evaluates the texts themselves.
  change ("instance-id: " ++ machine ++ "\nlocal-hostname: " ++ machine ++ "\n").utf8ByteSize < _
  simp only [String.utf8ByteSize_append, maxNameLength, UInt32.size] at *
  omega

theorem toNat_kib {mib : UInt64} (fits : mib.toNat * 1024 < UInt64.size) :
    (mib * 1024).toNat = mib.toNat * 1024 := by
  rw [UInt64.toNat_mul]
  exact Nat.mod_eq_of_lt fits

theorem corrupted_ne {image : Bytes} (nonempty : image ≠ []) : Host.corrupted image ≠ image := by
  have ends : image.dropLast ++ [image.getLast nonempty] = image := List.dropLast_concat_getLast nonempty
  intro same
  rw [Host.corrupted, List.getLast?_eq_some_getLast nonempty] at same
  have inverted := (List.append_right_inj _).mp (same.trans ends.symm)
  simp only [List.cons.injEq, and_true] at inverted
  have zero : (0xff : UInt8) = 0 := (UInt8.xor_right_inj _).mp (inverted.trans UInt8.xor_zero.symm)
  cases zero

theorem landed_eq_iff {h : Host} {image : Bytes} (nonempty : image ≠ []) :
    landed h image = image ↔ h.corruptsUploads = false := by
  cases corrupts : h.corruptsUploads <;> simp [landed, corrupts, corrupted_ne nonempty]

theorem Deleted.bind {α β : Type} {pool volume : String} {ok : Request → Prop} {m : Action Error α}
    {f : α → Action Error β} {o₁ : Outcome Error α} {w₁ : World} {o : Outcome Error β}
    (deleted : Deleted pool volume w w₁) (first : m w = (o₁, w₁))
    (rest : ∀ a, (f a).Keeps (Reaches ok)) (run : (m >>= f) w = (o, w')) :
    Deleted pool volume w w' := by
  rcases bind_cases run with ⟨a, w₂, ran, later⟩ | ⟨_, ran, _⟩ | ⟨ran, _⟩
  · obtain ⟨-, rfl⟩ := Prod.mk.inj (first.symm.trans ran)
    exact deleted.before ((rest a).of_run later).logs
  · obtain ⟨-, rfl⟩ := Prod.mk.inj (first.symm.trans ran)
    exact deleted
  · obtain ⟨-, rfl⟩ := Prod.mk.inj (first.symm.trans ran)
    exact deleted

/-- What is done once there is a seed volume. -/
def install (spec : Spec) (seedPath : String) : Action Error Unit := do
  let diskPath ← createDiskVolume spec
  let domain := domainFor spec diskPath seedPath
  ask s!"failed to define domain '{domain.name}'" (.defineDomain domain)
  ask s!"failed to start domain '{domain.name}'" (.startDomain domain.name)

/-- What is done in a pool that was found. -/
def furnish (spec : Spec) (image : Bytes) : Action Error Unit := do
  let seedPath ← createSeedVolume spec.storagePool spec.names.seedVolume image
  install spec seedPath

theorem provision_eq (spec : Spec) (image : Bytes) : provision spec image = (do
    ask s!"failed to get storage pool '{spec.storagePool}'" (.lookupPool spec.storagePool)
    furnish spec image) := rfl

theorem provision_cases {image : Bytes} {volumes : Table Volume} {o : Outcome Error Unit}
    (quiet : w.Undisturbed) (there : w.host.pools[spec.storagePool]? = some volumes)
    (run : provision spec image w = (o, w')) :
    (¬ w.Hears .lookupPool 1 ∧ ∀ pool volume, Untouched pool volume w w') ∨
    w.Hears .lookupPool 1 ∧ ∃ w₁, w₁.Undisturbed ∧ w₁.host = w.host ∧
      (∀ pool volume, Untouched pool volume w w₁) ∧
      (∀ call n, call ≠ .lookupPool → 0 < n → (w₁.Hears call n ↔ w.Hears call n)) ∧
      furnish spec image w₁ = (o, w') := by
  rw [provision_eq] at run
  obtain ⟨o₁, w₁, asked⟩ : ∃ o₁ w₁, send (.lookupPool spec.storagePool) w = (o₁, w₁) := ⟨_, _, rfl⟩
  have untouched : ∀ pool volume, Untouched pool volume w w₁ := by
    intro pool volume
    have path : Reaches (· = .lookupPool spec.storagePool) w w₁ := (reaches_send (by rfl)).of_run asked
    refine reaches_untouched path quiet ?_
    rintro _ rfl
    nofun
  by_cases heard : w.Hears .lookupPool 1
  · obtain ⟨answer, _⟩ := send_heard quiet asked heard
    rw [Host.answer_lookupPool there] at answer
    obtain ⟨rfl, same⟩ := Prod.mk.inj answer
    rw [bind_of_done (ask_of_done asked)] at run
    exact .inr ⟨heard, w₁, send_undisturbed quiet asked, same.symm, untouched,
      fun call n other later => send_hears_other quiet asked other later, run⟩
  · obtain ⟨e, _, rfl, _⟩ := send_unheard quiet asked heard
    rw [bind_of_failed (ask_of_failed asked)] at run
    obtain ⟨-, rfl⟩ := Prod.mk.inj run
    exact .inl ⟨heard, untouched⟩

theorem start_reaches (spec : Spec) (seedPath diskPath : String) :
    (do
      let domain := domainFor spec diskPath seedPath
      ask s!"failed to define domain '{domain.name}'" (.defineDomain domain)
      ask s!"failed to start domain '{domain.name}'" (.startDomain domain.name)).Keeps
      (Reaches (Provisions spec)) :=
  reaches_frame.bind (reaches_ask _ (by rfl)) fun _ => reaches_ask _ (by rfl)

theorem install_reaches (spec : Spec) (seedPath : String) :
    (install spec seedPath).Keeps (Reaches (Provisions spec)) :=
  reaches_frame.bind (createDiskVolume_reaches spec) fun diskPath => start_reaches spec seedPath diskPath

theorem furnish_seed {image : Bytes} {volumes : Table Volume} {old : Volume} {o : Outcome Error Unit}
    (quiet : w.Undisturbed) (there : w.host.pools[spec.storagePool]? = some volumes)
    (found : volumes[spec.names.seedVolume]? = some old) (run : furnish spec image w = (o, w')) :
    (Clearable w → Deleted spec.storagePool spec.names.seedVolume w w') ∧
      (¬ Clearable w → Untouched spec.storagePool spec.names.seedVolume w w') := by
  obtain ⟨o₁, w₁, made⟩ :
    ∃ o₁ w₁, createSeedVolume spec.storagePool spec.names.seedVolume image w = (o₁, w₁) := ⟨_, _, rfl⟩
  obtain ⟨cleared, blocked⟩ := createSeedVolume_present quiet there found made
  constructor
  · intro clearable
    exact (cleared clearable).bind made (install_reaches spec) run
  · intro unclearable
    obtain ⟨⟨e, rfl⟩, untouched⟩ := blocked unclearable
    obtain ⟨-, rfl⟩ := Prod.mk.inj ((bind_of_failed made).symm.trans run)
    exact untouched

theorem install_disk {seedPath : String} {volumes : Table Volume} {old : Volume}
    {o : Outcome Error Unit} (quiet : w.Undisturbed)
    (there : w.host.pools[spec.storagePool]? = some volumes)
    (found : volumes[spec.names.diskVolume]? = some old) (run : install spec seedPath w = (o, w')) :
    (Clearable w → Deleted spec.storagePool spec.names.diskVolume w w') ∧
      (¬ Clearable w → Untouched spec.storagePool spec.names.diskVolume w w') := by
  obtain ⟨o₁, w₁, made⟩ : ∃ o₁ w₁, createDiskVolume spec w = (o₁, w₁) := ⟨_, _, rfl⟩
  obtain ⟨cleared, blocked⟩ := createDiskVolume_present quiet there found made
  constructor
  · intro clearable
    exact (cleared clearable).bind made (start_reaches spec seedPath) run
  · intro unclearable
    obtain ⟨⟨e, rfl⟩, untouched⟩ := blocked unclearable
    obtain ⟨-, rfl⟩ := Prod.mk.inj ((bind_of_failed made).symm.trans run)
    exact untouched

/-- The disk volume is deleted where the seed volume is finished and the requests for the disk volume
get through as well: the second look-up, and the second deletion unless there was no seed volume. -/
def DiskClearable (spec : Spec) (w : World) : Prop :=
  Remakable spec.storagePool spec.names.seedVolume w ∧ w.host.corruptsUploads = false ∧
    w.Hears .volumePath 2 ∧
    w.Hears .deleteVolume (if w.host.volume? spec.storagePool spec.names.seedVolume = none then 1 else 2)

theorem furnish_disk {image : Bytes} {volumes : Table Volume} {old : Volume} {o : Outcome Error Unit}
    (quiet : w.Undisturbed) (nonempty : image ≠ []) (fits : image.length < UInt64.size)
    (there : w.host.pools[spec.storagePool]? = some volumes)
    (found : volumes[spec.names.diskVolume]? = some old) (run : furnish spec image w = (o, w')) :
    (DiskClearable spec w → Deleted spec.storagePool spec.names.diskVolume w w') ∧
      (¬ DiskClearable spec w → Untouched spec.storagePool spec.names.diskVolume w w') := by
  obtain ⟨o₁, w₁, made⟩ :
    ∃ o₁ w₁, createSeedVolume spec.storagePool spec.names.seedVolume image w = (o₁, w₁) := ⟨_, _, rfl⟩
  have path := (createSeedVolume_makes spec.storagePool spec.names.seedVolume image).of_run made
  have quiet₁ := path.store.undisturbed quiet
  have untouched : Untouched spec.storagePool spec.names.diskVolume w w₁ :=
    reaches_untouched path quiet fun r makes => makes_other makes (diskVolume_ne_seedVolume spec)
  have finished := createSeedVolume_done_iff quiet there fits made
  rw [landed_eq_iff nonempty] at finished
  by_cases done : ∃ seedPath, o₁ = .done seedPath
  · obtain ⟨remakable, intact⟩ := finished.mp done
    obtain ⟨seedPath, rfl⟩ := done
    rw [furnish, bind_of_done made] at run
    have present : w₁.host.volume? spec.storagePool spec.names.diskVolume = some old := by
      rw [untouched.same, Host.volume?_eq_some]
      exact ⟨volumes, there, found⟩
    obtain ⟨volumes₁, there₁, found₁⟩ := Host.volume?_eq_some.mp present
    have clear : spec.names.seedVolume ∈ volumes → Clearable w :=
      fun member => remakable.1 ((Host.volume?_ne_none there).mpr member)
    have clearable : Clearable w₁ ↔ DiskClearable spec w := by
      have seed : w.host.volume? spec.storagePool spec.names.seedVolume ≠ none ↔
        spec.names.seedVolume ∈ volumes := Host.volume?_ne_none there
      have lookedUp : w₁.Hears .volumePath 1 ↔ _ :=
        createSeedVolume_hears quiet there clear (by decide) Nat.one_pos made
      have deleted : w₁.Hears .deleteVolume 1 ↔ _ :=
        createSeedVolume_hears quiet there clear (by decide) Nat.one_pos made
      unfold Clearable DiskClearable
      rw [lookedUp, deleted]
      by_cases member : spec.names.seedVolume ∈ volumes
      · simp [member, seed.mpr member, remakable, intact]
      · simp [member, Decidable.not_not.mp (mt seed.mp member), remakable, intact]
    rw [← clearable]
    obtain ⟨cleared, blocked⟩ := install_disk quiet₁ there₁ found₁ run
    exact ⟨fun clearable => (cleared clearable).behind path.logs,
      fun blocked' => untouched_frame.trans untouched (blocked blocked')⟩
  · have blocked : ¬ DiskClearable spec w := fun ⟨remakable, intact, _⟩ =>
      done (finished.mpr ⟨remakable, intact⟩)
    have same : w' = w₁ := by
      rcases bind_cases run with ⟨seedPath, w₂, ran, _⟩ | ⟨_, ran, _⟩ | ⟨ran, _⟩
      · obtain ⟨rfl, -⟩ := Prod.mk.inj (made.symm.trans ran)
        exact absurd ⟨seedPath, rfl⟩ done
      · exact (Prod.mk.inj (ran.symm.trans made)).2
      · exact (Prod.mk.inj (ran.symm.trans made)).2
    subst same
    exact ⟨fun clearable => absurd clearable blocked, fun _ => untouched⟩

/-- A creation comes as far as the machine's pool. -/
structure Starts (spec : Spec) (w : World) : Prop where
  name : spec.name.length ≤ maxNameLength
  image : ∃ image, CloudInit.image spec.name spec.userData = .ok image
  admits : w.Admits
  pool : w.Hears .lookupPool 1

/-- The second world has the same objects on the host, and the same faults wait for the calls that
come after the pool is looked up. -/
structure Alike (w w' : World) : Prop where
  objects : w'.host.objects = w.host.objects
  hears : ∀ call n, call ≠ .lookupPool → 0 < n → (w'.Hears call n ↔ w.Hears call n)

theorem Alike.clearable (alike : Alike w w') : Clearable w' ↔ Clearable w := by
  unfold Clearable
  rw [alike.hears _ _ (by decide) Nat.one_pos, alike.hears _ _ (by decide) Nat.one_pos]

theorem Alike.diskClearable (alike : Alike w w') : DiskClearable spec w' ↔ DiskClearable spec w := by
  unfold DiskClearable Remakable Fillable
  rw [alike.clearable, alike.hears _ _ (by decide) Nat.one_pos, alike.hears _ _ (by decide) Nat.one_pos,
    alike.hears _ _ (by decide) Nat.one_pos, alike.hears _ _ (by decide) (by decide),
    alike.hears _ _ (by decide) (by split <;> decide), Host.volume?_of_objects alike.objects,
    Host.corruptsUploads_of_behaviour (Host.behaviour_of_objects alike.objects)]

/-- What becomes of a volume in the pool becomes of it in the whole operation. -/
theorem create_settles {P : World → Prop} {pool volume : String} {volumes : Table Volume}
    {o : Outcome Error Unit} (quiet : w.Undisturbed)
    (there : w.host.pools[spec.storagePool]? = some volumes)
    (stable : ∀ {a b : World}, Alike a b → (P b ↔ P a))
    (stage : ∀ {image : Bytes} {a b : World} {o : Outcome Error Unit}, a.Undisturbed →
      a.host.pools = w.host.pools → image ≠ [] → image.length < UInt64.size →
      furnish spec image a = (o, b) →
      (P a → Deleted pool volume a b) ∧ (¬ P a → Untouched pool volume a b))
    (run : create spec w = (o, w')) :
    (Starts spec w ∧ P w → Deleted pool volume w w') ∧
      (¬ (Starts spec w ∧ P w) → Untouched pool volume w w') := by
  have unstarted (still : Untouched pool volume w w') (never : ¬ Starts spec w) :
      (Starts spec w ∧ P w → Deleted pool volume w w') ∧
        (¬ (Starts spec w ∧ P w) → Untouched pool volume w w') :=
    ⟨fun ⟨starts, _⟩ => absurd starts never, fun _ => still⟩
  -- Whatever stops the creation before its pool is looked up leaves the volumes alone.
  unfold create at run
  split at run
  next long =>
    obtain ⟨-, rfl⟩ := Prod.mk.inj run
    exact unstarted (untouched_frame.refl w) fun starts => Nat.not_le_of_gt long starts.name
  next short =>
  cases built : CloudInit.image spec.name spec.userData with
  | error e =>
    rw [built] at run
    obtain ⟨-, rfl⟩ := Prod.mk.inj run
    refine unstarted (untouched_frame.refl w) fun starts => ?_
    obtain ⟨image, other⟩ := starts.image
    cases built.symm.trans other
  | ok image =>
    obtain ⟨nonempty, fits⟩ := image_length built
    rw [built] at run
    change connected ((provision spec image).mapError (.create spec.name)) w = (o, w') at run
    by_cases admits : w.Admits
    · obtain ⟨w₁, w₂, opened, hears, ran, closed⟩ :=
        connected_admitted quiet ((provision_reaches spec image).mapError _) admits run
      obtain ⟨o₁, provisioned, _⟩ := mapError_cases ran
      have quiet₁ := opened.toSameStore.undisturbed quiet
      have there₁ : w₁.host.pools[spec.storagePool]? = some volumes := by
        rw [Host.pools_of_objects opened.objects, there]
      have closing : Untouched pool volume w₂ w' := by
        rcases closed with idle | ⟨_, rfl⟩
        · exact Idle.untouched idle id
        · exact untouched_frame.refl _
      have opening : Untouched pool volume w w₁ := Idle.untouched opened id
      rcases provision_cases quiet₁ there₁ provisioned with
        ⟨unheard, untouched⟩ | ⟨heard, w₃, quiet₃, host₃, untouched, hears₃, furnished⟩
      · refine unstarted (untouched_frame.trans opening (untouched_frame.trans (untouched _ _) closing)) ?_
        exact fun starts => unheard ((hears _ _ Nat.one_pos).mpr starts.pool)
      · have alike : Alike w w₃ := by
          refine ⟨by rw [host₃, opened.objects], fun call n other later => ?_⟩
          rw [hears₃ call n other later, hears call n later]
        have starts : Starts spec w :=
          ⟨Nat.le_of_not_gt short, ⟨image, built⟩, admits, (hears _ _ Nat.one_pos).mp heard⟩
        have before := untouched_frame.trans opening (untouched pool volume)
        obtain ⟨deletes, spares⟩ :=
          stage quiet₃ (Host.pools_of_objects alike.objects) nonempty fits furnished
        rw [stable alike] at deletes spares
        constructor
        · rintro ⟨_, settled⟩
          exact ((deletes settled).before closing.kept).behind before.kept
        · intro unsettled
          have spared := spares fun settled => unsettled ⟨starts, settled⟩
          exact untouched_frame.trans before (untouched_frame.trans spared closing)
    · obtain ⟨_, idle⟩ := connected_unadmitted quiet admits run
      exact unstarted (Idle.untouched idle id) fun starts => admits starts.admits

theorem create_seed {seed : Volume} {o : Outcome Error Unit} (quiet : w.Undisturbed)
    (present : w.host.volume? spec.storagePool spec.names.seedVolume = some seed)
    (run : create spec w = (o, w')) :
    (Starts spec w ∧ Clearable w → Deleted spec.storagePool spec.names.seedVolume w w') ∧
      (¬ (Starts spec w ∧ Clearable w) →
        Untouched spec.storagePool spec.names.seedVolume w w') := by
  obtain ⟨volumes, there, found⟩ := Host.volume?_eq_some.mp present
  exact create_settles quiet there Alike.clearable
    (fun quiet₁ pools _ _ ran => furnish_seed quiet₁ (pools ▸ there) found ran) run

theorem create_disk {disk : Volume} {o : Outcome Error Unit} (quiet : w.Undisturbed)
    (present : w.host.volume? spec.storagePool spec.names.diskVolume = some disk)
    (run : create spec w = (o, w')) :
    (Starts spec w ∧ DiskClearable spec w →
      Deleted spec.storagePool spec.names.diskVolume w w') ∧
      (¬ (Starts spec w ∧ DiskClearable spec w) →
        Untouched spec.storagePool spec.names.diskVolume w w') := by
  obtain ⟨volumes, there, found⟩ := Host.volume?_eq_some.mp present
  exact create_settles quiet there Alike.diskClearable (fun quiet₁ pools nonempty fits ran =>
    furnish_disk quiet₁ nonempty fits (pools ▸ there) found ran) run

/-- The volumes of a machine are what they were after a creation, unless its requests get through that
far; whether there is a domain that uses them makes no difference. -/
theorem create_untouched_iff {o : Outcome Error Unit} (quiet : w.Undisturbed)
    (run : create spec w = (o, w')) :
    (∀ seed, w.host.volume? spec.storagePool spec.names.seedVolume = some seed →
      (Untouched spec.storagePool spec.names.seedVolume w w' ↔ ¬ (Starts spec w ∧ Clearable w))) ∧
    (∀ disk, w.host.volume? spec.storagePool spec.names.diskVolume = some disk →
      (Untouched spec.storagePool spec.names.diskVolume w w' ↔
        ¬ (Starts spec w ∧ DiskClearable spec w))) := by
  constructor
  · intro seed present
    obtain ⟨deletes, spares⟩ := create_seed quiet present run
    exact ⟨fun untouched cleared => (deletes cleared).not_untouched untouched, spares⟩
  · intro disk present
    obtain ⟨deletes, spares⟩ := create_disk quiet present run
    exact ⟨fun untouched cleared => (deletes cleared).not_untouched untouched, spares⟩

/-- A machine that runs, with data on its disk. -/
def running : World := .serving (.ofSpec (.ofName "m"))

theorem create_untouched_iff_running :
    let spec := Spec.ofName "m"
    let w' := (create spec running).2
    spec.name ∈ running.host.domains ∧
    (∀ seed, running.host.volume? spec.storagePool spec.names.seedVolume = some seed →
      (Untouched spec.storagePool spec.names.seedVolume running w' ↔
        ¬ (Starts spec running ∧ Clearable running))) ∧
    (∀ disk, running.host.volume? spec.storagePool spec.names.diskVolume = some disk →
      (Untouched spec.storagePool spec.names.diskVolume running w' ↔
        ¬ (Starts spec running ∧ DiskClearable spec running))) :=
  ⟨by decide, create_untouched_iff (World.undisturbed_of_nil rfl rfl) (run_halves _ _)⟩

theorem running_starts : Starts (.ofName "m") running where
  name := by decide
  image := CloudInit.image_built (by decide) (by decide)
  admits := World.admits_of_calm rfl rfl
  pool := World.hears_of_calm rfl rfl _ _

theorem running_diskClearable : DiskClearable (.ofName "m") running := by
  have hears := World.hears_of_calm (w := running) rfl rfl
  exact ⟨⟨fun _ => ⟨hears _ _, hears _ _⟩, hears _ _, hears _ _, hears _ _⟩, rfl, hears _ _, hears _ _⟩

/-- A second creation deletes the disk of a machine that runs. -/
theorem create_deletes_used_disk : ¬ ∀ (spec : Spec) (w : World) (o : Outcome Error Unit) (w' : World),
    w.Undisturbed → spec.name ∈ w.host.domains → create spec w = (o, w') →
    (∀ seed, w.host.volume? spec.storagePool spec.names.seedVolume = some seed →
      Untouched spec.storagePool spec.names.seedVolume w w') ∧
    (∀ disk, w.host.volume? spec.storagePool spec.names.diskVolume = some disk →
      Untouched spec.storagePool spec.names.diskVolume w w') := by
  intro claimed
  have quiet : running.Undisturbed := World.undisturbed_of_nil rfl rfl
  obtain ⟨disk, present⟩ : ∃ disk, running.host.volume? "default" "m.qcow2" = some disk :=
    Option.isSome_iff_exists.mp (by decide)
  have run := run_halves (create (.ofName "m")) running
  have deleted := (create_disk quiet present run).1 ⟨running_starts, running_diskClearable⟩
  exact deleted.not_untouched ((claimed _ _ _ _ quiet (by decide) run).2 disk present)

end MachineKeeper.Lifecycle
