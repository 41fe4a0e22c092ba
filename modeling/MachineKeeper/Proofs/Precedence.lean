import MachineKeeper.Proofs.Wholeness

/-! What comes before what in a creation, whatever fails and whatever is done to the host in between. A domain
is defined over volumes that were made and read back on the same connection, and started once it is
defined; and where a creation fails, it says which of its steps did. -/
namespace MachineKeeper

/-- A request that leaves domains alone, or no request at all. -/
def Event.Undomained : Event → Prop := Event.Within fun r => r.domain? = none

namespace Session

variable {ε α : Type} {P : Event → Prop} {wanted early late : List Event} {w w₁ w' : World}

/-- Among the events between two logs, all of which `P` allows, are those that are wanted, latest first. -/
def Includes (P : Event → Prop) (wanted : List Event) (w w' : World) : Prop :=
  ∃ events, w'.log = events ++ w.log ∧ wanted.Sublist events ∧ ∀ e ∈ events, P e

theorem Includes.trans (first : Includes P early w w₁) (second : Includes P late w₁ w') :
    Includes P (late ++ early) w w' := by
  obtain ⟨xs, log, sub, allowed⟩ := first
  obtain ⟨ys, log', sub', allowed'⟩ := second
  refine ⟨ys ++ xs, by rw [log', log, List.append_assoc], sub'.append sub, fun e member => ?_⟩
  rcases List.mem_append.mp member with later | before
  · exact allowed' e later
  · exact allowed e before

theorem Includes.one {e : Event} (log : w'.log = e :: w.log) (allowed : P e) : Includes P [e] w w' :=
  ⟨[e], log, List.Sublist.refl _, by simpa using allowed⟩

theorem Logs.includes (logs : Logs P w w') : Includes P [] w w' := by
  obtain ⟨events, log, allowed⟩ := logs
  exact ⟨events, log, List.nil_sublist _, allowed⟩

theorem Logs.sequenced {fits : Event → List Event → Prop} (logs : Logs P w w')
    (free : ∀ e past, P e → fits e past) : Sequenced fits w w' := by
  obtain ⟨events, log, allowed⟩ := logs
  exact ⟨events, log, fun e past here => free e past (allowed e (here.subset List.mem_cons_self))⟩

end Session

namespace Lifecycle

open Session MachineKeeper.Action

variable {α β : Type} {w w' : World} {spec : Spec} {image : Bytes}

/-- What was noted, latest first, before a domain is defined: the pool was found, both volumes were made, and
the one that is booted from gave the machine's image back when it was read. -/
def Verified (spec : Spec) (domain : DomainDescriptor) (past : List Event) : Prop :=
  ∃ image seedPath diskPath content, CloudInit.image spec.name spec.userData = .ok image ∧
    content.bytes = image ∧ domain = domainFor spec diskPath seedPath ∧
    List.Sublist [
      .request (.createVolume spec.storagePool (.overlay spec.names.diskVolume spec.diskSize
        spec.backingImagePath spec.backingImageFormat)) true (.done diskPath),
      .request (.downloadVolume spec.storagePool spec.names.seedVolume) true (.done content),
      .request (.uploadVolume spec.storagePool spec.names.seedVolume image) true (.done ()),
      .request (.createVolume spec.storagePool (.raw spec.names.seedVolume image.length.toUInt64))
        true (.done seedPath),
      .request (.lookupPool spec.storagePool) true (.done ())] past

/-- The place of an event in a creation: a domain is defined once its volumes are verified, and started right
after it was defined. -/
def InPlace (spec : Spec) : Event → List Event → Prop
  | .request (.defineDomain domain) _ _, past => Verified spec domain past
  | .request (.startDomain name) _ _, past => name = spec.name ∧
    ∃ domain earlier, past = .request (.defineDomain domain) true (.done ()) :: earlier
  | _, _ => True

theorem inPlace_frame (spec : Spec) : Frame (Sequenced (InPlace spec)) := by
  apply sequenced_frame
  intro e past earlier here
  cases e with
  | request r reached outcome =>
    cases r with
    | defineDomain domain =>
      obtain ⟨image, seedPath, diskPath, content, built, read, same, noted⟩ := here
      exact ⟨image, seedPath, diskPath, content, built, read, same,
        noted.trans (List.sublist_append_left _ _)⟩
    | startDomain name =>
      obtain ⟨named, domain, before, rfl⟩ := here
      exact ⟨named, domain, before ++ earlier, rfl⟩
    | _ => trivial
  | _ => trivial

theorem undomained_inPlace {e : Event} {past : List Event} (free : e.Undomained) : InPlace spec e past := by
  cases e with
  | request r reached outcome =>
    cases r with
    | defineDomain domain => cases free
    | startDomain name => cases free
    | _ => trivial
  | _ => trivial

theorem makes_undomained {pool volume : String} (path : Reaches (Makes pool volume) w w') :
    Logs Event.Undomained w w' := by
  refine path.logs.mono fun _ within => within.mono fun r makes => ?_
  cases r <;> first | rfl | exact (makes.elim id id).elim

section
variable {pool volume path : String}

/-- What is noted, latest first, when a volume was made and filled with an image, and was read. -/
def seedTrail (pool volume path : String) (image : Bytes) (content : Content) : List Event :=
  [.request (.downloadVolume pool volume) true (.done content),
    .request (.uploadVolume pool volume image) true (.done ()),
    .request (.createVolume pool (.raw volume image.length.toUInt64)) true (.done path)]

theorem fillSeedVolume_includes (run : fillSeedVolume pool volume image w = (.done path, w')) :
    ∃ content, content.bytes = image ∧
      Includes Event.Undomained (seedTrail pool volume path image content) w w' := by
  obtain ⟨made, w₁, created, run⟩ := bind_done run
  obtain ⟨_, w₂, uploaded, run⟩ := bind_done run
  obtain ⟨content, w₃, read, run⟩ := bind_done run
  split at run
  · cases run
  next whole =>
    obtain ⟨same, rfl⟩ := Prod.mk.inj run
    cases same
    have first : Includes Event.Undomained _ w w₁ := .one (send_done (ask_done created)) rfl
    have second : Includes Event.Undomained _ w₁ w₂ := .one (send_done (ask_done uploaded)) rfl
    have third : Includes Event.Undomained _ w₂ w₃ := .one (send_done (ask_done read)) rfl
    exact ⟨content, Classical.not_not.mp whole, (first.trans second).trans third⟩

theorem createSeedVolume_includes (run : createSeedVolume pool volume image w = (.done path, w')) :
    ∃ content, content.bytes = image ∧
      Includes Event.Undomained (seedTrail pool volume path image content) w w' := by
  rw [createSeedVolume_eq] at run
  obtain ⟨_, w₁, removed, filled⟩ := bind_done run
  have removing : Reaches (Removes pool [volume]) w w₁ :=
    (deleteIfThere_reaches (List.mem_singleton_self volume)).of_run removed
  obtain ⟨content, whole, includes⟩ := fillSeedVolume_includes filled
  exact ⟨content, whole, (makes_undomained (removing.mono fun _ => .inl)).includes.trans includes⟩

theorem createDiskVolume_includes (run : createDiskVolume spec w = (.done path, w')) :
    Includes Event.Undomained [.request (.createVolume spec.storagePool (.overlay spec.names.diskVolume
      spec.diskSize spec.backingImagePath spec.backingImageFormat)) true (.done path)] w w' := by
  obtain ⟨_, w₁, removed, made⟩ := bind_done run
  have removing : Reaches (Removes spec.storagePool [spec.names.diskVolume]) w w₁ :=
    (deleteIfThere_reaches (List.mem_singleton_self _)).of_run removed
  have making : Includes Event.Undomained _ w₁ w' := .one (send_done (ask_done made)) rfl
  exact (makes_undomained (removing.mono fun _ => .inl)).includes.trans making

end

theorem boot_inPlace {w₀ : World} {domain : DomainDescriptor} {past : List Event} {o : Outcome Error Unit}
    (log : w.log = past ++ w₀.log) (verified : Verified spec domain past)
    (ordered : Ordered (InPlace spec) past) (named : domain.name = spec.name)
    (run : boot domain w = (o, w')) : Sequenced (InPlace spec) w₀ w' := by
  have defining {o₁ : Outcome Error Unit} {w₁ : World}
      (asked : ask s!"failed to define domain '{domain.name}'" (.defineDomain domain) w = (o₁, w₁)) :
      Sequenced (InPlace spec) w₀ w₁ := by
    obtain ⟨reached, o₁, _, noted⟩ := ask_noted asked
    exact ⟨.request (.defineDomain domain) reached o₁ :: past, by rw [noted, log]; rfl,
      .cons verified ordered⟩
  rcases bind_cases run with ⟨_, w₁, defined, started⟩ | ⟨_, defined, _⟩ | ⟨defined, _⟩
  · have noted₁ := send_done (ask_done defined)
    obtain ⟨reached, o₂, _, noted₂⟩ := ask_noted started
    refine ⟨.request (.startDomain domain.name) reached o₂ ::
      .request (.defineDomain domain) true (.done ()) :: past, by rw [noted₂, noted₁, log]; rfl, ?_⟩
    exact .cons ⟨named, domain, past, rfl⟩ (.cons verified ordered)
  · exact defining defined
  · exact defining defined

theorem provision_inPlace {o : Outcome Error Unit}
    (built : CloudInit.image spec.name spec.userData = .ok image)
    (run : provision spec image w = (o, w')) : Sequenced (InPlace spec) w w' := by
  have frame := inPlace_frame spec
  have free {v v' : World} (logs : Logs Event.Undomained v v') : Sequenced (InPlace spec) v v' :=
    logs.sequenced fun _ _ => undomained_inPlace
  rw [provision_eq] at run
  have looking {o₁ : Outcome Error Unit} {w₁ : World}
      (asked : ask s!"failed to get storage pool '{spec.storagePool}'" (.lookupPool spec.storagePool) w =
        (o₁, w₁)) : Logs Event.Undomained w w₁ := by
    obtain ⟨reached, o₂, _, noted⟩ := ask_noted asked
    exact .one noted rfl
  rcases bind_cases run with ⟨_, w₁, looked, furnished⟩ | ⟨_, looked, _⟩ | ⟨looked, _⟩
  · have found : Includes Event.Undomained _ w w₁ := .one (send_done (ask_done looked)) rfl
    rcases bind_cases furnished with ⟨seedPath, w₂, seeded, installed⟩ | ⟨_, seeded, _⟩ | ⟨seeded, _⟩ <;>
      have seeding := makes_undomained ((createSeedVolume_makes _ _ _).of_run seeded)
    · obtain ⟨content, whole, seed⟩ := createSeedVolume_includes seeded
      rw [install_eq] at installed
      rcases bind_cases installed with ⟨diskPath, w₃, laid, booted⟩ | ⟨_, laid, _⟩ | ⟨laid, _⟩ <;>
        have laying := makes_undomained ((createDiskVolume_makes spec).of_run laid)
      · obtain ⟨past, log, verified, undomained⟩ := (found.trans seed).trans (createDiskVolume_includes laid)
        refine boot_inPlace log ⟨image, seedPath, diskPath, content, built, whole, rfl, verified⟩ ?_ rfl booted
        exact fun e earlier here => undomained_inPlace (undomained e (here.subset List.mem_cons_self))
      · exact free (logs_frame.trans (looking looked) (logs_frame.trans seeding laying))
      · exact free (logs_frame.trans (looking looked) (logs_frame.trans seeding laying))
    · exact free (logs_frame.trans (looking looked) seeding)
    · exact free (logs_frame.trans (looking looked) seeding)
  · exact free (looking looked)
  · exact free (looking looked)

/-- The steps of a creation that can fail, and what their failure is reported with. -/
inductive Step (spec : Spec) (image : Bytes) : Request → String → Prop
  | lookup : Step spec image (.lookupPool spec.storagePool)
      s!"failed to get storage pool '{spec.storagePool}'"
  | seed : Step spec image
      (.createVolume spec.storagePool (.raw spec.names.seedVolume image.length.toUInt64))
      s!"failed to create cloud-init storage volume '{spec.names.seedVolume}'"
  | upload : Step spec image (.uploadVolume spec.storagePool spec.names.seedVolume image)
      s!"failed to upload cloud-init ISO to '{spec.names.seedVolume}'"
  | download : Step spec image (.downloadVolume spec.storagePool spec.names.seedVolume)
      s!"failed to download cloud-init ISO from '{spec.names.seedVolume}'"
  | disk : Step spec image (.createVolume spec.storagePool (.overlay spec.names.diskVolume spec.diskSize
        spec.backingImagePath spec.backingImageFormat))
      s!"failed to create storage volume '{spec.names.diskVolume}'"
  | define (diskPath seedPath : String) : Step spec image
      (.defineDomain (domainFor spec diskPath seedPath)) s!"failed to define domain '{spec.name}'"
  | start : Step spec image (.startDomain spec.name) s!"failed to start domain '{spec.name}'"

/-- The last thing that was noted is the step that failed: its request was turned down, or the image that
was read back is another. -/
inductive StopsAt (spec : Spec) (image : Bytes) : List Event → Error → Prop
  | turned {r : Request} {context : String} {reached : Bool} {cause : HostError} {past : List Event}
      (step : Step spec image r context) :
      StopsAt spec image (.request r reached (.failed cause) :: past) (.host context cause)
  | garbled {content : Content} {past : List Event} (differs : content.bytes ≠ image) :
      StopsAt spec image
        (.request (.downloadVolume spec.storagePool spec.names.seedVolume) true (.done content) :: past)
        (.uploadMismatch spec.names.seedVolume image.length content.size)

theorem StopsAt.behind {past : List Event} {e : Error} (stops : StopsAt spec image past e)
    (earlier : List Event) : StopsAt spec image (past ++ earlier) e := by
  cases stops with
  | turned step => exact .turned step
  | garbled differs => exact .garbled differs

/-- A part of a creation that fails only where one of the steps does. -/
def Blames (spec : Spec) (image : Bytes) (m : Action Error α) : Prop :=
  ∀ ⦃w : World⦄ ⦃o : Outcome Error α⦄ ⦃w' : World⦄, m w = (o, w') →
    ∃ past, w'.log = past ++ w.log ∧ ∀ e, o = .failed e → StopsAt spec image past e

theorem Blames.bind {m : Action Error α} {f : α → Action Error β} (first : Blames spec image m)
    (rest : ∀ a, Blames spec image (f a)) : Blames spec image (m >>= f) := by
  intro w o w' run
  rcases bind_cases run with ⟨a, w₁, ran, later⟩ | ⟨e, ran, rfl⟩ | ⟨ran, rfl⟩
  · obtain ⟨early, log₁, _⟩ := first ran
    obtain ⟨late, log, stops⟩ := rest a later
    exact ⟨late ++ early, by rw [log, log₁, List.append_assoc],
      fun e failed => (stops e failed).behind early⟩
  · obtain ⟨past, log, stops⟩ := first ran
    refine ⟨past, log, ?_⟩
    rintro _ ⟨⟩
    exact stops e rfl
  · obtain ⟨past, log, _⟩ := first ran
    exact ⟨past, log, nofun⟩

theorem blames_ask {r : Request} {context : String} (step : Step spec image r context) :
    Blames spec image (ask context r) := by
  intro w o w' run
  obtain ⟨reached, o₁, rfl, log⟩ := ask_noted run
  refine ⟨[.request r reached o₁], log, fun e failed => ?_⟩
  cases o₁ with
  | done => cases failed
  | failed cause =>
    cases failed
    exact .turned step
  | overflow => cases failed

theorem blames_pure (a : α) : Blames spec image (pure a : Action Error α) := by
  intro w o w' run
  obtain ⟨rfl, rfl⟩ := Prod.mk.inj run
  exact ⟨[], rfl, nofun⟩

theorem blames_attempt_send (r : Request) :
    Blames spec image ((send r).attempt : Action Error (Except HostError r.Reply)) := by
  intro w o w' run
  obtain ⟨reached, noted⟩ := send_noted r w
  have log : (send r w).2 = w' → w'.log = [.request r reached (send r w).1] ++ w.log := by
    rintro rfl
    exact noted.log
  rcases attempt_cases run with ⟨_, sent, rfl⟩ | ⟨_, sent, rfl⟩ | ⟨sent, rfl⟩ <;>
    exact ⟨_, log (congrArg Prod.snd sent), nofun⟩

theorem blames_deleteIfThere (pool volume : String) : Blames spec image (deleteIfThere pool volume) := by
  apply (blames_attempt_send _).bind
  rintro (_ | _)
  · exact blames_pure ()
  · exact (blames_attempt_send _).bind fun _ => blames_pure ()

theorem blames_fillSeedVolume (spec : Spec) (image : Bytes) :
    Blames spec image (fillSeedVolume spec.storagePool spec.names.seedVolume image) := by
  apply (blames_ask .seed).bind
  intro path
  apply (blames_ask .upload).bind
  intro _ w o w' run
  -- What was read is in the log where it is compared with the image.
  rcases bind_cases run with ⟨content, w₁, read, rest⟩ | ⟨e, read, rfl⟩ | ⟨read, rfl⟩
  · have log := send_done (ask_done read)
    split at rest <;> obtain ⟨rfl, rfl⟩ := Prod.mk.inj rest
    next differs =>
      refine ⟨[_], log, ?_⟩
      rintro _ ⟨⟩
      exact .garbled differs
    · exact ⟨[_], log, nofun⟩
  · obtain ⟨past, log, stops⟩ := blames_ask .download read
    refine ⟨past, log, ?_⟩
    rintro _ ⟨⟩
    exact stops e rfl
  · obtain ⟨past, log, _⟩ := blames_ask (.download : Step spec image _ _) read
    exact ⟨past, log, nofun⟩

theorem blames_provision (spec : Spec) (image : Bytes) : Blames spec image (provision spec image) := by
  rw [provision_eq]
  apply (blames_ask .lookup).bind
  intro _
  apply Blames.bind
  · rw [createSeedVolume_eq]
    exact (blames_deleteIfThere _ _).bind fun _ => blames_fillSeedVolume spec image
  intro seedPath
  rw [install_eq]
  apply Blames.bind
  · exact (blames_deleteIfThere _ _).bind fun _ => blames_ask .disk
  intro diskPath
  exact (blames_ask (.define diskPath seedPath)).bind fun _ => blames_ask .start

theorem provision_done (run : provision spec image w = (.done (), w')) :
    ∃ past, w'.log = .request (.startDomain spec.name) true (.done ()) :: (past ++ w.log) := by
  rw [provision_eq] at run
  obtain ⟨_, w₁, looked, run⟩ := bind_done run
  obtain ⟨seedPath, w₂, seeded, run⟩ := bind_done run
  rw [install_eq] at run
  obtain ⟨diskPath, w₃, laid, run⟩ := bind_done run
  obtain ⟨_, w₄, defined, started⟩ := bind_done run
  have seeding := ((createSeedVolume_makes _ _ _).of_run seeded).logs
  have laying := ((createDiskVolume_makes spec).of_run laid).logs
  obtain ⟨past, log, _⟩ := logs_frame.trans (ask_logs looked)
    (logs_frame.trans (seeding.mono fun _ _ => trivial)
      (logs_frame.trans (laying.mono fun _ _ => trivial) (ask_logs defined)))
  exact ⟨past, (send_done (ask_done started)).trans (congrArg (_ :: ·) log)⟩

/-- A specification that no machine can be made from: its name is too long, or there is no image for it. -/
def Unfit (spec : Spec) : Prop :=
  maxNameLength < spec.name.length ∨ ∃ e, CloudInit.image spec.name spec.userData = .error e

theorem create_unfit (unfit : Unfit spec) (w : World) : ∃ e, create spec w = (.failed e, w) := by
  unfold create
  split
  next => exact ⟨_, rfl⟩
  next short =>
    rcases unfit with long | ⟨e, failed⟩
    · exact absurd long short
    · rw [failed]
      exact ⟨_, rfl⟩

/-- Any other specification is provided for over a connection, with its image. -/
theorem create_fit (fit : ¬ Unfit spec) : ∃ image, CloudInit.image spec.name spec.userData = .ok image ∧
    create spec = connected ((provision spec image).mapError (.create spec.name)) := by
  obtain ⟨short, imaged⟩ := not_or.mp fit
  cases built : CloudInit.image spec.name spec.userData with
  | error e => exact absurd ⟨e, built⟩ imaged
  | ok image =>
    refine ⟨image, rfl, ?_⟩
    unfold create
    rw [if_neg short, built]
    rfl

theorem create_inPlace {o : Outcome Error Unit} (run : create spec w = (o, w')) :
    Sequenced (InPlace spec) w w' := by
  by_cases unfit : Unfit spec
  · obtain ⟨e, stopped⟩ := create_unfit unfit w
    obtain ⟨-, rfl⟩ := Prod.mk.inj (stopped.symm.trans run)
    exact (inPlace_frame spec).refl w
  · obtain ⟨image, built, same⟩ := create_fit unfit
    have within : ((provision spec image).mapError (Error.create spec.name)).Keeps (Sequenced (InPlace spec)) :=
      Keeps.mapError (fun w => provision_inPlace built (run_halves _ w)) _
    rw [same] at run
    exact (connected_sequenced (inPlace_frame spec) (fun _ => trivial) trivial within).of_run run

theorem create_done (run : create spec w = (.done (), w')) : ∃ past,
    w'.log = .disconnect :: .request (.startDomain spec.name) true (.done ()) :: (past ++ w.log) := by
  by_cases unfit : Unfit spec
  · obtain ⟨e, stopped⟩ := create_unfit unfit w
    cases stopped.symm.trans run
  · obtain ⟨image, _, same⟩ := create_fit unfit
    rw [same] at run
    obtain ⟨w₁, w₂, opened, ran, rfl⟩ := connected_done run
    obtain ⟨o, provisioned, done⟩ := mapError_cases ran
    cases o with
    | done =>
      obtain ⟨past, log⟩ := provision_done provisioned
      exact ⟨past ++ [.connect true], by
        rw [(disconnect_noted w₂).log, log, connect_log opened, List.append_assoc]; rfl⟩
    | failed => cases done
    | overflow => cases done

/-- What fails over the connection is a step, and the connection is closed behind it. -/
theorem create_failed {e : Error} (run : create spec w = (.failed e, w'))
    (connected : Shows (· = .connect true) w w') : ∃ image cause past,
      CloudInit.image spec.name spec.userData = .ok image ∧ e = .create spec.name cause ∧
      w'.log = .disconnect :: (past ++ w.log) ∧ StopsAt spec image past cause := by
  obtain ⟨events, log, _, member, rfl⟩ := connected
  by_cases unfit : Unfit spec
  · obtain ⟨e, stopped⟩ := create_unfit unfit w
    obtain ⟨-, rfl⟩ := Prod.mk.inj (stopped.symm.trans run)
    obtain rfl : events = [] := List.self_eq_append_left.mp log
    cases member
  obtain ⟨image, built, same⟩ := create_fit unfit
  rw [same] at run
  rcases connected_ways run with
    ⟨o, refused, turned, _⟩ | ⟨w₁, _, w₂, opened, ran, ⟨_, overran⟩ | ⟨rfl, ⟨rfl, _⟩ | overran⟩⟩
  · have noted := connect_log turned
    rw [refused] at noted
    obtain rfl : events = [.connect false] := (events_unique (noted.symm.trans log)).symm
    simp at member
  · cases overran
  · obtain ⟨o, provisioned, failed⟩ := mapError_cases ran
    obtain ⟨past, noted, stops⟩ := blames_provision spec image provisioned
    cases o with
    | done => cases failed
    | failed cause =>
      cases failed
      refine ⟨image, cause, past ++ [.connect true], built, rfl, ?_, (stops cause rfl).behind _⟩
      rw [(disconnect_noted w₂).log, noted, connect_log opened, List.append_assoc]
      rfl
    | overflow => cases failed
  · cases overran

/-- In a creation everything has its place, whatever fails and whatever is done to the host in between. It is done
only where the start of the domain was the last thing that was done; a failure over the connection is that
of a step; and what cannot be made is not connected for. -/
theorem create_in_order (spec : Spec) (w : World) : ∃ o w', create spec w = (o, w') ∧
    Sequenced (InPlace spec) w w' ∧
    (o = .done () → ∃ past, w'.log =
      .disconnect :: .request (.startDomain spec.name) true (.done ()) :: (past ++ w.log)) ∧
    (∀ e, o = .failed e → Shows (· = .connect true) w w' → ∃ image cause past,
      CloudInit.image spec.name spec.userData = .ok image ∧ e = .create spec.name cause ∧
      w'.log = .disconnect :: (past ++ w.log) ∧ StopsAt spec image past cause) ∧
    (Unfit spec → ∃ e, o = .failed e ∧ w' = w) := by
  obtain ⟨o, w', run⟩ : ∃ o w', create spec w = (o, w') := ⟨_, _, rfl⟩
  refine ⟨o, w', run, create_inPlace run, ?_, ?_, fun unfit => ?_⟩
  · rintro rfl
    exact create_done run
  · rintro e rfl connected
    exact create_failed run connected
  · obtain ⟨e, stopped⟩ := create_unfit unfit w
    obtain ⟨same, left⟩ := Prod.mk.inj (stopped.symm.trans run)
    exact ⟨e, same.symm, left.symm⟩

end Lifecycle

end MachineKeeper
