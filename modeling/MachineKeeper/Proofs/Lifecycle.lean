import MachineKeeper.Lifecycle
import MachineKeeper.Proofs.Calls

/-! What operations on one machine ask of the host, and what their answers say about it. -/
namespace MachineKeeper

/-- What a question leaves in the log that is answered over a connection of its own, the last of it first. -/
def Event.answered (asked : Request) (reply : asked.Reply) : List Event :=
  [.disconnect, .request asked true (.done reply), .connect true]

/-- The first that was done over connections after `before` was to ask in vain: there was no connection, or
over the connection the call for the question failed. -/
def Unanswered (asked : Request) (before after : List Event) : Prop :=
  ∃ later, after = later ++ .connect false :: before ∨ ∃ reached refusal,
    after = later ++ .request asked reached (.failed (.call refusal)) :: .connect true :: before

theorem Unanswered.append {asked : Request} {before after : List Event} (unanswered : Unanswered asked before after)
    (later : List Event) : Unanswered asked before (later ++ after) := by
  obtain ⟨events, rfl | ⟨reached, refusal, rfl⟩⟩ := unanswered
  · exact ⟨later ++ events, .inl (List.append_assoc ..).symm⟩
  · exact ⟨later ++ events, .inr ⟨reached, refusal, (List.append_assoc ..).symm⟩⟩

/-- A world with one machine, which runs as it is asked for and has data on its disk. -/
def World.serving (record : Record) : World :=
  let spec := record.spec
  let disk := Volume.create spec.storagePool (.overlay spec.names.diskVolume spec.diskSize
    spec.backingImagePath spec.backingImageFormat)
  let seed := Volume.create spec.storagePool (.raw spec.names.seedVolume 0)
  let domain : Domain :=
    ⟨Lifecycle.domainFor spec disk.path seed.path, .running, spec.cpu, spec.memory * 1024, []⟩
  let volumes := (∅ : Table Volume).insert spec.names.diskVolume { disk with content := .written [1] }
  { World.initial with
    host := { Host.initial with
      domains := (∅ : Table Domain).insert record.name domain
      pools := (∅ : Table (Table Volume)).insert spec.storagePool
        (volumes.insert spec.names.seedVolume seed) }
    records := (∅ : Table Record).insert record.name record }

namespace Lifecycle

open Session MachineKeeper.Action

variable {ε : Type} {w w' : World}

/-- What is asked to be rid of volumes of a pool, those in `volumes`. -/
def Removes (pool : String) (volumes : List String) : Request → Prop
  | .volumePath p v | .deleteVolume p v => p = pool ∧ v ∈ volumes
  | _ => False

/-- The same with the pool looked up first and kept fresh. -/
def Clears (pool : String) (volumes : List String) : Request → Prop
  | .lookupPool p | .refreshPool p => p = pool
  | r => Removes pool volumes r

theorem removes_clears {pool : String} {volumes : List String} {r : Request}
    (removes : Removes pool volumes r) : Clears pool volumes r := by
  cases r <;> first | exact removes | exact removes.elim

def TearsDown (name pool : String) : Request → Prop
  | .domainState n | .destroyDomain n | .undefineDomain n => n = name
  | r => Clears pool [(Names.of name).diskVolume, (Names.of name).seedVolume] r

theorem deleteIfThere_reaches {pool volume : String} {volumes : List String}
    (member : volume ∈ volumes) :
    (deleteIfThere pool volume).Keeps (Reaches (Removes pool volumes)) := by
  apply reaches_frame.bind (reaches_send (by exact ⟨rfl, member⟩)).attempt
  rintro (_ | _)
  · exact reaches_frame.pure ()
  · exact reaches_frame.bind (reaches_send (by exact ⟨rfl, member⟩)).attempt fun _ => reaches_frame.pure ()

theorem deleteIfThere_undisturbed {pool volume : String} {o : Outcome Error Unit}
    (quiet : w.Undisturbed) (run : deleteIfThere pool volume w = (o, w')) : w'.Undisturbed :=
  ((deleteIfThere_reaches (List.mem_singleton_self volume)).of_run run).store.undisturbed quiet

theorem deleteVolumes_reaches (pool : String) (names : Names) :
    (deleteVolumes pool names).Keeps
      (Reaches (Clears pool [names.diskVolume, names.seedVolume])) := by
  have removed {volume : String} (member : volume ∈ [names.diskVolume, names.seedVolume]) :
      (deleteIfThere pool volume).Keeps (Reaches (Clears pool [names.diskVolume, names.seedVolume])) :=
    (deleteIfThere_reaches member).mono fun path => path.mono fun _ => removes_clears
  apply reaches_frame.bind (reaches_send (by rfl)).attempt
  rintro (_ | _)
  · exact reaches_frame.pure ()
  · apply reaches_frame.bind (reaches_send (by rfl)).attempt
    intro _
    apply reaches_frame.bind (removed (by simp))
    intro _
    apply reaches_frame.bind (removed (by simp))
    intro _
    exact reaches_frame.bind (reaches_send (by rfl)).attempt fun _ => reaches_frame.pure ()

theorem clears_tearsDown {name pool : String} {r : Request}
    (clears : Clears pool [(Names.of name).diskVolume, (Names.of name).seedVolume] r) :
    TearsDown name pool r := by
  cases r <;> first | exact clears | exact clears.elim

def undefine (name pool : String) : Action Error Unit := do
  ask s!"failed to undefine domain '{name}'" (.undefineDomain name)
  deleteVolumes pool (.of name)

theorem undefine_reaches (name pool : String) :
    (undefine name pool).Keeps (Reaches (TearsDown name pool)) := by
  apply reaches_frame.bind (reaches_ask _ (by rfl))
  intro _
  exact (deleteVolumes_reaches pool (.of name)).mono fun path => path.mono fun _ => clears_tearsDown

def teardown (name pool : String) : Action Error Unit := do
  match ← (send (.domainState name)).attempt with
  | .error e =>
    if e.isNotFound then return ()
    else .fail (.host s!"failed to look up domain '{name}'" e)
  | .ok state =>
    if state.isActive then
      ask s!"failed to stop domain '{name}'" (.destroyDomain name)
    undefine name pool

theorem destroy_eq (name pool : String) : destroy name pool = connected (teardown name pool) := rfl

theorem teardown_reaches (name pool : String) :
    (teardown name pool).Keeps (Reaches (TearsDown name pool)) := by
  apply reaches_frame.bind (reaches_send (by rfl)).attempt
  rintro (e | state)
  · dsimp only
    split
    · exact reaches_frame.pure ()
    · exact reaches_frame.fail _
  · dsimp only
    split
    · exact reaches_frame.bind (reaches_ask _ (by rfl)) fun _ => undefine_reaches name pool
    · exact undefine_reaches name pool

theorem destroy_reaches (name pool : String) :
    (destroy name pool).Keeps (Reaches (TearsDown name pool)) := by
  rw [destroy_eq]
  exact reaches_connected (teardown_reaches name pool)

/-- What is asked to make a machine: nothing that ends a domain, and only volumes of its own. -/
def Provisions (spec : Spec) : Request → Prop
  | .defineDomain descriptor => descriptor.name = spec.name
  | .startDomain n => n = spec.name
  | .lookupPool p => p = spec.storagePool
  | .createVolume p descriptor =>
    p = spec.storagePool ∧ descriptor.name ∈ [spec.names.diskVolume, spec.names.seedVolume]
  | .volumePath p v | .deleteVolume p v | .uploadVolume p v _ | .downloadVolume p v =>
    p = spec.storagePool ∧ v ∈ [spec.names.diskVolume, spec.names.seedVolume]
  | _ => False

theorem deleteIfThere_provisions {spec : Spec} {volume : String}
    (member : volume ∈ [spec.names.diskVolume, spec.names.seedVolume]) :
    (deleteIfThere spec.storagePool volume).Keeps (Reaches (Provisions spec)) := by
  refine (deleteIfThere_reaches member).mono fun path => path.mono fun r removes => ?_
  cases r <;> first | exact removes | exact removes.elim

theorem createSeedVolume_reaches (spec : Spec) (image : Bytes) :
    (createSeedVolume spec.storagePool spec.names.seedVolume image).Keeps
      (Reaches (Provisions spec)) := by
  apply reaches_frame.bind (deleteIfThere_provisions (by simp))
  intro _
  apply reaches_frame.bind (reaches_ask _ (by simp [Provisions, VolumeDescriptor.raw]))
  intro path
  apply reaches_frame.bind (reaches_ask _ (by simp [Provisions]))
  intro _
  apply reaches_frame.bind (reaches_ask _ (by simp [Provisions]))
  intro content
  split
  · exact reaches_frame.fail _
  · exact reaches_frame.pure path

theorem createDiskVolume_reaches (spec : Spec) :
    (createDiskVolume spec).Keeps (Reaches (Provisions spec)) := by
  apply reaches_frame.bind (deleteIfThere_provisions (by simp))
  intro _
  exact reaches_ask _ (by simp [Provisions, VolumeDescriptor.overlay])

theorem provision_reaches (spec : Spec) (image : Bytes) :
    (provision spec image).Keeps (Reaches (Provisions spec)) := by
  apply reaches_frame.bind (reaches_ask _ (by rfl))
  intro _
  apply reaches_frame.bind (createSeedVolume_reaches spec image)
  intro seedPath
  apply reaches_frame.bind (createDiskVolume_reaches spec)
  intro diskPath
  apply reaches_frame.bind (reaches_ask _ (by rfl))
  intro _
  exact reaches_ask _ (by rfl)

theorem create_reaches (spec : Spec) : (create spec).Keeps (Reaches (Provisions spec)) := by
  unfold create
  dsimp only
  split
  · exact reaches_frame.fail _
  · apply reaches_frame.bind (reaches_frame.ofExcept _)
    intro image
    exact reaches_connected ((provision_reaches spec image).mapError _)

/-- What is asked to see how a live domain does. -/
def Observes (name : String) : Request → Prop
  | .domainState n | .domainInfo n | .leaseAddresses n => n = name
  | _ => False

theorem observes_query {name : String} {r : Request} (observes : Observes name r) : r.IsQuery := by
  cases r <;> first | exact observes.elim | exact ⟨rfl, rfl⟩

def readLeases (name : String) : Action Error (List String) := do
  let state ← askState name
  if state ≠ .running then
    .fail (.notRunning name)
  else
    match ← (send (.leaseAddresses name)).attempt with
    | .ok interfaces => return reachable interfaces
    | .error _ => return []

theorem addresses_eq (name : String) : addresses name = connected (readLeases name) := rfl

theorem readLeases_reaches (name : String) :
    (readLeases name).Keeps (Reaches (Observes name)) := by
  apply reaches_frame.bind (reaches_ask _ (by rfl))
  intro state
  split
  · exact reaches_frame.fail _
  · apply reaches_frame.bind (reaches_send (by rfl)).attempt
    rintro (_ | _) <;> exact reaches_frame.pure _

theorem addresses_reaches (name : String) :
    (addresses name).Keeps (Reaches (Observes name)) := by
  rw [addresses_eq]
  exact reaches_connected (readLeases_reaches name)

theorem holds_cases {α : Type} {question : Action Error α} {test : α → Bool} {o : Outcome ε Bool}
    (run : holds question test w = (o, w')) :
    (∃ a, question w = (.done a, w') ∧ o = .done (test a)) ∨
    (∃ e, question w = (.failed e, w') ∧ o = .done false) ∨
    (question w = (.overflow, w') ∧ o = .overflow) := by
  rcases bind_cases run with ⟨result, w₁, asked, rest⟩ | ⟨e, asked, _⟩ | ⟨asked, rfl⟩
  · rcases attempt_cases asked with ⟨a, answered, same⟩ | ⟨e, failed, same⟩ | ⟨_, same⟩
    · cases same
      obtain ⟨rfl, rfl⟩ := Prod.mk.inj rest
      exact .inl ⟨a, answered, rfl⟩
    · cases same
      obtain ⟨rfl, rfl⟩ := Prod.mk.inj rest
      exact .inr (.inl ⟨e, failed, rfl⟩)
    · cases same
  · rcases attempt_cases asked with ⟨_, _, same⟩ | ⟨_, _, same⟩ | ⟨_, same⟩ <;> cases same
  · rcases attempt_cases asked with ⟨_, _, same⟩ | ⟨_, _, same⟩ | ⟨overrun, _⟩
    · cases same
    · cases same
    · exact .inr (.inr ⟨overrun, rfl⟩)

theorem holds_reaches {ok : Request → Prop} {r : Request} {context : String} {test : r.Reply → Bool}
    (allowed : ok r) : (holds (connected (ask context r)) test : Action ε Bool).Keeps (Reaches ok) := by
  apply reaches_frame.bind (reaches_connected (reaches_ask _ allowed)).attempt
  rintro (_ | _) <;> exact reaches_frame.pure _

theorem isDefined_reaches (name : String) :
    (isDefined name : Action ε Bool).Keeps (Reaches (Observes name)) :=
  holds_reaches (by rfl)

theorem isInSync_reaches (spec : Spec) :
    (isInSync spec : Action ε Bool).Keeps (Reaches (Observes spec.name)) :=
  holds_reaches (by rfl)

theorem isRunning_reaches (name : String) :
    (isRunning name : Action ε Bool).Keeps (Reaches (Observes name)) :=
  holds_reaches (by rfl)

/-- A question over a connection of its own fails, or it has the host's answer. -/
theorem connected_ask_ways {r : Request} {context : String} {o : Outcome Error r.Reply} (query : r.IsQuery)
    (quiet : w.Undisturbed) (run : connected (ask context r) w = (o, w')) :
    (∃ e, o = .failed e) ∨ ∃ reply, o = .done reply ∧ (w.host.answer r).1 = .done reply := by
  have within : (ask context r).Keeps (Reaches (· = r)) := reaches_ask _ (by rfl)
  rcases connected_cases quiet within run with ⟨⟨_, rfl⟩, _⟩ | ⟨w₁, w₂, opened, ran, _⟩
  · exact .inl ⟨_, rfl⟩
  obtain ⟨o₁, sent, rfl⟩ := mapError_cases ran
  rcases send_cases (opened.toSameStore.undisturbed quiet) sent with ⟨e, _, rfl, _⟩ | ⟨answer, _⟩
  · exact .inl ⟨_, rfl⟩
  have same : (w.host.answer r).1 = o₁ := by rw [← (Host.answer_of_objects opened.objects r).1, answer]
  cases o₁ with
  | done reply => exact .inr ⟨reply, rfl, same⟩
  | failed e => exact .inl ⟨_, rfl⟩
  | overflow => exact absurd same (Host.answer_query_ends query)

/-- A question over a connection of its own is answered by the host, or it fails: because that is
the host's answer, or because it got none. -/
theorem connected_ask_cases {r : Request} {context : String} {o : Outcome Error r.Reply}
    (query : r.IsQuery) (quiet : w.Undisturbed) (calls : w.CallErrors)
    (run : connected (ask context r) w = (o, w')) :
    (∃ reply, o = .done reply ∧ (w.host.answer r).1 = .done reply ∧ w'.log = Event.answered r reply ++ w.log) ∨
    (∃ e, o = .failed e) ∧ ((∃ e, (w.host.answer r).1 = .failed e) ∨ Unanswered r w.log w'.log) := by
  have within : (ask context r).Keeps (Reaches (· = r)) := reaches_ask _ (by rfl)
  rcases connected_cases quiet within run with ⟨⟨_, rfl⟩, idle⟩ | ⟨w₁, w₂, opened, ran, closed⟩
  · exact .inr ⟨⟨_, rfl⟩, .inr ⟨[], .inl idle.log⟩⟩
  obtain ⟨o₁, sent, rfl⟩ := mapError_cases ran
  have quiet₁ := opened.toSameStore.undisturbed quiet
  have same := (Host.answer_of_objects opened.objects r).1
  rcases send_cases quiet₁ sent with ⟨e, reached, rfl, why, _, log⟩ | ⟨answer, log⟩
  · obtain ⟨refusal, rfl⟩ := why (opened.toSameStore.callErrors calls)
    rcases closed with idle | ⟨overrun, _⟩
    · have logged : w'.log = [.disconnect] ++ .request r reached (.failed (.call refusal)) :: .connect true :: w.log := by
        rw [idle.log, log, opened.log]
        rfl
      exact .inr ⟨⟨_, rfl⟩, .inr ⟨[.disconnect], .inr ⟨reached, refusal, logged⟩⟩⟩
    · cases overrun
  · rw [answer] at same
    simp only at same
    cases o₁ with
    | done reply =>
      rcases closed with idle | ⟨overrun, _⟩
      · exact .inl ⟨reply, rfl, same.symm, by rw [idle.log, log, opened.log]; rfl⟩
      · cases overrun
    | failed e => exact .inr ⟨⟨_, rfl⟩, .inl ⟨e, same.symm⟩⟩
    | overflow => exact absurd same.symm (Host.answer_query_ends query)

/-- A yes is the host's answer. So is a no, unless the question got none. -/
theorem holds_answer {r : Request} {context : String} {test : r.Reply → Bool} {o : Outcome ε Bool}
    (query : r.IsQuery) (quiet : w.Undisturbed) (calls : w.CallErrors)
    (run : holds (connected (ask context r)) test w = (o, w')) :
    (∃ reply, o = .done (test reply) ∧ (w.host.answer r).1 = .done reply ∧
      w'.log = Event.answered r reply ++ w.log) ∨
    o = .done false ∧ ((∃ e, (w.host.answer r).1 = .failed e) ∨ Unanswered r w.log w'.log) := by
  rcases holds_cases run with ⟨a, ran, rfl⟩ | ⟨e, ran, rfl⟩ | ⟨ran, rfl⟩ <;>
    rcases connected_ask_cases query quiet calls ran with ⟨reply, same, answer, log⟩ | ⟨⟨_, same⟩, why⟩ <;>
    cases same
  · exact .inl ⟨a, rfl, answer, log⟩
  · exact .inr ⟨rfl, why⟩

/-- The probe for a domain sees it, or there is none, or the probe got no answer. -/
theorem isDefined_cases {name : String} {o : Outcome ε Bool} (quiet : w.Undisturbed)
    (calls : w.CallErrors) (run : isDefined name w = (o, w')) :
    (∃ domain, o = .done true ∧ w.host.domains[name]? = some domain ∧
      w'.log = Event.answered (.domainState name) domain.state ++ w.log) ∨
    o = .done false ∧ (name ∈ w.host.domains → Unanswered (.domainState name) w.log w'.log) := by
  rcases holds_answer ⟨rfl, rfl⟩ quiet calls run with ⟨reply, rfl, answer, log⟩ | ⟨rfl, why⟩ <;>
    cases there : w.host.domains[name]? with | none => ?_ | some domain => ?_
  · rw [Host.answer_domainState_missing there] at answer
    cases answer
  · rw [Host.answer_domainState there] at answer
    cases answer
    exact .inl ⟨domain, rfl, rfl, log⟩
  · exact .inr ⟨rfl, fun member => absurd member (Table.not_mem_of_missing there)⟩
  · refine .inr ⟨rfl, fun _ => why.resolve_left ?_⟩
    rintro ⟨_, failed⟩
    rw [Host.answer_domainState there] at failed
    cases failed

/-- The probe for drift says whether the domain has its size, or it says no and got no answer. -/
theorem isInSync_cases {spec : Spec} {domain : Domain} {o : Outcome ε Bool} (quiet : w.Undisturbed)
    (calls : w.CallErrors) (there : w.host.domains[spec.name]? = some domain)
    (run : isInSync spec w = (o, w')) :
    o = .done (fits spec domain.info) ∨ o = .done false ∧ Unanswered (.domainInfo spec.name) w.log w'.log := by
  have told := Host.answer_domainInfo there
  rcases holds_answer ⟨rfl, rfl⟩ quiet calls run with ⟨reply, rfl, answer, _⟩ | ⟨rfl, ⟨_, failed⟩ | unanswered⟩
  · rw [told] at answer
    cases answer
    exact .inl rfl
  · rw [told] at failed
    cases failed
  · exact .inr ⟨rfl, unanswered⟩

theorem isDefined_objects {name : String} {o : Outcome ε Bool} (quiet : w.Undisturbed)
    (run : isDefined name w = (o, w')) : w'.host.objects = w.host.objects :=
  (((isDefined_reaches name).of_run run).mono fun _ => observes_query).objects quiet

theorem undefine_done {name pool : String} (quiet : w.Undisturbed)
    (run : undefine name pool w = (.done (), w')) : name ∉ w'.host.domains := by
  obtain ⟨_, w₁, asked, cleared⟩ := bind_done run
  obtain ⟨o, sent, same⟩ := mapError_cases asked
  have path : Reaches _ w₁ w' := (deleteVolumes_reaches pool (.of name)).of_run cleared
  have quiet₁ := send_undisturbed quiet sent
  have kept : w'.host.domains[name]? = w₁.host.domains[name]? :=
    path.domain quiet₁ fun r clears => by cases r <;> simp_all [Clears, Removes, Request.domain?]
  rw [Std.ExtTreeMap.mem_iff_isSome_getElem?, kept]
  rcases send_cases quiet sent with ⟨e, _, rfl, _⟩ | ⟨answer, _⟩
  · cases same
  · simp only [Host.answer, Host.withDomain] at answer
    split at answer
    · rw [← (Prod.mk.inj answer).2]
      simp
    · obtain ⟨rfl, _⟩ := Prod.mk.inj answer
      cases same

/-- Where calls fail as calls do, only the host itself says that a domain is not there. -/
theorem missing_of_notFound {name : String} {e : HostError} (quiet : w.Undisturbed)
    (calls : w.CallErrors) (run : send (.domainState name) w = (.failed e, w'))
    (missing : e.isNotFound = true) : name ∉ w'.host.domains := by
  rcases send_cases quiet run with ⟨_, _, same, why, _⟩ | ⟨answer, _⟩
  · cases same
    obtain ⟨refusal, rfl⟩ := why calls
    cases missing
  · simp only [Host.answer, Host.withDomain] at answer
    split at answer
    next => cases (Prod.mk.inj answer).1
    next absent =>
      rw [← (Prod.mk.inj answer).2]
      simp only [Std.ExtTreeMap.mem_iff_isSome_getElem?, absent, Option.isSome_none,
        Bool.false_eq_true, not_false_eq_true]

theorem destroy_done {name pool : String} (quiet : w.Undisturbed) (calls : w.CallErrors)
    (run : destroy name pool w = (.done (), w')) : name ∉ w'.host.domains := by
  rw [destroy_eq] at run
  have within := teardown_reaches name pool
  rcases connected_cases quiet within run with ⟨⟨_, refused⟩, _⟩ | ⟨w₁, w₂, opened, ran, closed⟩
  · cases refused
  have quiet₁ := opened.toSameStore.undisturbed quiet
  have gone : name ∉ w₂.host.domains := by
    obtain ⟨result, w₃, asked, rest⟩ := bind_done ran
    rcases attempt_cases asked with ⟨state, sent, same⟩ | ⟨e, sent, same⟩ | ⟨_, same⟩
    · cases same
      have quiet₃ := send_undisturbed quiet₁ sent
      dsimp only at rest
      split at rest
      · obtain ⟨_, w₄, asked', rest⟩ := bind_done rest
        obtain ⟨_, stopped, _⟩ := mapError_cases asked'
        exact undefine_done (send_undisturbed quiet₃ stopped) rest
      · exact undefine_done quiet₃ rest
    · cases same
      dsimp only at rest
      split at rest
      next missing =>
        obtain ⟨-, rfl⟩ := Prod.mk.inj rest
        exact missing_of_notFound quiet₁ (opened.toSameStore.callErrors calls) sent missing
      next => cases (Prod.mk.inj rest).1
    · cases same
  rcases closed with idle | ⟨overrun, _⟩
  · rwa [Host.domains_of_objects idle.objects]
  · cases overrun

end Lifecycle

end MachineKeeper
