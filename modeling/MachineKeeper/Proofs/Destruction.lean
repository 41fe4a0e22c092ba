import MachineKeeper.Proofs.Isolation
import MachineKeeper.Proofs.Matching

/-! Tearing down twice. Where the kind of a call alone says whether it fails, what a teardown comes to is a function
of the host, and whatever state the first teardown leaves, the second ends in the same way and changes nothing. -/
namespace MachineKeeper

theorem World.Faultless.undisturbed {w : World} (faultless : w.Faultless) : w.Undisturbed :=
  undisturbed_of_nil faultless.host faultless.store

theorem World.Faultless.hears_iff {w : World} (faultless : w.Faultless) (call : Call) (n : Nat) :
    w.Hears call n ↔ call ∉ w.host.failing := by
  simp [Hears, Fails, faultless.host]

namespace Host

variable {h h' : Host} {name pool : String} {r : Request} {names : Names} {domain : Domain}

/-- The calls get through with which a machine's volumes are found and deleted. -/
def Clearing (h : Host) : Prop :=
  .lookupPool ∉ h.failing ∧ .volumePath ∉ h.failing ∧ .deleteVolume ∉ h.failing

instance (h : Host) : Decidable h.Clearing := inferInstanceAs (Decidable (_ ∧ _ ∧ _))

/-- The host without a machine's volumes, if it lets go of them. -/
def cleared (h : Host) (pool : String) (names : Names) : Host :=
  if h.Clearing then h.withoutVolumes pool names else h

/-- The host with a domain powered off. -/
def halted (h : Host) (name : String) : Host :=
  h.updateDomain name fun domain =>
    if domain.state.isActive then { domain with state := .shutoff, interfaces := [] } else domain

def undefined (h : Host) (name : String) : Host := { h with domains := h.domains.erase name }

/-- What a teardown over an open connection comes to. A call that fails before the domain is undefined is where it
stops; behind that nothing stops it. -/
def tornDown (h : Host) (name pool : String) : Outcome Error Unit × Host :=
  let failed (context : String) (call : Call) : Outcome Error Unit :=
    .failed (.host context (.call (.injected call)))
  if .domainState ∈ h.failing then (failed s!"failed to look up domain '{name}'" .domainState, h)
  else match h.domains[name]? with
    | none => (.done (), h)
    | some domain =>
      if domain.state.isActive = true ∧ .destroyDomain ∈ h.failing then
        (failed s!"failed to stop domain '{name}'" .destroyDomain, h)
      else if .undefineDomain ∈ h.failing then
        (failed s!"failed to undefine domain '{name}'" .undefineDomain, h.halted name)
      else (.done (), (h.undefined name).cleared pool (.of name))

/-- The same with a connection of its own. -/
def destroyed (h : Host) (name pool : String) : Outcome Error Unit × Host :=
  if h.refusesConnections then (.failed (.connection "connection refused"), h) else h.tornDown name pool

theorem cleared_missing (missing : h.pools[pool]? = none) : h.cleared pool names = h := by
  unfold cleared
  split
  · exact withoutVolumes_missing missing
  · rfl

@[simp] theorem cleared_domains (h : Host) (pool : String) (names : Names) :
    (h.cleared pool names).domains = h.domains := by
  unfold cleared
  split <;> rfl

theorem cleared_behaviour (h : Host) (pool : String) (names : Names) :
    (h.cleared pool names).behaviour = h.behaviour := by
  unfold cleared
  split <;> rfl

@[simp] theorem cleared_failing (h : Host) (pool : String) (names : Names) :
    (h.cleared pool names).failing = h.failing :=
  failing_of_behaviour (cleared_behaviour h pool names)

@[simp] theorem halted_failing (h : Host) (name : String) : (h.halted name).failing = h.failing := rfl

@[simp] theorem undefined_domains (h : Host) (name : String) :
    (h.undefined name).domains = h.domains.erase name := rfl

@[simp] theorem undefined_failing (h : Host) (name : String) : (h.undefined name).failing = h.failing := rfl

theorem halted_there (there : h.domains[name]? = some domain) : h.halted name = h.setDomain name
    (if domain.state.isActive then { domain with state := .shutoff, interfaces := [] } else domain) := by
  simp only [halted, updateDomain, Table.update, there, setDomain]

theorem halted_idle (there : h.domains[name]? = some domain) (idle : domain.state.isActive = false) :
    h.halted name = h := by
  rw [halted_there there, setDomain, idle, if_neg Bool.false_ne_true, Table.insert_found there]

theorem undefined_halted (there : h.domains[name]? = some domain) :
    (h.halted name).undefined name = h.undefined name := by
  rw [halted_there there, undefined, undefined, setDomain, Table.erase_insert_self]

theorem halted_domain (there : h.domains[name]? = some domain) :
    ∃ domain, (h.halted name).domains[name]? = some domain ∧ domain.state.isActive = false := by
  rw [halted_there there]
  refine ⟨_, setDomain_domains_self _ _ _, ?_⟩
  split
  · rfl
  · exact Bool.not_eq_true _ ▸ ‹_›

theorem halted_halted (there : h.domains[name]? = some domain) : (h.halted name).halted name = h.halted name := by
  obtain ⟨_, there', idle⟩ := halted_domain there
  exact halted_idle there' idle

/-- Whatever a teardown came to, from where it left the host the next comes to the same. -/
theorem tornDown_again (h : Host) (name pool : String) :
    (h.tornDown name pool).2.tornDown name pool = h.tornDown name pool := by
  by_cases unseen : .domainState ∈ h.failing
  · simp [tornDown, unseen]
  cases there : h.domains[name]? with
  | none => simp [tornDown, unseen, there]
  | some domain =>
    by_cases powered : domain.state.isActive = true ∧ .destroyDomain ∈ h.failing
    · simp [tornDown, unseen, there, powered]
    by_cases stuck : .undefineDomain ∈ h.failing
    · obtain ⟨domain', there', idle⟩ := halted_domain there
      simp [tornDown, unseen, there, powered, stuck, there', idle, halted_halted there]
    · simp [tornDown, unseen, there, powered, stuck]

theorem tornDown_behaviour (h : Host) (name pool : String) :
    (h.tornDown name pool).2.behaviour = h.behaviour := by
  unfold tornDown
  split
  · rfl
  split
  · rfl
  split
  · rfl
  split
  · rfl
  · exact cleared_behaviour _ _ _

@[simp] theorem halted_objects (h : Host) (name : String) : h.objects.halted name = (h.halted name).objects := rfl

@[simp] theorem undefined_objects (h : Host) (name : String) :
    h.objects.undefined name = (h.undefined name).objects := rfl

@[simp] theorem cleared_objects (h : Host) (pool : String) (names : Names) :
    h.objects.cleared pool names = (h.cleared pool names).objects := by
  by_cases clears : h.Clearing
  · rw [cleared, cleared, if_pos clears, if_pos (show h.objects.Clearing from clears)]
    rfl
  · rw [cleared, cleared, if_neg clears, if_neg (show ¬ h.objects.Clearing from clears)]

theorem tornDown_objects (h : Host) (name pool : String) :
    h.objects.tornDown name pool = ((h.tornDown name pool).1, (h.tornDown name pool).2.objects) := by
  by_cases unseen : .domainState ∈ h.failing
  · simp [tornDown, unseen]
  cases there : h.domains[name]? with
  | none => simp [tornDown, unseen, there]
  | some domain =>
    by_cases powered : domain.state.isActive = true ∧ .destroyDomain ∈ h.failing
    · simp [tornDown, unseen, there, powered]
    by_cases stuck : .undefineDomain ∈ h.failing
    · simp [tornDown, unseen, there, powered, stuck]
    · simp [tornDown, unseen, there, powered, stuck]

/-- A teardown looks at what is on the host, and not at its connections. -/
theorem tornDown_of_objects (same : h'.objects = h.objects) (name pool : String) :
    (h'.tornDown name pool).1 = (h.tornDown name pool).1 ∧
    (h'.tornDown name pool).2.objects = (h.tornDown name pool).2.objects := by
  have ended := tornDown_objects h' name pool
  rw [same, tornDown_objects] at ended
  exact ⟨(Prod.mk.inj ended).1.symm, (Prod.mk.inj ended).2.symm⟩

theorem destroyed_of_objects (same : h'.objects = h.objects) (name pool : String) :
    (h'.destroyed name pool).1 = (h.destroyed name pool).1 ∧
    (h'.destroyed name pool).2.objects = (h.destroyed name pool).2.objects := by
  unfold destroyed
  rw [refusesConnections_of_behaviour (behaviour_of_objects same)]
  split
  · exact ⟨rfl, same⟩
  · exact tornDown_of_objects same name pool

theorem destroyed_again (h : Host) (name pool : String) :
    (h.destroyed name pool).2.destroyed name pool = h.destroyed name pool := by
  have refuses := refusesConnections_of_behaviour (tornDown_behaviour h name pool)
  by_cases refused : h.refusesConnections = true
  · simp [destroyed, refused]
  · simp [destroyed, refused, refuses, tornDown_again]

/-- With nothing that fails the whole machine goes. -/
theorem destroyed_able (able : h.failing = []) (accepts : h.refusesConnections = false) :
    h.destroyed name pool = (.done (), if name ∈ h.domains then h.without name pool else h) := by
  have clears : (h.undefined name).Clearing := by simp [Clearing, able]
  by_cases member : name ∈ h.domains
  · have gone : (h.undefined name).cleared pool (.of name) = h.without name pool := if_pos clears
    simp [destroyed, accepts, tornDown, able, member, gone]
  · simp [destroyed, accepts, tornDown, able, member]

end Host

namespace Session

variable {w w' : World} {r : Request}

theorem SameStore.faultless (same : SameStore w w') (faultless : w.Faultless) : w'.Faultless :=
  ⟨same.hostFaults_nil faultless.host, same.storeFaults.trans faultless.store⟩

theorem send_served (r : Request) (faultless : w.Faultless) :
    ∃ w', send r w = ((w.host.serve r).1, w') ∧ w'.host = (w.host.serve r).2 ∧ w'.Faultless :=
  ⟨_, send_faultless r faultless, rfl, faultless.host, faultless.store⟩

theorem send_refused (faultless : w.Faultless) (fails : r.call ∈ w.host.failing) :
    ∃ w', send r w = (.failed (.call (.injected r.call)), w') ∧ w'.host = w.host ∧ w'.Faultless := by
  obtain ⟨w', sent, host, faultless'⟩ := send_served r faultless
  rw [Host.serve_failing fails] at sent host
  exact ⟨w', sent, host, faultless'⟩

theorem send_able {o : Outcome HostError r.Reply} {h : Host} (faultless : w.Faultless)
    (able : r.call ∉ w.host.failing) (answer : w.host.answer r = (o, h)) :
    ∃ w', send r w = (o, w') ∧ w'.host = h ∧ w'.Faultless := by
  obtain ⟨w', sent, host, faultless'⟩ := send_served r faultless
  rw [Host.serve_able able, answer] at sent host
  exact ⟨w', sent, host, faultless'⟩

/-- A request that only asks is tried, whatever comes of it. -/
theorem attempt_query {δ : Type} (query : r.IsQuery) (faultless : w.Faultless) : ∃ result w',
    ((send r).attempt : Action δ _) w = (.done result, w') ∧ w'.host = w.host ∧ w'.Faultless := by
  obtain ⟨w', sent, host, faultless'⟩ := send_served r faultless
  have ends := Host.serve_query_ends (h := w.host) query
  rw [Host.serve_query query] at host
  generalize (w.host.serve r).1 = o at sent ends
  cases o with
  | done a => exact ⟨_, w', Action.attempt_of_done sent, host, faultless'⟩
  | failed e => exact ⟨_, w', Action.attempt_of_failed sent, host, faultless'⟩
  | overflow => exact absurd rfl ends

end Session

namespace Lifecycle

open Session World MachineKeeper.Action

variable {w w' : World} {name pool : String} {names : Names} {domain : Domain}

theorem clearable_iff (faultless : w.Faultless) (looked : .lookupPool ∉ w.host.failing) :
    Clearable w ↔ w.host.Clearing := by
  simp only [Clearable, Host.Clearing, faultless.hears_iff, looked, not_false_eq_true, true_and]

theorem deleteIfThere_served (volume : String) {volumes : Table Volume} (faultless : w.Faultless)
    (looked : .lookupPool ∉ w.host.failing) (there : w.host.pools[pool]? = some volumes) :
    ∃ w', deleteIfThere pool volume w = (.done (), w') ∧ w'.Faultless ∧
      w'.host = w.host.setPool pool (if w.host.Clearing then volumes.erase volume else volumes) := by
  obtain ⟨o, w', run⟩ : ∃ o w', deleteIfThere pool volume w = (o, w') := ⟨_, _, rfl⟩
  have quiet := faultless.undisturbed
  have path := (deleteIfThere_reaches (List.mem_singleton_self volume)).of_run run
  have clearable := clearable_iff faultless looked
  suffices ended : o = .done () ∧
      w'.host = w.host.setPool pool (if w.host.Clearing then volumes.erase volume else volumes) by
    obtain ⟨rfl, host⟩ := ended
    exact ⟨w', run, path.store.faultless faultless, host⟩
  split
  next clears =>
    obtain ⟨ended, host, _⟩ := deleteIfThere_free quiet there (fun _ => clearable.mpr clears) run
    exact ⟨ended, host⟩
  next holds =>
    rw [Host.setPool_found there]
    cases found : volumes[volume]? with
    | none =>
      have missing : w.host.volume? pool volume = none := by simp [Host.volume?, there, found]
      obtain ⟨ended, host, _⟩ := deleteIfThere_missing quiet missing run
      exact ⟨ended, host⟩
    | some old =>
      obtain ⟨ended, host, _⟩ := deleteIfThere_kept quiet there found (mt clearable.mp holds) run
      exact ⟨ended, host⟩

theorem deleteVolumes_served (pool : String) (names : Names) (faultless : w.Faultless) :
    ∃ w', deleteVolumes pool names w = (.done (), w') ∧ w'.host = w.host.cleared pool names := by
  by_cases looked : .lookupPool ∈ w.host.failing
  · obtain ⟨w₁, found, host₁, _⟩ := send_refused (r := .lookupPool pool) faultless looked
    refine ⟨w₁, by rw [deleteVolumes, bind_of_done (attempt_of_failed found)]; rfl, ?_⟩
    rw [host₁, Host.cleared, if_neg fun clears => clears.1 looked]
  cases there : w.host.pools[pool]? with
  | none =>
    obtain ⟨w₁, found, host₁, _⟩ := send_able (r := .lookupPool pool) faultless looked
      (Host.answer_lookupPool_missing there)
    refine ⟨w₁, by rw [deleteVolumes, bind_of_done (attempt_of_failed found)]; rfl, ?_⟩
    rw [host₁, Host.cleared_missing there]
  | some volumes =>
    obtain ⟨w₁, found, host₁, faultless₁⟩ := send_able (r := .lookupPool pool) faultless looked
      (Host.answer_lookupPool there)
    obtain ⟨_, w₂, fresh, host₂, faultless₂⟩ :=
      attempt_query (δ := Error) (r := .refreshPool pool) ⟨rfl, rfl⟩ faultless₁
    rw [host₁] at host₂
    rw [← host₂] at looked there ⊢
    obtain ⟨w₃, disk, faultless₃, host₃⟩ := deleteIfThere_served names.diskVolume faultless₂ looked there
    obtain ⟨w₄, seed, faultless₄, host₄⟩ := deleteIfThere_served names.seedVolume faultless₃
      (by rwa [host₃]) (by rw [host₃]; exact Host.setPool_pools_self _ _ _)
    obtain ⟨_, w₅, again, host₅, _⟩ :=
      attempt_query (δ := Error) (r := .refreshPool pool) ⟨rfl, rfl⟩ faultless₄
    refine ⟨w₅, ?_, ?_⟩
    · rw [deleteVolumes, bind_of_done (attempt_of_done found)]
      dsimp only
      rw [bind_of_done fresh, bind_of_done disk, bind_of_done seed, bind_of_done again]
      rfl
    · rw [host₅, host₄, host₃, Host.setPool_setPool]
      by_cases clears : w₂.host.Clearing
      · rw [Host.cleared, if_pos clears, Host.withoutVolumes_eq there, if_pos clears]
        exact congrArg _ (if_pos clears)
      · rw [Host.cleared, if_neg clears, if_neg clears]
        exact (congrArg _ (if_neg clears)).trans (Host.setPool_found there)

theorem undefine_fails (pool : String) (faultless : w.Faultless) (fails : .undefineDomain ∈ w.host.failing) :
    ∃ w', undefine name pool w = (.failed (.host s!"failed to undefine domain '{name}'"
      (.call (.injected .undefineDomain))), w') ∧ w'.host = w.host := by
  obtain ⟨w₁, asked, host₁, _⟩ := send_refused (r := .undefineDomain name) faultless fails
  exact ⟨w₁, bind_of_failed (ask_of_failed asked), host₁⟩

theorem undefine_able (pool : String) (faultless : w.Faultless) (able : .undefineDomain ∉ w.host.failing)
    (there : w.host.domains[name]? = some domain) : ∃ w', undefine name pool w = (.done (), w') ∧
      w'.host = (w.host.undefined name).cleared pool (.of name) := by
  obtain ⟨w₁, asked, host₁, faultless₁⟩ := send_able (r := .undefineDomain name) faultless able
    (Host.answer_undefineDomain there)
  obtain ⟨w₂, cleared, host₂⟩ := deleteVolumes_served pool (.of name) faultless₁
  rw [host₁] at host₂
  exact ⟨w₂, (bind_of_done (ask_of_done asked)).trans cleared, host₂⟩

/-- Where powering off does not stop a teardown, a domain that is undefined next is powered off. -/
theorem stop_served (context pool : String) (faultless : w.Faultless)
    (there : w.host.domains[name]? = some domain)
    (stops : domain.state.isActive = true → .destroyDomain ∉ w.host.failing) :
    ∃ w', (if domain.state.isActive then ask context (.destroyDomain name) >>= fun _ => undefine name pool
      else undefine name pool) w = undefine name pool w' ∧ w'.host = w.host.halted name ∧ w'.Faultless := by
  cases active : domain.state.isActive with
  | false => exact ⟨w, rfl, (Host.halted_idle there active).symm, faultless⟩
  | true =>
    have powered : domain.state ≠ .shutoff := by
      intro off
      simp [PowerState.isActive, off] at active
    obtain ⟨w₁, stopped, host₁, faultless₁⟩ := send_able (r := .destroyDomain name) faultless (stops active)
      (Host.answer_destroyDomain there powered)
    rw [Host.halted_there there, if_pos active]
    exact ⟨w₁, bind_of_done (ask_of_done stopped), host₁, faultless₁⟩

theorem teardown_served (name pool : String) (faultless : w.Faultless) :
    ∃ w', teardown name pool w = ((w.host.tornDown name pool).1, w') ∧
      w'.host = (w.host.tornDown name pool).2 := by
  unfold Host.tornDown
  by_cases unseen : .domainState ∈ w.host.failing
  · obtain ⟨w₁, asked, host₁, _⟩ := send_refused (r := .domainState name) faultless unseen
    rw [if_pos unseen]
    exact ⟨w₁, by rw [teardown, bind_of_done (attempt_of_failed asked)]; rfl, host₁⟩
  rw [if_neg unseen]
  cases there : w.host.domains[name]? with
  | none =>
    obtain ⟨w₁, asked, host₁, _⟩ := send_able (r := .domainState name) faultless unseen
      (Host.answer_domainState_missing there)
    exact ⟨w₁, by rw [teardown, bind_of_done (attempt_of_failed asked)]; rfl, host₁⟩
  | some domain =>
    obtain ⟨w₁, asked, host₁, faultless₁⟩ := send_able (r := .domainState name) faultless unseen
      (Host.answer_domainState there)
    rw [teardown, bind_of_done (attempt_of_done asked)]
    rw [← host₁] at there ⊢
    dsimp only
    by_cases powered : domain.state.isActive = true ∧ .destroyDomain ∈ w₁.host.failing
    · obtain ⟨w₂, stopped, host₂, _⟩ := send_refused (r := .destroyDomain name) faultless₁ powered.2
      rw [if_pos powered, if_pos powered.1, bind_of_failed (ask_of_failed stopped)]
      exact ⟨w₂, rfl, host₂⟩
    rw [if_neg powered]
    obtain ⟨w₂, stopped, host₂, faultless₂⟩ :=
      stop_served _ pool faultless₁ there fun active fails => powered ⟨active, fails⟩
    rw [stopped]
    by_cases stuck : .undefineDomain ∈ w₁.host.failing
    · obtain ⟨w₃, failed, host₃⟩ := undefine_fails pool faultless₂ (by rwa [host₂])
      rw [if_pos stuck]
      exact ⟨w₃, failed, host₃.trans host₂⟩
    · obtain ⟨_, there₂, _⟩ := Host.halted_domain there
      obtain ⟨w₃, gone, host₃⟩ := undefine_able pool faultless₂ (by rwa [host₂]) (by rwa [host₂])
      rw [host₂, Host.undefined_halted there] at host₃
      rw [if_neg stuck]
      exact ⟨w₃, gone, host₃⟩

theorem connect_refused (faultless : w.Faultless) (refuses : w.host.refusesConnections = true) :
    connect w = (.failed (.connection "connection refused"), note (.connect false) w) := by
  rw [connect, meetFaults_faultless _ faultless]
  exact if_pos refuses

theorem destroy_faultless (name pool : String) (faultless : w.Faultless) : ∃ w',
    destroy name pool w = ((w.host.destroyed name pool).1, w') ∧
      w'.host.objects = (w.host.destroyed name pool).2.objects := by
  unfold Host.destroyed
  cases refuses : w.host.refusesConnections with
  | true => exact ⟨_, connected_refused (connect_refused faultless refuses), rfl⟩
  | false =>
    rw [if_neg Bool.false_ne_true]
    obtain ⟨o, w', run⟩ : ∃ o w', destroy name pool w = (o, w') := ⟨_, _, rfl⟩
    obtain ⟨w₁, w₂, opened, _, ran, closed⟩ := connected_admitted faultless.undisturbed
      (teardown_reaches name pool) (admits_of_calm faultless.host refuses) run
    obtain ⟨v, same, host⟩ := teardown_served name pool (opened.toSameStore.faultless faultless)
    obtain ⟨rfl, rfl⟩ := Prod.mk.inj (ran.symm.trans same)
    obtain ⟨ended, objects⟩ := Host.tornDown_of_objects opened.objects name pool
    have closed : w'.host.objects = w₂.host.objects := by
      rcases closed with idle | ⟨_, rfl⟩
      · exact idle.objects
      · rfl
    exact ⟨w', by rw [run, ended], by rw [closed, host, objects]⟩

theorem destroy_served (name pool : String) (faults : w.hostFaults = []) : ∃ w',
    destroy name pool w = ((w.host.destroyed name pool).1, w') ∧ w'.hostFaults = [] ∧
      w'.host.objects = (w.host.destroyed name pool).2.objects := by
  -- The store has no part in this, so that its faults may be left out of account.
  let v := { w with storeFaults := [] }
  have faultless : v.Faultless := ⟨faults, rfl⟩
  obtain ⟨v', run, objects⟩ := destroy_faultless name pool faultless
  obtain ⟨same, alike⟩ := destroy_matches name pool (w.matches_storeFaults [])
  rw [run] at same alike
  exact ⟨(destroy name pool w).2, Prod.ext same.symm rfl, (destroy_reaches name pool w).store.hostFaults_nil faults,
    alike.objects.symm.trans objects⟩

/-- A second teardown ends as the first did and leaves the host as the first left it, whatever kinds of calls fail.
Where none fails the first one is done, and with the domain it removed the machine's volumes. -/
theorem destroy_idempotent (name pool : String) (faults : w.hostFaults = []) : ∃ o w' w'',
    destroy name pool w = (o, w') ∧ destroy name pool w' = (o, w'') ∧
    w''.host.domains = w'.host.domains ∧ w''.host.pools = w'.host.pools ∧
    (w.host.failing = [] → w.host.refusesConnections = false → o = .done () ∧
      w'.host.domains = w.host.domains.erase name ∧
      w'.host.pools = if name ∈ w.host.domains then
          w.host.pools.update pool fun volumes =>
            (volumes.erase (Names.of name).diskVolume).erase (Names.of name).seedVolume
        else w.host.pools) := by
  obtain ⟨w', first, faults', objects⟩ := destroy_served name pool faults
  obtain ⟨w'', second, -, objects'⟩ := destroy_served name pool faults'
  obtain ⟨ended, left⟩ := Host.destroyed_of_objects objects name pool
  rw [Host.destroyed_again] at ended left
  rw [left, ← objects] at objects'
  refine ⟨_, w', w'', first, by rw [second, ended], Host.domains_of_objects objects',
    Host.pools_of_objects objects', fun able accepts => ?_⟩
  rw [Host.destroyed_able able accepts] at objects ⊢
  rw [Host.domains_of_objects objects, Host.pools_of_objects objects]
  split
  next => exact ⟨rfl, rfl, rfl⟩
  next missing => exact ⟨rfl, (Table.erase_missing (by simpa using missing)).symm, rfl⟩

/-- A world with a running machine whose domain is never undefined. -/
def stuck : World :=
  let serving := World.serving (.ofSpec (.ofName "m"))
  { serving with host := { serving.host with failing := [.undefineDomain] } }

theorem destroy_idempotent_stuck : stuck.hostFaults = [] ∧ ∃ o w' w'', o.isDone = false ∧
    destroy "m" "default" stuck = (o, w') ∧ destroy "m" "default" w' = (o, w'') ∧
    w'.host.domains["m"]?.map Domain.state = some .shutoff ∧ w''.host.domains = w'.host.domains := by
  have faults : stuck.hostFaults = [] := rfl
  obtain ⟨o, w', w'', first, second, same, -⟩ := destroy_idempotent "m" "default" faults
  have short : (destroy "m" "default" stuck).1.isDone = false := by decide +kernel
  have halted : (destroy "m" "default" stuck).2.host.domains["m"]?.map Domain.state = some .shutoff := by
    decide +kernel
  rw [first] at short halted
  exact ⟨faults, o, w', w'', short, first, second, halted, same⟩

end Lifecycle

end MachineKeeper
