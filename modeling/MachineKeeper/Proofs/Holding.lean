import MachineKeeper.Proofs.Presence

/-! What a host holds of one machine, while others change the host as well: they power domains on and off,
resize them and make calls fail, at any time, but they put no volume there. -/
namespace MachineKeeper

/-- A change that puts no volume on a host. -/
def Change.Mild : Change → Prop
  | .insertVolume _ _ _ => False
  | _ => True

/-- A request that leaves domains as they are defined, and volumes as they are. -/
def Request.Powers : Request → Prop
  | .startDomain _ | .destroyDomain _ => True
  | r => r.IsQuery

def Request.Defines (name : String) : Request → Prop
  | .defineDomain d => d.name = name
  | _ => False

/-- Whatever is done to the host in between, it is mild. -/
structure World.Gentle (w : World) : Prop where
  host : ∀ f ∈ w.hostFaults, ∀ c ∈ f.changes, c.Mild
  store : ∀ f ∈ w.storeFaults, ∀ c ∈ f.changes, c.Mild

/-- What a host holds of a machine: how its domain was defined, and its two volumes. -/
@[ext]
structure Holding where
  domain? : Option DomainDescriptor
  disk? : Option Volume
  seed? : Option Volume

namespace Host

def holding (h : Host) (name pool : String) : Holding where
  domain? := h.domains[name]?.map Domain.descriptor
  disk? := h.volume? pool (Names.of name).diskVolume
  seed? := h.volume? pool (Names.of name).seedVolume

variable {ε : Type} {h h' : Host} {name pool : String} {r : Request} {c : Change}

theorem bare_iff : (h.holding name pool).domain? = none ↔ h.domains[name]? = none := by
  simp [holding]

theorem holding_of_tables (domains : h'.domains = h.domains) (pools : h'.pools = h.pools) :
    h'.holding name pool = h.holding name pool := by
  simp only [holding, Host.volume?, domains, pools]

theorem updateDomain_holding (h : Host) (key : String) {f : Domain → Domain}
    (kept : ∀ domain, (f domain).descriptor = domain.descriptor) :
    (h.updateDomain key f).holding name pool = h.holding name pool := by
  have same : (h.updateDomain key f).domains[name]?.map Domain.descriptor =
      h.domains[name]?.map Domain.descriptor := by
    rw [updateDomain, Table.getElem?_update]
    split
    next here =>
      subst here
      cases h.domains[key]? with
      | none => rfl
      | some domain => exact congrArg some (kept domain)
    next => rfl
  rw [holding, same]
  rfl

theorem addPool_holding (h : Host) {key : String} (missing : key ∉ h.pools) :
    (h.setPool key ∅).holding name pool = h.holding name pool := by
  have same (volume : String) : (h.setPool key ∅).volume? pool volume = h.volume? pool volume := by
    rw [volume?_setPool]
    split
    next here =>
      subst here
      simp [Host.volume?, missing]
    next => rfl
  simp only [holding, same]
  rfl

theorem change_holding (mild : c.Mild) :
    (h.change c : Outcome ε Unit × Host).2.holding name pool = h.holding name pool := by
  cases c with
  | addPool key =>
    simp only [change]
    split
    · rfl
    next missing => exact addPool_holding h missing
  | setState key state | setVcpus key vcpus | setLeases key leases =>
    exact updateDomain_holding h key fun _ => rfl
  | setMaxMemory key mib =>
    simp only [change]
    split
    · split
      · exact updateDomain_holding h key fun _ => rfl
      · rfl
    · rfl
  | insertVolume => exact mild.elim
  | _ => rfl

theorem changes_holding {changes : List Change} (mild : ∀ c ∈ changes, c.Mild) (h : Host) :
    (h.changes changes : Outcome ε Unit × Host).2.holding name pool = h.holding name pool :=
  changes_keep (P := fun h' => h'.holding name pool = h.holding name pool)
    (fun c member _ same => (change_holding (mild c member)).trans same) rfl

theorem fire_holding {Site : Type} {faults : List (Fault Site ε)}
    (mild : ∀ f ∈ faults, ∀ c ∈ f.changes, c.Mild) (h : Host) :
    (Fault.fire faults h).2.holding name pool = h.holding name pool :=
  Fault.fire_keeps (P := fun h' => h'.holding name pool = h.holding name pool)
    (fun f due c member _ same => (change_holding (mild f due c member)).trans same) rfl

theorem setDomain_holding {key : String} {domain domain' : Domain} (there : h.domains[key]? = some domain)
    (same : domain'.descriptor = domain.descriptor) :
    (h.setDomain key domain').holding name pool = h.holding name pool := by
  have kept : (h.setDomain key domain').domains[name]?.map Domain.descriptor =
      h.domains[name]?.map Domain.descriptor := by
    by_cases here : key = name
    · subst here
      simp [there, same]
    · simp [setDomain, Std.ExtTreeMap.getElem?_insert, here]
  rw [holding, kept]
  rfl

theorem answer_powers (powers : r.Powers) : (h.answer r).2.holding name pool = h.holding name pool := by
  cases r with
  | startDomain key | destroyDomain key =>
    simp only [answer, withDomain]
    split
    · split
      · rfl
      next there _ => exact setDomain_holding there rfl
    · rfl
  | _ => rw [answer_query powers]

/-- Only by being defined does a domain come to be there. -/
theorem answer_bare (other : ¬ r.Defines name) (bare : (h.holding name pool).domain? = none) :
    ((h.answer r).2.holding name pool).domain? = none := by
  rw [bare_iff] at bare ⊢
  by_cases about : r.domain? = some name
  · cases r with
    | defineDomain d => exact absurd (Option.some.inj about) other
    | startDomain key | destroyDomain key | undefineDomain key =>
      obtain rfl : key = name := Option.some.inj about
      rw [answer, withDomain_missing bare]
      exact bare
    | _ => cases about
  · rw [answer_domain_other about, bare]

theorem answer_createVolume_done {d : VolumeDescriptor} {path : String}
    (answer : h.answer (.createVolume pool d) = (.done path, h')) :
    h'.volume? pool d.name = some (.create pool d) ∧ path = volumePath pool d.name := by
  simp only [Host.answer, withPool] at answer
  split at answer
  · split at answer
    · cases answer
    · obtain ⟨done, rfl⟩ := Prod.mk.inj answer
      cases done
      exact ⟨by simp [volume?_setPool], rfl⟩
  · cases answer

theorem answer_uploadVolume_done {volume : String} {data : Bytes}
    (answer : h.answer (.uploadVolume pool volume data) = (.done (), h')) :
    ∃ found content, h.volume? pool volume = some found ∧
      h'.volume? pool volume = some { found with content } := by
  simp only [Host.answer, withVolume, withPool] at answer
  split at answer
  next volumes there =>
    split at answer
    next found member =>
      split at answer
      · cases answer
      · obtain ⟨-, rfl⟩ := Prod.mk.inj answer
        exact ⟨found, _, volume?_eq_some.mpr ⟨volumes, there, member⟩, by simp [volume?_setPool]; rfl⟩
    · cases answer
  · cases answer

theorem answer_downloadVolume_done {volume : String} {content : Content}
    (answer : h.answer (.downloadVolume pool volume) = (.done content, h')) :
    ∃ found, h.volume? pool volume = some found ∧ found.content = content := by
  simp only [Host.answer, withVolume, withPool] at answer
  split at answer
  next volumes there =>
    split at answer
    next found member =>
      obtain ⟨done, -⟩ := Prod.mk.inj answer
      cases done
      exact ⟨found, volume?_eq_some.mpr ⟨volumes, there, member⟩, rfl⟩
    · cases answer
  · cases answer

theorem answer_defineDomain_done {d : DomainDescriptor}
    (answer : h.answer (.defineDomain d) = (.done (), h')) :
    h'.domains[d.name]?.map Domain.descriptor = some d := by
  simp only [Host.answer] at answer
  split at answer
  · cases answer
  · obtain ⟨-, rfl⟩ := Prod.mk.inj answer
    rw [setDomain_domains_self]
    split <;> rfl

theorem answer_undefineDomain_done {key : String}
    (answer : h.answer (.undefineDomain key) = (.done (), h')) : h'.domains[key]? = none := by
  simp only [Host.answer, withDomain] at answer
  split at answer
  · obtain ⟨-, rfl⟩ := Prod.mk.inj answer
    simp
  · cases answer

end Host

namespace Session

variable {w w' : World} {name pool : String} {r : Request} {ok : Request → Prop} {Q : Holding → Prop}

theorem SameStore.gentle (same : SameStore w w') (gentle : w.Gentle) : w'.Gentle where
  host := by
    intro g member
    obtain ⟨f, there, _, _, changes⟩ := same.hostFaults g member
    rw [changes]
    exact gentle.host f there
  store := by rw [same.storeFaults]; exact gentle.store

theorem meetFaults_holding {site : HostSite} {o : Outcome HostError Unit} {w₁ : World}
    (gentle : w.Gentle) (run : meetFaults site w = (o, w₁)) (domains : w'.host.domains = w₁.host.domains)
    (pools : w'.host.pools = w₁.host.pools) :
    w'.host.holding name pool = w.host.holding name pool := by
  obtain ⟨-, rfl⟩ := Prod.mk.inj run
  rw [Host.holding_of_tables domains pools]
  exact Host.fire_holding (fun f due => gentle.host f (Fault.mem_due due).1) w.host

theorem connect_holding {o : Outcome Error Unit} (gentle : w.Gentle) (run : connect w = (o, w')) :
    w'.host.holding name pool = w.host.holding name pool := by
  unfold connect at run
  split at run
  next met =>
    obtain ⟨-, rfl⟩ := Prod.mk.inj run
    exact meetFaults_holding gentle met rfl rfl
  next met =>
    obtain ⟨-, rfl⟩ := Prod.mk.inj run
    exact meetFaults_holding gentle met rfl rfl
  next met =>
    split at run <;> obtain ⟨-, rfl⟩ := Prod.mk.inj run <;> exact meetFaults_holding gentle met rfl rfl

theorem disconnect_holding (gentle : w.Gentle) :
    (disconnect w).2.host.holding name pool = w.host.holding name pool := by
  unfold disconnect
  split <;> next met => exact meetFaults_holding gentle met rfl rfl

/-- A request that is done was answered by a host that holds the same of the machine. -/
theorem send_holding {o : Outcome HostError r.Reply} (gentle : w.Gentle) (run : send r w = (o, w')) :
    (o.isDone = false ∧ w'.host.holding name pool = w.host.holding name pool) ∨
    ∃ a, o = .done a ∧ ∃ h : Host, h.holding name pool = w.host.holding name pool ∧
      h.answer r = (.done a, w'.host) := by
  unfold send at run
  split at run
  next met =>
    obtain ⟨rfl, rfl⟩ := Prod.mk.inj run
    exact .inl ⟨rfl, meetFaults_holding gentle met rfl rfl⟩
  next met =>
    obtain ⟨rfl, rfl⟩ := Prod.mk.inj run
    exact .inl ⟨rfl, meetFaults_holding gentle met rfl rfl⟩
  next w₁ met =>
    -- The host that answers is the one that the faults left, which holds the same.
    have same : w₁.host.holding name pool = w.host.holding name pool :=
      meetFaults_holding gentle met rfl rfl
    simp only [Host.serve] at run
    split at run <;> obtain ⟨rfl, rfl⟩ := Prod.mk.inj run
    · exact .inl ⟨rfl, same⟩
    · cases answered : (w₁.host.answer r).1 with
      | done a => exact .inr ⟨a, rfl, w₁.host, same, Prod.ext answered rfl⟩
      | failed | overflow =>
        refine .inl ⟨rfl, ?_⟩
        have turned := Host.answer_turned (congrArg Outcome.isDone answered)
        exact (congrArg (Host.holding · name pool) turned).trans same

theorem ask_gentle {context : String} {o : Outcome Error r.Reply} (gentle : w.Gentle)
    (run : ask context r w = (o, w')) : w'.Gentle := by
  have path : Reaches (fun _ => True) w w' := (reaches_ask context trivial).of_run run
  exact path.store.gentle gentle

theorem ask_holding {context : String} {o : Outcome Error r.Reply} (gentle : w.Gentle)
    (run : ask context r w = (o, w')) :
    (o.isDone = false ∧ w'.host.holding name pool = w.host.holding name pool) ∨
    ∃ a, o = .done a ∧ ∃ h : Host, h.holding name pool = w.host.holding name pool ∧
      h.answer r = (.done a, w'.host) := by
  obtain ⟨o₁, sent, rfl⟩ := Action.mapError_cases run
  rcases send_holding gentle sent with ⟨turned, same⟩ | ⟨a, rfl, answered⟩
  · cases o₁ with
    | done => cases turned
    | failed | overflow => exact .inl ⟨rfl, same⟩
  · exact .inr ⟨a, rfl, answered⟩

theorem ask_turned {context : String} {o : Outcome Error r.Reply} (gentle : w.Gentle)
    (run : ask context r w = (o, w')) (turned : o.isDone = false) :
    w'.host.holding name pool = w.host.holding name pool := by
  rcases ask_holding gentle run with ⟨_, same⟩ | ⟨a, rfl, _⟩
  · exact same
  · cases turned

theorem ask_done_holding {context : String} {a : r.Reply} (gentle : w.Gentle)
    (run : ask context r w = (.done a, w')) :
    ∃ h : Host, h.holding name pool = w.host.holding name pool ∧ h.answer r = (.done a, w'.host) := by
  rcases ask_holding gentle run with ⟨turned, _⟩ | ⟨_, same, answered⟩
  · cases turned
  · cases same
    exact answered

theorem Reaches.holding (path : Reaches ok w w') (gentle : w.Gentle)
    (kept : ∀ r h, ok r → Q (Host.holding h name pool) → Q ((h.answer r).2.holding name pool))
    (start : Q (w.host.holding name pool)) : Q (w'.host.holding name pool) := by
  induction path with
  | refl => exact start
  | @connect w₁ before ih =>
    rw [connect_holding (before.store.gentle gentle) (Action.run_halves _ _)]
    exact ih
  | @send w₁ r before allowed ih =>
    rcases send_holding (before.store.gentle gentle) ((Session.send r).run_halves w₁) with
      ⟨_, same⟩ | ⟨_, _, h, same, answer⟩
    · rw [same]
      exact ih
    · have left := kept r h allowed (same ▸ ih)
      rwa [answer] at left
  | @disconnect w₁ before ih =>
    rw [disconnect_holding (before.store.gentle gentle)]
    exact ih

end Session

namespace Reconcile

open Session

variable {w w' : World} {name pool : String} {ok : Request → Prop} {Q : Holding → Prop}

theorem meetFaults_gentle (site : StoreSite) (gentle : w.Gentle) :
    (Store.meetFaults site w).2.Gentle := by
  refine ⟨gentle.host, fun g member => ?_⟩
  obtain ⟨f, there, _, _, changes⟩ := Fault.mem_remaining member
  rw [changes]
  exact gentle.store f there

theorem meetFaults_holding (site : StoreSite) (gentle : w.Gentle) :
    (Store.meetFaults site w).2.host.holding name pool = w.host.holding name pool :=
  Host.fire_holding (fun f due => gentle.store f (Fault.mem_due due).1) w.host

theorem Travels.gentle (way : Travels ok w w') (gentle : w.Gentle) : w'.Gentle := by
  induction way with
  | refl => exact gentle
  | faults site _ ih => exact meetFaults_gentle site ih
  | write _ _ ih => exact ⟨ih.host, ih.store⟩
  | reach _ path ih => exact path.store.gentle ih

theorem Travels.holding (way : Travels ok w w') (gentle : w.Gentle)
    (kept : ∀ r h, ok r → Q (Host.holding h name pool) → Q ((h.answer r).2.holding name pool))
    (start : Q (w.host.holding name pool)) : Q (w'.host.holding name pool) := by
  induction way with
  | refl => exact start
  | @faults w₁ site before ih =>
    rw [meetFaults_holding site (before.gentle gentle)]
    exact ih
  | write _ _ ih => exact ih
  | reach before path ih => exact path.holding (before.gentle gentle) kept ih

end Reconcile

end MachineKeeper
