import MachineKeeper.Proofs.Host

/-! Every request to a host is atomic and local. One that is turned down leaves the host as it is, one that only
asks does too, and any other touches the one domain or the one volume that it names. -/
namespace MachineKeeper.Host

variable {h : Host} {r : Request} {name pool volume : String}

/-- What a host needs to have for a request to succeed. -/
def Grants (h : Host) : Request → Prop
  | .domainInfo name | .domainState name | .undefineDomain name => name ∈ h.domains
  | .defineDomain descriptor => descriptor.memoryMib.toNat * 1024 < UInt64.size
  | .startDomain name => ∃ domain, h.domains[name]? = some domain ∧ domain.state ≠ .running
  | .destroyDomain name => ∃ domain, h.domains[name]? = some domain ∧ domain.state ≠ .shutoff
  | .leaseAddresses name => ∃ domain, h.domains[name]? = some domain ∧ domain.state = .running
  | .lookupPool pool | .refreshPool pool => pool ∈ h.pools
  | .createVolume pool descriptor => pool ∈ h.pools ∧ h.volume? pool descriptor.name = none
  | .volumePath pool volume | .downloadVolume pool volume | .deleteVolume pool volume =>
    ∃ found, h.volume? pool volume = some found
  | .uploadVolume pool volume data => ∃ found, h.volume? pool volume = some found ∧
    data.length ≤ found.descriptor.capacity.inBytes.toNat

/-- The hosts that a request that succeeds may leave. -/
inductive Touched (h : Host) (r : Request) : Host → Prop
  | nothing (query : r.IsQuery) : Touched h r h
  | domain {name : String} {domains : Table Domain} (named : r.domain? = some name)
      (others : ∀ other ≠ name, domains[other]? = h.domains[other]?) : Touched h r { h with domains }
  | volume {pool name : String} {volumes volumes' : Table Volume} (named : r.volume? = some (pool, name))
      (there : h.pools[pool]? = some volumes) (others : ∀ other ≠ name, volumes'[other]? = volumes[other]?) :
      Touched h r (h.setPool pool volumes')

/-- How a request may end, and on which host. -/
inductive Settled (h : Host) (r : Request) : Outcome HostError r.Reply × Host → Prop
  | done {reply : r.Reply} {h' : Host} (able : r.call ∉ h.failing) (granted : h.Grants r)
      (touched : h.Touched r h') : Settled h r (.done reply, h')
  | failed {e : HostError} (cause : r.call ∈ h.failing ∨ ¬ h.Grants r) : Settled h r (.failed e, h)
  | overflow {descriptor : DomainDescriptor} (asked : r = .defineDomain descriptor)
      (large : UInt64.size ≤ descriptor.memoryMib.toNat * 1024) : Settled h r (.overflow, h)

theorem withDomain_settled {answer : Domain → Outcome HostError r.Reply × Host}
    (needed : h.Grants r → name ∈ h.domains)
    (there : ∀ domain, h.domains[name]? = some domain → h.Settled r (answer domain)) :
    h.Settled r (h.withDomain name answer) := by
  cases found : h.domains[name]? with
  | some domain => exact withDomain_eq found answer ▸ there domain found
  | none =>
    rw [withDomain_missing found]
    exact .failed (.inr (mt needed (Table.not_mem_of_missing found)))

theorem withPool_settled {answer : Table Volume → Outcome HostError r.Reply × Host}
    (needed : h.Grants r → pool ∈ h.pools)
    (there : ∀ volumes, h.pools[pool]? = some volumes → h.Settled r (answer volumes)) :
    h.Settled r (h.withPool pool answer) := by
  cases found : h.pools[pool]? with
  | some volumes => exact withPool_eq found answer ▸ there volumes found
  | none =>
    rw [withPool_missing found]
    exact .failed (.inr (mt needed (Table.not_mem_of_missing found)))

theorem withVolume_settled {answer : Table Volume → Volume → Outcome HostError r.Reply × Host}
    (needed : h.Grants r → ∃ found, h.volume? pool volume = some found)
    (there : ∀ volumes found, h.pools[pool]? = some volumes → h.volume? pool volume = some found →
      h.Settled r (answer volumes found)) : h.Settled r (h.withVolume pool volume answer) := by
  cases seen : h.volume? pool volume with
  | some found =>
    obtain ⟨volumes, here, member⟩ := volume?_eq_some.mp seen
    exact withVolume_eq here member answer ▸ there volumes found here seen
  | none =>
    obtain ⟨e, turned⟩ := withVolume_missing seen answer
    rw [turned]
    exact .failed (.inr (mt needed (by simp [seen])))

theorem mem_of_granted {P : Domain → Prop} (granted : ∃ domain, h.domains[name]? = some domain ∧ P domain) :
    name ∈ h.domains := by
  obtain ⟨_, found, _⟩ := granted
  exact Table.mem_of_found found

theorem answer_settled (able : r.call ∉ h.failing) : h.Settled r (h.answer r) := by
  cases r with
  | domainInfo name | domainState name =>
    exact withDomain_settled id fun _ found => .done able (Table.mem_of_found found) (.nothing ⟨rfl, rfl⟩)
  | undefineDomain name =>
    exact withDomain_settled id fun _ found => .done able (Table.mem_of_found found) (.domain rfl Table.erase_others)
  | defineDomain descriptor =>
    simp only [answer, kibOfMib?]
    by_cases fits : descriptor.memoryMib.toNat * 1024 < UInt64.size
    · rw [if_pos fits]
      exact .done able fits (.domain rfl Table.insert_others)
    · rw [if_neg fits]
      exact .overflow rfl (Nat.not_lt.mp fits)
  | startDomain name =>
    refine withDomain_settled mem_of_granted fun domain found => ?_
    split
    next runs => exact .failed (.inr (by simpa [Grants, found] using runs))
    next halted => exact .done able ⟨domain, found, halted⟩ (.domain rfl Table.insert_others)
  | destroyDomain name =>
    refine withDomain_settled mem_of_granted fun domain found => ?_
    split
    next off => exact .failed (.inr (by simpa [Grants, found] using off))
    next powered => exact .done able ⟨domain, found, powered⟩ (.domain rfl Table.insert_others)
  | leaseAddresses name =>
    refine withDomain_settled mem_of_granted fun domain found => ?_
    split
    next runs => exact .done able ⟨domain, found, runs⟩ (.nothing ⟨rfl, rfl⟩)
    next halted => exact .failed (.inr (by simpa [Grants, found] using halted))
  | lookupPool pool | refreshPool pool =>
    exact withPool_settled id fun _ found => .done able (Table.mem_of_found found) (.nothing ⟨rfl, rfl⟩)
  | createVolume pool descriptor =>
    refine withPool_settled And.left fun volumes found => ?_
    split
    next taken => exact .failed (.inr fun granted => (volume?_ne_none found).mpr taken granted.2)
    next free =>
      have missing := Classical.not_not.mp (mt (volume?_ne_none found).mp free)
      exact .done able ⟨Table.mem_of_found found, missing⟩ (.volume rfl found Table.insert_others)
  | volumePath pool volume | downloadVolume pool volume =>
    exact withVolume_settled id fun _ found _ seen => .done able ⟨found, seen⟩ (.nothing ⟨rfl, rfl⟩)
  | deleteVolume pool volume =>
    exact withVolume_settled id fun _ found there seen => .done able ⟨found, seen⟩ (.volume rfl there Table.erase_others)
  | uploadVolume pool volume data =>
    refine withVolume_settled (Exists.imp fun _ => And.left) fun volumes found there seen => ?_
    split
    next long => exact .failed (.inr (by simpa [Grants, seen] using long))
    next room => exact .done able ⟨found, seen, Nat.not_lt.mp room⟩ (.volume rfl there Table.insert_others)

/-- Every request is atomic and local. -/
theorem serve_settled (h : Host) (r : Request) : h.Settled r (h.serve r) := by
  by_cases failing : r.call ∈ h.failing
  · rw [serve_failing failing]
    exact .failed (.inl failing)
  · rw [serve_able failing]
    exact answer_settled failing

end MachineKeeper.Host
