import MachineKeeper.Proofs.Ways

/-! What is on a host. The log of a run tells of it: the latest request about a domain or a volume that
was done says whether it is there. -/
namespace MachineKeeper

/-- What is on a host or is not. -/
inductive Thing
  | domain (name : String)
  | volume (pool name : String)
deriving DecidableEq, Repr

/-- Whether something is there after an event, if the event is about that and was done. -/
def Event.leaves? (thing : Thing) : Event → Option Bool
  | .request (.defineDomain d) _ (.done _) => if thing = .domain d.name then some true else none
  | .request (.undefineDomain name) _ (.done _) => if thing = .domain name then some false else none
  | .request (.createVolume pool d) _ (.done _) =>
    if thing = .volume pool d.name then some true else none
  | .request (.deleteVolume pool name) _ (.done _) =>
    if thing = .volume pool name then some false else none
  | _ => none

namespace Host

def has (h : Host) : Thing → Bool
  | .domain name => h.domains[name]?.isSome
  | .volume pool name => (h.volume? pool name).isSome

variable {h h' : Host} {thing : Thing}

theorem has_of_objects (same : h'.objects = h.objects) (thing : Thing) : h'.has thing = h.has thing := by
  cases thing with
  | domain name => rw [has, has, domains_of_objects same]
  | volume pool name => rw [has, has, volume?_of_objects same]

theorem objects_has (h : Host) (thing : Thing) : h.objects.has thing = h.has thing :=
  has_of_objects rfl thing

theorem mem_domains_iff (h : Host) (name : String) : name ∈ h.domains ↔ h.has (.domain name) = true := by
  rw [Std.ExtTreeMap.mem_iff_isSome_getElem?, has]

theorem volume?_setPool (h : Host) (pool : String) (volumes : Table Volume) (p q : String) :
    (h.setPool pool volumes).volume? p q = if p = pool then volumes[q]? else h.volume? p q := by
  by_cases here : pool = p
  · subst here
    simp [Host.volume?, setPool]
  · simp [Host.volume?, setPool, Std.ExtTreeMap.getElem?_insert, here, Ne.symm here]

section
variable {pool volume : String} {volumes : Table Volume}

theorem volume?_of_pool (there : h.pools[pool]? = some volumes) (q : String) :
    h.volume? pool q = volumes[q]? := by
  simp [Host.volume?, there]

theorem has_insert (there : h.pools[pool]? = some volumes) (volume : String) (v : Volume)
    (thing : Thing) : (h.setPool pool (volumes.insert volume v)).has thing =
      (thing = .volume pool volume || h.has thing) := by
  cases thing with
  | domain n => simp [has, setPool]
  | volume p q =>
    rw [has, volume?_setPool]
    split
    next here =>
      subst here
      by_cases same : volume = q
      · simp [same]
      · simp [has, volume?_of_pool there, Std.ExtTreeMap.getElem?_insert, same, Ne.symm same]
    next here => simp [has, here]

theorem has_erase (there : h.pools[pool]? = some volumes) (volume : String) (thing : Thing) :
    (h.setPool pool (volumes.erase volume)).has thing =
      (thing ≠ .volume pool volume && h.has thing) := by
  cases thing with
  | domain n => simp [has, setPool]
  | volume p q =>
    rw [has, volume?_setPool]
    split
    next here =>
      subst here
      by_cases same : volume = q
      · simp [same]
      · simp [has, volume?_of_pool there, Std.ExtTreeMap.getElem?_erase, same, Ne.symm same]
    next here => simp [has, here]

theorem has_volume {found : Volume} (there : h.pools[pool]? = some volumes)
    (member : volumes[volume]? = some found) : h.has (.volume pool volume) = true := by
  simp [has, volume?_of_pool there, member]

end

section
variable {name : String} {domain : Domain}

theorem has_domain (there : h.domains[name]? = some domain) : h.has (.domain name) = true := by
  simp [has, there]

theorem has_setDomain (h : Host) (name : String) (domain : Domain) (thing : Thing) :
    (h.setDomain name domain).has thing = (thing = .domain name || h.has thing) := by
  cases thing with
  | domain n =>
    by_cases same : name = n
    · simp [has, setDomain, same]
    · simp [has, setDomain, Std.ExtTreeMap.getElem?_insert, same, Ne.symm same]
  | volume p q => simp [has, setDomain, Host.volume?]

theorem has_undefined (h : Host) (name : String) (thing : Thing) :
    ({ h with domains := h.domains.erase name } : Host).has thing =
      (thing ≠ .domain name && h.has thing) := by
  cases thing with
  | domain n =>
    by_cases same : name = n
    · simp [has, same]
    · simp [has, Std.ExtTreeMap.getElem?_erase, same, Ne.symm same]
  | volume p q => simp [has, Host.volume?]

end

/-- An answer leaves on the host what the event of it says, and all else as it was. -/
theorem answer_has (h : Host) (r : Request) (thing : Thing) :
    (h.answer r).2.has thing =
      ((Event.request r true (h.answer r).1).leaves? thing).getD (h.has thing) := by
  cases r with
  | defineDomain d =>
    simp only [answer]
    split
    · rfl
    · rw [has_setDomain]
      by_cases same : thing = .domain d.name <;> simp [Event.leaves?, same]
  | undefineDomain name =>
    simp only [answer, withDomain]
    split
    · rw [has_undefined]
      by_cases same : thing = .domain name <;> simp [Event.leaves?, same]
    · rfl
  | startDomain name | destroyDomain name =>
    simp only [answer, withDomain]
    split
    next domain there =>
      split
      · rfl
      · rw [has_setDomain]
        by_cases same : thing = .domain name <;> simp [Event.leaves?, same, has_domain there]
    · rfl
  | createVolume pool d =>
    simp only [answer, withPool]
    split
    next volumes there =>
      split
      · rfl
      · rw [has_insert there]
        by_cases same : thing = .volume pool d.name <;> simp [Event.leaves?, same]
    · rfl
  | uploadVolume pool volume data =>
    simp only [answer, withVolume, withPool]
    split
    next volumes there =>
      split
      next found member =>
        split
        · rfl
        · rw [has_insert there]
          by_cases same : thing = .volume pool volume <;>
            simp [Event.leaves?, same, has_volume there member]
      · rfl
    · rfl
  | deleteVolume pool volume =>
    simp only [answer, withVolume, withPool]
    split
    next volumes there =>
      split
      next found member =>
        rw [has_erase there]
        by_cases same : thing = .volume pool volume <;> simp [Event.leaves?, same]
      · rfl
    · rfl
  | _ => rw [answer_query ⟨rfl, rfl⟩]; rfl

end Host

namespace Session

variable {w w' : World} {ok : Request → Prop}

/-- What is on the host in the second world is what the log between says, and all else as it was. -/
def Tells (w w' : World) : Prop := ∃ events, w'.log = events ++ w.log ∧
  ∀ thing, w'.host.has thing = (events.findSome? (Event.leaves? thing)).getD (w.host.has thing)

theorem tells_frame : Action.Frame Tells where
  refl w := ⟨[], rfl, fun _ => rfl⟩
  trans := by
    rintro a b c ⟨xs, logB, hasB⟩ ⟨ys, logC, hasC⟩
    refine ⟨ys ++ xs, by rw [logC, logB, List.append_assoc], fun thing => ?_⟩
    rw [hasC, hasB, List.findSome?_append]
    cases ys.findSome? (Event.leaves? thing) <;> rfl

theorem Tells.one {e : Event} (log : w'.log = e :: w.log)
    (has : ∀ thing, w'.host.has thing = (e.leaves? thing).getD (w.host.has thing)) : Tells w w' := by
  refine ⟨[e], log, fun thing => ?_⟩
  rw [has, List.findSome?_cons]
  cases e.leaves? thing <;> rfl

theorem Idle.tells {e : Event} (idle : Idle e w w') (silent : ∀ thing, e.leaves? thing = none) :
    Tells w w' :=
  .one idle.log fun thing => by rw [silent, Host.has_of_objects idle.objects]; rfl

theorem send_tells {r : Request} (quiet : w.Undisturbed) : Tells w (send r w).2 := by
  rcases send_cases quiet ((send r).run_halves w) with ⟨e, reached, failed, -, host, log⟩ | ⟨answer, log⟩
  · refine .one log fun thing => ?_
    rw [host, failed]
    cases r <;> rfl
  · refine .one log fun thing => ?_
    have has := Host.answer_has w.host r thing
    rwa [answer] at has

theorem Reaches.tells (path : Reaches ok w w') (quiet : w.Undisturbed) : Tells w w' := by
  induction path with
  | refl => exact tells_frame.refl w
  | connect before ih =>
    refine tells_frame.trans ih ?_
    rcases connect_cases (before.store.undisturbed quiet) (Action.run_halves _ _) with
      ⟨_, idle⟩ | ⟨_, idle⟩ <;> exact idle.tells fun _ => rfl
  | send before _ ih => exact tells_frame.trans ih (send_tells (before.store.undisturbed quiet))
  | disconnect before ih =>
    refine tells_frame.trans ih ?_
    exact (disconnect_cases (before.store.undisturbed quiet) (Action.run_halves _ _)).2.tells fun _ => rfl

end Session

namespace Reconcile

open Session Lifecycle Store MachineKeeper.Action

variable {ε : Type} {w w' : World} {name : String} {record : Record} {intervals : Intervals}
  {ok : Request → Prop}

theorem Travels.tells (way : Travels ok w w') (quiet : w.Undisturbed) :
    w'.Undisturbed ∧ Tells w w' := by
  induction way with
  | refl => exact ⟨quiet, tells_frame.refl w⟩
  | faults site _ ih =>
    have same := stays_store.faults site _ ih.1
    refine ⟨same.undisturbed ih.1, tells_frame.trans ih.2 ⟨[], same.log, fun thing => ?_⟩⟩
    rw [same.host]
    rfl
  | write _ _ ih => exact ⟨⟨ih.1.host, ih.1.store⟩, ih.2⟩
  | reach _ path ih =>
    exact ⟨path.store.undisturbed ih.1, tells_frame.trans ih.2 (path.tells ih.1)⟩

end Reconcile

end MachineKeeper
