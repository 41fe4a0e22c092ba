import MachineKeeper.Proofs.BootstrapGate
import MachineKeeper.Proofs.Convergence

/-! Where the volumes of a machine are, over passes and over edits of its record between them. They are
made in the pool that the record names when the machine is made, and looked for in the one that it names
when the machine goes; nothing takes them along from one to the other. -/
namespace MachineKeeper

/-- What matters to the whereabouts of a machine's volumes. -/
inductive Turn
  /-- The machine was made, with its volumes in this pool. -/
  | made (pool : String)
  /-- It went, and its volumes were looked for in this pool. -/
  | cleared (pool : String)
  /-- Its record came to name another pool while there was a domain. -/
  | relocated
deriving DecidableEq, Repr

/-- Whether a pool is left with the volumes, after turns of which the latest stands first. -/
def Held (pool : String) : List Turn → Prop
  | [] => False
  | .made place :: earlier => pool = place ∨ Held pool earlier
  | .cleared place :: earlier => pool ≠ place ∧ Held pool earlier
  | .relocated :: earlier => Held pool earlier

/-- The pool that the record of a machine names. -/
def World.poolOf (w : World) (name : String) : Option String :=
  w.records[name]?.map (·.spec.storagePool)

namespace Turn

/-- What a pass did about a machine's volumes, told by the domain before and after. -/
def ofPass (name : String) (w w' : World) : List Turn :=
  if name ∈ w.host.domains then
    if name ∈ w'.host.domains then [] else (w.poolOf name).toList.map .cleared
  else
    if name ∈ w'.host.domains then (w.poolOf name).toList.map .made else []

/-- What an edit of its record comes to for a machine's volumes. -/
def ofEdit (name : String) (w w' : World) : List Turn :=
  if name ∈ w.host.domains ∧ w'.poolOf name ≠ w.poolOf name then [.relocated] else []

section
variable {name pool : String} {w w' : World}

theorem ofPass_same (same : w'.host.domains = w.host.domains) : ofPass name w w' = [] := by
  rw [ofPass, same]
  split <;> rfl

theorem ofPass_made (missing : name ∉ w.host.domains) (there : name ∈ w'.host.domains)
    (named : w.poolOf name = some pool) : ofPass name w w' = [.made pool] := by
  rw [ofPass, if_neg missing, if_pos there, named]
  rfl

theorem ofPass_cleared (there : name ∈ w.host.domains) (missing : name ∉ w'.host.domains)
    (named : w.poolOf name = some pool) : ofPass name w w' = [.cleared pool] := by
  rw [ofPass, if_pos there, if_neg missing, named]
  rfl

end

end Turn

theorem held_ofEdit (name pool : String) (w w' : World) (trail : List Turn) :
    Held pool (Turn.ofEdit name w w' ++ trail) ↔ Held pool trail := by
  rw [Turn.ofEdit]
  split <;> rfl

/-- A record stands under its name, and its memory can be asked for. -/
structure Record.Manageable (name : String) (record : Record) : Prop where
  named : record.name = name
  memory : record.spec.memory.toNat * 1024 < UInt64.size

theorem Record.Manageable.of_spec {name : String} {record record' : Record}
    (manageable : record.Manageable name) (same : record'.spec = record.spec) :
    record'.Manageable name where
  named := (congrArg Spec.name same).trans manageable.named
  memory := by
    rw [same]
    exact manageable.memory

theorem Host.ejected_bare (h : Host) (name pool : String) : name ∉ (h.ejected name pool).domains := by
  by_cases there : name ∈ h.domains
  · rw [ejected_there there, mem_domains_iff, Reconcile.without_bare]
    nofun
  · rwa [ejected_missing there]

namespace Reconcile

open Session Lifecycle Store MachineKeeper.Action

variable {ε : Type} {w w' : World} {name : String} {record : Record} {intervals : Intervals}
  {ok : Request → Prop} {h h' : Host} {spec : Spec} {trail : List Turn}

/-- Passes for one machine with edits of its record in between, in which it names pools that are there.
All else may change as well, but for what is on the host and the calls that fail. -/
inductive Tended (intervals : Intervals) (name : String) (w₀ : World) : List Turn → World → Prop
  | start : Tended intervals name w₀ [] w₀
  | passed {trail : List Turn} {w w' : World} (before : Tended intervals name w₀ trail w)
      (run : ((runPass intervals name : Action Empty Next) w).2 = w') :
      Tended intervals name w₀ (Turn.ofPass name w w' ++ trail) w'
  | edited {trail : List Turn} {w w' : World} {edit : Record → Record}
      (before : Tended intervals name w₀ trail w)
      (manageable : ∀ record, w.records[name]? = some record → (edit record).Manageable name)
      (placed : ∀ record, w.records[name]? = some record → (edit record).spec.storagePool ∈ w.host.pools)
      (run : ((Store.update name edit : Action Empty (Option Record)) w).2 = w') :
      Tended intervals name w₀ (Turn.ofEdit name w w' ++ trail) w'
  | elsewhere {trail : List Turn} {w w' : World} (before : Tended intervals name w₀ trail w)
      (record : w'.records[name]? = w.records[name]?) (host : w'.host = w.host)
      (hostFaults : w'.hostFaults = w.hostFaults) (storeFaults : w'.storeFaults = w.storeFaults) :
      Tended intervals name w₀ trail w'

/-- The domains and volumes that a pass leaves: it leaves them as they are, or it sets about a machine
that is missing, or it takes away one that is there. -/
inductive Handled (record : Record) (h : Host) : Host → Prop
  | left : Handled record h h
  | made {text : String} {o : Outcome Error Unit} {host : Host} (missing : record.name ∉ h.domains)
      (creation : Creation h { record.spec with userData := text } o host) : Handled record h host
  | cleared (there : record.name ∈ h.domains) :
      Handled record h (h.without record.name record.spec.storagePool)

theorem handled_looked (calm : w.Calm) (looked : Travels (Observes record.name) w w') :
    Handled record w.host.objects w'.host.objects := by
  rw [(travels_looked looked calm.undisturbed).2]
  exact .left

theorem remove_handled {o : Outcome Failure Next} (calm : w.Calm) (run : remove record w = (o, w')) :
    Handled record w.host.objects w'.host.objects := by
  have moves : (publish record.name ({ · with phase := .deleting })).Keeps
      (Travels (Observes record.name)) := publish_keeps travels_store (.moved (by decide))
  rw [remove_eq] at run
  rcases bind_cases run with ⟨_, w₁, moved, rest⟩ | ⟨e, moved, _⟩ | ⟨moved, _⟩
  · have way := moves.of_run moved
    obtain ⟨w₂, ejected, path, objects⟩ := eject_calm (way.calm calm) record
    rw [bind_of_done ejected] at rest
    have gone : Travels (Observes record.name) w₂ w' := (letGo_keeps travels_store record).of_run rest
    rw [(travels_looked gone (path.calm (way.calm calm)).undisturbed).2, objects,
      (travels_looked way calm.undisturbed).2]
    by_cases there : record.name ∈ w.host.objects.domains
    · rw [Host.ejected_there there]
      exact .cleared there
    · rw [Host.ejected_missing there]
      exact .left
  · exact handled_looked calm (moves.of_run moved)
  · exact handled_looked calm (moves.of_run moved)

theorem discard_handled {o : Outcome Failure Next} {w₁ : World} (calm : w.Calm)
    (looked : Travels (Observes record.name) w w₁) (there : record.name ∈ w.host.domains)
    (run : discard intervals record w₁ = (o, w')) : Handled record w.host.objects w'.host.objects := by
  have same := (travels_looked looked calm.undisturbed).2
  obtain ⟨domain, found⟩ := Table.found_of_mem there
  rw [← Host.domains_of_objects same] at found
  obtain ⟨w₂, torn, path, objects⟩ := destroy_calm (looked.calm calm) found
  rw [discard, apartWithin, bind_of_done (apart_of_done torn)] at run
  have told : Travels (Observes record.name) w₂ w' :=
    (report_keeps travels_store (.cleared (by decide)) _).of_run run
  rw [(travels_looked told (path.calm (looked.calm calm)).undisturbed).2, objects, same]
  exact .cleared there

theorem build_handled {o : Outcome Failure Next} {w₁ : World} (calm : w.Calm)
    (memory : record.spec.memory.toNat * 1024 < UInt64.size)
    (looked : Travels (Observes record.name) w w₁) (missing : record.name ∉ w.host.domains)
    (run : build intervals record w₁ = (o, w')) : Handled record w.host.objects w'.host.objects := by
  have idle {w w' : World} (way : Travels (fun _ => False) w w') : Travels (Observes record.name) w w' :=
    way.mono fun _ => False.elim
  rcases build_ways run with unmade | ⟨text, w₂, o₃, w₃, _, reads, made, told⟩
  · exact handled_looked calm (travels_frame.trans looked (idle unmade))
  have looked₂ := travels_frame.trans looked (idle reads)
  have calm₂ := looked₂.calm calm
  have same := (travels_looked looked₂ calm.undisturbed).2
  let spec := { record.spec with userData := text }
  have absent : w₂.host.domains[spec.name]? = none := by
    rw [Host.domains_of_objects same]
    exact Std.ExtTreeMap.getElem?_eq_none missing
  have creation : Creation w₂.host.objects spec o₃ w₃.host.objects :=
    create_calm calm₂ absent memory made
  rw [same] at creation
  rw [(travels_looked (idle told) (((create_reaches spec).of_run made).calm calm₂).undisturbed).2]
  exact .made missing creation

theorem step_handled {o : Outcome Failure Next} (calm : w.Calm)
    (memory : record.spec.memory.toNat * 1024 < UInt64.size) (run : step intervals record w = (o, w')) :
    Handled record w.host.objects w'.host.objects := by
  have looks : (apart .error (probe record.spec)).Keeps (Travels (Observes record.name)) :=
    apart_travels (probe_reaches record.spec)
  cases step_stepped run with
  | gone => exact .left
  | paused _ ran | unlinked _ ran =>
    exact handled_looked calm ((report_keeps travels_store (.moved (by decide)) _).of_run ran)
  | removed _ ran => exact remove_handled calm ran
  | unprobed _ probed => exact handled_looked calm (looks.of_run probed)
  | discarded probed ran =>
    exact discard_handled calm (looks.of_run probed) (probe_true calm.undisturbed (apart_done probed)) ran
  | observed probed ran =>
    exact handled_looked calm
      (travels_frame.trans (looks.of_run probed) ((observe_travels intervals record).of_run ran))
  | built probed ran =>
    refine build_handled calm memory (looks.of_run probed) (fun there => ?_) ran
    obtain ⟨domain, found⟩ := Table.found_of_mem there
    obtain ⟨_, seen⟩ := probe_there calm found
    cases (apart_of_done seen).symm.trans probed

theorem runPass_handled {o : Outcome ε Next} (calm : w.Calm) (found : w.records[record.name]? = some record)
    (memory : record.spec.memory.toNat * 1024 < UInt64.size)
    (run : runPass intervals record.name w = (o, w')) :
    Handled record w.host.objects w'.host.objects := by
  obtain ⟨o₁, w₁, ran, rest⟩ := runPass_parts run
  rw [reconcile_calm calm found] at ran
  have handled := step_handled calm memory ran
  rcases rest with rfl | ⟨failure, noted⟩
  · exact handled
  · have calm₁ := ((step_travels intervals record).of_run ran).calm calm
    have told : Travels (Observes record.name) w₁ w' :=
      (handleFailure_keeps travels_store intervals record.name failure).of_run noted
    rwa [(travels_looked told calm₁.undisturbed).2]

theorem has_without (h : Host) (name pool : String) {place volume : String}
    (member : volume ∈ volumesOf name) : (h.without name pool).has (.volume place volume) =
      (place ≠ pool && h.has (.volume place volume)) := by
  by_cases same : place = pool
  · subst same
    rw [without_empty h name place member]
    simp
  · have kept : (h.without name pool).pools[place]? = h.pools[place]? := by
      rw [Host.without, Host.withoutVolumes, Table.getElem?_update, if_neg (Ne.symm same)]
    simp [Host.has, Host.volume?, kept, same]

/-- A machine is made with both of its volumes, or nothing is made. -/
theorem creation_volumes {o : Outcome Error Unit} (intact : h.corruptsUploads = false)
    (creation : Creation h spec o h') : h' = h ∨ spec.name ∈ h'.domains ∧
      ∀ place, ∀ volume ∈ volumesOf spec.name, h'.has (.volume place volume) =
        (place = spec.storagePool || h.has (.volume place volume)) := by
  cases creation with
  | misnamed | unimaged | unplaced => exact .inl rfl
  -- An upload that is garbled leaves the seed volume without a domain.
  | garbled _ _ _ corrupts => cases corrupts.symm.trans intact
  | @started image volumes =>
    refine .inr ⟨Std.ExtTreeMap.mem_insert_self, fun place volume member => ?_⟩
    rw [Host.has_setDomain, Host.has, Host.volume?_setPool]
    split
    next here =>
      have member : volume = spec.names.diskVolume ∨ volume = spec.names.seedVolume := by
        simpa [volumesOf, Spec.names] using member
      rcases member with rfl | rfl <;> simp [furnished, here]
    next here => simp [Host.has, here]

/-- What a pass does for a machine's volumes, and what of it is told by the domain. -/
inductive Turned (record : Record) (w w' : World) : List Turn → Prop
  | left (same : w'.host.objects = w.host.objects) : Turned record w w' []
  | made (missing : record.name ∉ w.host.domains) (there : record.name ∈ w'.host.domains)
      (volumes : ∀ place, ∀ volume ∈ volumesOf record.name, w'.host.has (.volume place volume) =
        (place = record.spec.storagePool || w.host.has (.volume place volume))) :
      Turned record w w' [.made record.spec.storagePool]
  | cleared (there : record.name ∈ w.host.domains) (missing : record.name ∉ w'.host.domains)
      (volumes : ∀ place, ∀ volume ∈ volumesOf record.name, w'.host.has (.volume place volume) =
        (place ≠ record.spec.storagePool && w.host.has (.volume place volume))) :
      Turned record w w' [.cleared record.spec.storagePool]

theorem poolOf_found (found : w.records[name]? = some record) :
    w.poolOf name = some record.spec.storagePool := by
  rw [World.poolOf, found]
  rfl

theorem Handled.turned (found : w.records[record.name]? = some record)
    (intact : w.host.corruptsUploads = false) (handled : Handled record w.host.objects w'.host.objects) :
    Turned record w w' (Turn.ofPass record.name w w') := by
  have named := poolOf_found found
  have left (same : w'.host.objects = w.host.objects) :
      Turned record w w' (Turn.ofPass record.name w w') := by
    rw [Turn.ofPass_same (Host.domains_of_objects same)]
    exact .left same
  generalize objects : w'.host.objects = host at handled
  have domains : w'.host.domains = host.domains := by rw [← objects, Host.objects_domains]
  have has (thing : Thing) : w'.host.has thing = host.has thing := by rw [← objects, Host.objects_has]
  cases handled with
  | left => exact left objects
  | made missing creation =>
    rcases creation_volumes (h := w.host.objects) intact creation with same | ⟨there, volumes⟩
    · exact left (objects.trans same)
    · have there : record.name ∈ w'.host.domains := by rwa [domains]
      rw [Turn.ofPass_made missing there named]
      refine .made missing there fun place volume member => ?_
      rw [has, volumes place volume member, Host.objects_has]
  | cleared there =>
    have missing : record.name ∉ w'.host.domains := by
      rw [domains, Host.mem_domains_iff, without_bare]
      nofun
    rw [Turn.ofPass_cleared there missing named]
    refine .cleared there missing fun place volume member => ?_
    rw [has, has_without _ _ _ member, Host.objects_has]

def intent (name : String) (w : World) : Option (Spec × Bool) :=
  w.records[name]?.map fun record => (record.spec, record.deletionRequested)

/-- A record asks for the same as before, or it was to go and is gone. -/
def Carries (name : String) (w w' : World) : Prop :=
  intent name w' = intent name w ∨
    w'.records[name]? = none ∧ ∃ spec, intent name w = some (spec, true)

theorem carries_frame : Frame (Carries name) where
  refl _ := .inl rfl
  trans := by
    intro a b c first second
    rcases first with same | ⟨gone, _, doomed⟩
    · rwa [Carries, same] at second
    · have forgotten : intent name b = none := by rw [intent, gone]; rfl
      rcases second with same | ⟨_, _, there⟩
      · exact .inr ⟨Option.map_eq_none_iff.mp (same.trans forgotten), _, doomed⟩
      · cases forgotten.symm.trans there

theorem rewritten_intent {key : String} {record' : Record}
    (rewritten : Record.Rewritten key record record') :
    (record'.spec, record'.deletionRequested) = (record.spec, record.deletionRequested) := by
  cases rewritten <;> rfl

theorem edited_carries {records : Table Record} (edited : Edited w.records records) :
    Carries name w { w with records } := by
  cases edited with
  | @written key record record' found rewritten =>
    left
    by_cases same : key = name
    · subst same
      simpa [intent, found] using rewritten_intent rewritten
    · simp [intent, Std.ExtTreeMap.getElem?_insert, same]
  | @dropped key record found requested =>
    by_cases same : key = name
    · subst same
      exact .inr ⟨Std.ExtTreeMap.getElem?_erase_self, record.spec, by simp [intent, found, requested]⟩
    · left
      simp [intent, Std.ExtTreeMap.getElem?_erase, same]

theorem Travels.carries (way : Travels ok w w') : Carries name w w' := by
  have kept {w w' : World} (same : w'.records = w.records) : Carries name w w' := by
    left
    rw [intent, same, intent]
  induction way with
  | refl => exact carries_frame.refl w
  | faults site _ ih => exact carries_frame.trans ih (kept rfl)
  | write edited _ ih => exact carries_frame.trans ih (edited_carries edited)
  | reach _ path ih => exact carries_frame.trans ih (kept path.store.records)

theorem Carries.found (carries : Carries name w w') (found : w.records[name]? = some record) :
    (∃ record', w'.records[name]? = some record' ∧ record'.spec = record.spec) ∨
    w'.records[name]? = none ∧ record.deletionRequested = true := by
  have asked : intent name w = some (record.spec, record.deletionRequested) := by
    rw [intent, found]
    rfl
  rcases carries with same | ⟨gone, _, doomed⟩
  · obtain ⟨record', found', same⟩ := Option.map_eq_some_iff.mp (same.trans asked)
    exact .inl ⟨record', found', (Prod.mk.inj same).1⟩
  · rw [asked] at doomed
    exact .inr ⟨gone, (Prod.mk.inj (Option.some.inj doomed)).2⟩

/-- A pass that leaves a domain leaves the record as well, and what it asks for. -/
theorem runPass_keeps_record {o : Outcome ε Next} (calm : w.Calm)
    (found : w.records[record.name]? = some record)
    (run : runPass intervals record.name w = (o, w')) (there : record.name ∈ w'.host.domains) :
    ∃ record', w'.records[record.name]? = some record' ∧ record'.spec = record.spec := by
  rcases ((runPass_travels intervals record.name).of_run run).carries.found found with
    kept | ⟨gone, requested⟩
  · exact kept
  · -- The pass let go of the record, so that it took the domain away if there was one.
    have ended : w' = ((runPass intervals record.name : Action ε Next) w).2 := by rw [run]
    rw [ended] at gone there
    have free := (runPass_releases_iff calm found requested).mp gone
    rw [← Host.objects_domains, runPass_ejects calm found requested free] at there
    exact absurd there (Host.ejected_bare _ _ _)

/-- What holds over a run: the trail tells where the volumes are, and unless the record was ever changed
over a domain, that is where it says. -/
structure Accounted (name : String) (trail : List Turn) (w : World) : Prop where
  calm : w.Calm
  intact : w.host.corruptsUploads = false
  manageable : ∀ record, w.records[name]? = some record → record.Manageable name
  stored : ∀ pool, ∀ volume ∈ volumesOf name,
    w.host.has (.volume pool volume) = true ↔ Held pool trail
  placed : .relocated ∉ trail → ∀ pool, Held pool trail →
    name ∈ w.host.domains ∧ w.poolOf name = some pool

theorem Accounted.start (calm : w.Calm) (intact : w.host.corruptsUploads = false)
    (manageable : ∀ record, w.records[name]? = some record → record.Manageable name)
    (empty : ∀ pool, ∀ volume ∈ volumesOf name, w.host.has (.volume pool volume) = false) :
    Accounted name [] w where
  calm := calm
  intact := intact
  manageable := manageable
  stored pool volume member := by simp [empty pool volume member, Held]
  placed := nofun

theorem Turned.stored {turns : List Turn} (turned : Turned record w w' turns)
    (stored : ∀ pool, ∀ volume ∈ volumesOf record.name,
      w.host.has (.volume pool volume) = true ↔ Held pool trail) :
    ∀ pool, ∀ volume ∈ volumesOf record.name,
      w'.host.has (.volume pool volume) = true ↔ Held pool (turns ++ trail) := by
  intro pool volume member
  have before := stored pool volume member
  cases turned with
  | left same => rwa [Host.has_of_objects same]
  | made _ _ volumes =>
    rw [volumes pool volume member]
    simp [Held, before]
  | cleared _ _ volumes =>
    rw [volumes pool volume member]
    simp [Held, before]

/-- The volumes that are left are those of a domain, in the pool that its record names. -/
theorem Turned.placed {turns : List Turn} {pool : String} (turned : Turned record w w' turns)
    (found : w.records[record.name]? = some record)
    (keeps : record.name ∈ w'.host.domains →
      ∃ record', w'.records[record.name]? = some record' ∧ record'.spec = record.spec)
    (placed : ∀ pool, Held pool trail → record.name ∈ w.host.domains ∧ w.poolOf record.name = some pool)
    (held : Held pool (turns ++ trail)) :
    record.name ∈ w'.host.domains ∧ w'.poolOf record.name = some pool := by
  have named (held : Held pool trail) : record.spec.storagePool = pool :=
    Option.some.inj ((poolOf_found found).symm.trans (placed pool held).2)
  have still (there : record.name ∈ w'.host.domains) (named : record.spec.storagePool = pool) :
      record.name ∈ w'.host.domains ∧ w'.poolOf record.name = some pool := by
    obtain ⟨record', found', same⟩ := keeps there
    exact ⟨there, by rw [poolOf_found found', same, named]⟩
  cases turned with
  | left same =>
    have there := (placed pool held).1
    rw [← Host.domains_of_objects same] at there
    exact still there (named held)
  | made missing there =>
    rcases held with here | earlier
    · exact still there here.symm
    · exact absurd (placed pool earlier).1 missing
  | cleared =>
    -- The record names the one pool with the volumes, and that was looked in.
    obtain ⟨elsewhere, earlier⟩ := held
    exact absurd (named earlier).symm elsewhere

theorem Handled.corruptsUploads (handled : Handled record h h') :
    h'.corruptsUploads = h.corruptsUploads := by
  cases handled with
  | left | cleared => rfl
  | made _ creation => cases creation <;> rfl

theorem Handled.pools (handled : Handled record h h') {pool : String} (there : pool ∈ h.pools) :
    pool ∈ h'.pools := by
  have set (volumes : Table Volume) (place : String) : pool ∈ (h.setPool place volumes).pools :=
    Std.ExtTreeMap.mem_insert.mpr (.inr there)
  cases handled with
  | left => exact there
  | cleared => exact Host.mem_pools_without.mpr there
  | made _ creation =>
    cases creation with
    | misnamed | unimaged | unplaced => exact there
    | garbled | started => exact set _ _

theorem Accounted.passed (accounted : Accounted name trail w) {o : Outcome ε Next}
    (run : runPass intervals name w = (o, w')) :
    Accounted name (Turn.ofPass name w w' ++ trail) w' := by
  have calm := accounted.calm
  cases found : w.records[name]? with
  | none =>
    have ran : reconcile intervals name w = (.done .done, w) := by
      rw [reconcile, bind_of_done (get_calm calm name), found]
      rfl
    obtain ⟨-, rfl⟩ := Prod.mk.inj ((runPass_of_done ran).symm.trans run)
    rw [Turn.ofPass_same rfl]
    exact accounted
  | some record =>
    obtain rfl := (accounted.manageable record found).named
    have manageable := accounted.manageable record found
    have handled := runPass_handled calm found manageable.memory run
    have turned := handled.turned found accounted.intact
    have way := (runPass_travels intervals record.name).of_run run
    exact {
      calm := way.calm calm
      intact := handled.corruptsUploads.trans accounted.intact
      manageable := by
        intro record' found'
        rcases way.carries.found found with ⟨_, kept, same⟩ | ⟨gone, _⟩
        · obtain rfl := Option.some.inj (found'.symm.trans kept)
          exact manageable.of_spec same
        · cases gone.symm.trans found'
      stored := turned.stored accounted.stored
      placed := by
        intro settled pool held
        have placed := accounted.placed fun member => settled (List.mem_append_right _ member)
        exact turned.placed found (runPass_keeps_record calm found run) placed held }

theorem Accounted.edited (accounted : Accounted name trail w) {edit : Record → Record}
    (manageable : ∀ record, w.records[name]? = some record → (edit record).Manageable name)
    (run : ((Store.update name edit : Action ε (Option Record)) w).2 = w') :
    Accounted name (Turn.ofEdit name w w' ++ trail) w' := by
  have calm := accounted.calm
  have placed (settled : .relocated ∉ Turn.ofEdit name w w' ++ trail) (pool : String)
      (held : Held pool (Turn.ofEdit name w w' ++ trail)) :
      name ∈ w.host.domains ∧ w'.poolOf name = some pool := by
    have earlier : .relocated ∉ trail := fun member => settled (List.mem_append_right _ member)
    obtain ⟨there, named⟩ := accounted.placed earlier pool ((held_ofEdit name pool w w' trail).mp held)
    refine ⟨there, ?_⟩
    by_cases same : w'.poolOf name = w.poolOf name
    · rw [same, named]
    · rw [Turn.ofEdit, if_pos ⟨there, same⟩] at settled
      exact absurd (.head _) settled
  rcases update_cases name w with same | ⟨record, version, found, wrote⟩
  · obtain rfl := same.symm.trans run
    exact { accounted with
      stored := fun pool volume member =>
        (accounted.stored pool volume member).trans (held_ofEdit name pool w w trail).symm
      placed := placed }
  · obtain rfl := wrote.symm.trans run
    exact {
      calm := ⟨calm.hostFaults, calm.storeFaults, calm.able, calm.accepts⟩
      intact := accounted.intact
      manageable := by
        intro record' found'
        obtain rfl := Option.some.inj (Std.ExtTreeMap.getElem?_insert_self.symm.trans found')
        exact (manageable record found).of_spec rfl
      stored := fun pool volume member =>
        (accounted.stored pool volume member).trans (held_ofEdit name pool _ _ trail).symm
      placed := placed }

theorem Accounted.elsewhere (accounted : Accounted name trail w)
    (record : w'.records[name]? = w.records[name]?) (host : w'.host = w.host)
    (hostFaults : w'.hostFaults = w.hostFaults) (storeFaults : w'.storeFaults = w.storeFaults) :
    Accounted name trail w' where
  calm := {
    hostFaults := hostFaults.trans accounted.calm.hostFaults
    storeFaults := storeFaults.trans accounted.calm.storeFaults
    able := by rw [host, accounted.calm.able]
    accepts := by rw [host, accounted.calm.accepts] }
  intact := by rw [host, accounted.intact]
  manageable := by
    rw [record]
    exact accounted.manageable
  stored := by
    rw [host]
    exact accounted.stored
  placed := by
    rw [host, World.poolOf, record]
    exact accounted.placed

theorem Tended.accounted {w₀ : World} (run : Tended intervals name w₀ trail w)
    (start : Accounted name [] w₀) : Accounted name trail w := by
  induction run with
  | start => exact start
  | @passed _ w _ before run ih =>
    have ran := run_halves (runPass intervals name : Action Empty Next) w
    rw [run] at ran
    exact ih.passed ran
  | edited before manageable _ run ih => exact ih.edited manageable run
  | elsewhere before record host hostFaults storeFaults ih =>
    exact ih.elsewhere record host hostFaults storeFaults

/-- Over any run of passes and edits in which all goes well, a pool is left with a machine's volumes
exactly if they were made there and never looked for there since. Where the record never came to name
another pool over a domain, none is left with them once the record is gone. -/
theorem stored_iff {w₀ : World} (run : Tended intervals name w₀ trail w) (calm : w₀.Calm)
    (intact : w₀.host.corruptsUploads = false)
    (manageable : ∀ record, w₀.records[name]? = some record → record.Manageable name)
    (empty : ∀ pool, ∀ volume ∈ volumesOf name, w₀.host.has (.volume pool volume) = false) :
    (∀ pool, ∀ volume ∈ volumesOf name,
      w.host.has (.volume pool volume) = true ↔ Held pool trail) ∧
    (.relocated ∉ trail → w.records[name]? = none →
      ∀ pool, ∀ volume ∈ volumesOf name, w.host.has (.volume pool volume) = false) := by
  have accounted := run.accounted (.start calm intact manageable empty)
  refine ⟨accounted.stored, fun settled gone pool volume member => Bool.eq_false_iff.mpr fun has => ?_⟩
  obtain ⟨_, named⟩ := accounted.placed settled pool ((accounted.stored pool volume member).mp has)
  rw [World.poolOf, gone] at named
  cases named

/-- A host with two pools, and on it nothing but what it takes to make the planned machine. -/
def spacious : World :=
  { roomy with
    host := { Host.initial.setPool "other" ∅ with
      bootLeases := [⟨"vnet0", none, ["192.168.122.10"]⟩] } }

/-- The machine was made, in the pool that is named at first. -/
def housed : World := ((runPass .standard "m" : Action Empty Next) spacious).2

/-- The record is to go, and names this pool. -/
def evict (pool : String) (record : Record) : Record :=
  { record with deletionRequested := true, spec := { record.spec with storagePool := pool } }

def evicted (pool : String) : World :=
  ((Store.update "m" (evict pool) : Action Empty (Option Record)) housed).2

def vacated (pool : String) : World := ((runPass .standard "m" : Action Empty Next) (evicted pool)).2

theorem spacious_unhindered : Unhindered planned spacious where
  found := by decide
  alive := by decide
  looked := rfl
  kept := rfl
  satisfied := rfl
  calm := ⟨rfl, rfl, rfl, rfl⟩
  intact := rfl
  boots := rfl
  leases := ⟨_, .head _, by decide, by decide⟩
  given := ⟨"#cloud-config\n", outgrown_given, by decide⟩
  short := by decide
  pool := by decide
  memory := by decide

theorem spacious_manageable (record : Record) (found : spacious.records["m"]? = some record) :
    record.Manageable "m" := by
  obtain rfl := Option.some.inj (spacious_unhindered.found.symm.trans found)
  exact ⟨rfl, by decide⟩

theorem spacious_empty (pool volume : String) : spacious.host.has (.volume pool volume) = false := by
  have bare : ∀ volumes, spacious.host.pools[pool]? = some volumes → volumes = ∅ := by
    simp only [spacious, Host.setPool, Host.initial, Std.ExtTreeMap.getElem?_insert]
    grind
  cases there : spacious.host.pools[pool]? with
  | none => simp [Host.has, Host.volume?, there]
  | some volumes => simp [Host.has, Host.volume?_of_pool there, bare volumes there]

/-- The record once the machine was made. -/
def housedRecord : Record := planned.published ({ · with phase := .creating })

/-- The record by which it is to go. -/
def evictedRecord (pool : String) : Record := { evict pool housedRecord with version := 2 }

theorem housed_served : ∃ domain, Served housedRecord domain housed := by
  obtain ⟨w', ran, served⟩ :=
    runPass_creates (ε := Empty) .standard spacious_unhindered (by decide) (by decide)
  have same : housed = w' := congrArg Prod.snd ran
  exact ⟨_, same ▸ served⟩

theorem housed_found : housed.records["m"]? = some housedRecord := by
  obtain ⟨_, served⟩ := housed_served
  exact served.found

theorem housed_there : "m" ∈ housed.host.domains := by
  obtain ⟨domain, served⟩ := housed_served
  exact Table.mem_of_found served.there

theorem housed_tended : Tended .standard "m" spacious [.made "default"] housed := by
  have tended : Tended .standard "m" spacious _ housed := .passed .start rfl
  rwa [Turn.ofPass_made (by decide) housed_there (poolOf_found spacious_unhindered.found)] at tended

theorem housed_pools {pool : String} (there : pool ∈ spacious.host.pools) : pool ∈ housed.host.pools := by
  have handled : Handled planned spacious.host.objects housed.host.objects :=
    runPass_handled spacious_unhindered.calm spacious_unhindered.found (by decide)
      (run_halves (runPass .standard "m" : Action Empty Next) spacious)
  exact handled.pools there

section
variable (pool : String)

theorem evicted_eq :
    evicted pool = { housed with records := housed.records.insert "m" (evictedRecord pool) } := by
  rw [evicted, Store.update, housed_found]
  rfl

theorem evicted_found : (evicted pool).records["m"]? = some (evictedRecord pool) := by
  rw [evicted_eq]
  exact Std.ExtTreeMap.getElem?_insert_self

theorem evicted_tended (there : pool ∈ spacious.host.pools) : Tended .standard "m" spacious
    (Turn.ofEdit "m" housed (evicted pool) ++ [.made "default"]) (evicted pool) := by
  have placed (record : Record) (_ : housed.records["m"]? = some record) :
      (evict pool record).spec.storagePool ∈ housed.host.pools := housed_pools there
  have run : ((Store.update "m" (evict pool) : Action Empty (Option Record)) housed).2 = evicted pool := rfl
  refine .edited housed_tended (fun record found => ?_) placed run
  obtain rfl := Option.some.inj (housed_found.symm.trans found)
  exact ⟨rfl, spacious_unhindered.memory⟩

theorem evicted_calm : (evicted pool).Calm := by
  obtain ⟨_, served⟩ := housed_served
  rw [evicted_eq]
  exact ⟨served.calm.hostFaults, served.calm.storeFaults, served.calm.able, served.calm.accepts⟩

theorem evicted_releasable : Releasable (evictedRecord pool) where
  alive := nofun
  looked := rfl
  room := show (2 : UInt64).toNat + 2 < UInt64.size by decide

theorem vacated_eq : vacated pool =
    ((runPass .standard (evictedRecord pool).name : Action Empty Next) (evicted pool)).2 := rfl

theorem vacated_gone : (vacated pool).records[(evictedRecord pool).name]? = none := by
  rw [vacated_eq]
  exact (runPass_releases_iff (evicted_calm pool) (evicted_found pool) rfl).mpr (evicted_releasable pool)

theorem vacated_objects : (vacated pool).host.objects =
    (evicted pool).host.objects.ejected (evictedRecord pool).name pool := by
  rw [vacated_eq]
  exact runPass_ejects (evicted_calm pool) (evicted_found pool) rfl (evicted_releasable pool)

/-- The last pass lets go of the record and looks for the volumes where that says. -/
theorem vacated_tended (there : pool ∈ spacious.host.pools) : Tended .standard "m" spacious
    (.cleared pool :: Turn.ofEdit "m" housed (evicted pool) ++ [.made "default"]) (vacated pool) := by
  have tended : Tended .standard "m" spacious _ (vacated pool) := .passed (evicted_tended pool there) rfl
  have defined : "m" ∈ (evicted pool).host.domains := by
    rw [evicted_eq]
    exact housed_there
  have gone : "m" ∉ (vacated pool).host.domains := by
    rw [← Host.objects_domains, vacated_objects]
    exact Host.ejected_bare _ _ _
  rwa [Turn.ofPass_cleared defined gone (poolOf_found (evicted_found pool))] at tended

end

/-- A record that names the same pool all along takes the volumes with it. -/
theorem stored_iff_evicted :
    Tended .standard "m" spacious [.cleared "default", .made "default"] (vacated "default") ∧
    (vacated "default").records["m"]? = none ∧
    ∀ pool, ∀ volume ∈ volumesOf "m", (vacated "default").host.has (.volume pool volume) = false := by
  have edit : Turn.ofEdit "m" housed (evicted "default") = [] := by
    rw [Turn.ofEdit, poolOf_found (evicted_found "default"), poolOf_found housed_found]
    exact if_neg fun relocated => relocated.2 rfl
  have tended := vacated_tended "default" (by decide)
  rw [edit] at tended
  have gone := vacated_gone "default"
  exact ⟨tended, gone, (stored_iff tended spacious_unhindered.calm rfl spacious_manageable
    fun pool volume _ => spacious_empty pool volume).2 (by decide) gone⟩

/-- It is not so that edits of a record leave no volumes behind. -/
theorem stored_orphaned : ¬ ∀ (intervals : Intervals) (name : String) (trail : List Turn)
    (w₀ w : World) (record : Record), Tended intervals name w₀ trail w → w₀.Calm →
    w₀.host.corruptsUploads = false →
    (∀ first, w₀.records[name]? = some first →
      first.Manageable name ∧ first.spec.storagePool ∈ w₀.host.pools) →
    (∀ pool, ∀ volume ∈ volumesOf name, w₀.host.has (.volume pool volume) = false) →
    w.records[name]? = some record → record.deletionRequested = true →
    let w' := ((runPass intervals name : Action Empty Next) w).2
    w'.records[name]? = none →
      ∀ pool, ∀ volume ∈ volumesOf name, w'.host.has (.volume pool volume) = false := by
  intro claimed
  have gone := claimed .standard "m" _ spacious (evicted "other") (evictedRecord "other")
    (evicted_tended "other" (by decide)) spacious_unhindered.calm rfl
    (fun record found => ⟨spacious_manageable record found, by
      obtain rfl := Option.some.inj (spacious_unhindered.found.symm.trans found)
      decide⟩)
    (fun pool volume _ => spacious_empty pool volume) (evicted_found "other") rfl
    (vacated_gone "other") "default" "m.qcow2" (by decide)
  have accounted := (vacated_tended "other" (by decide)).accounted
    (.start spacious_unhindered.calm rfl spacious_manageable fun pool volume _ => spacious_empty pool volume)
  have edit : Turn.ofEdit "m" housed (evicted "other") = [.relocated] := by
    rw [Turn.ofEdit, poolOf_found (evicted_found "other"), poolOf_found housed_found]
    exact if_pos ⟨housed_there, by decide⟩
  have held := accounted.stored "default" "m.qcow2" (by decide)
  rw [edit] at held
  cases gone.symm.trans (held.mpr ⟨by decide, .inl rfl⟩)

end Reconcile

end MachineKeeper
