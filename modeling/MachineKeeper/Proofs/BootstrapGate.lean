import MachineKeeper.Proofs.IsoReader
import MachineKeeper.Proofs.Restraint
import MachineKeeper.Proofs.Standing

/-! What stands between a pass and the making of a machine. Nothing is made before the machine's
cloud-config was read, and what is uploaded then carries just that. -/
namespace MachineKeeper

namespace Lifecycle

open Session MachineKeeper.Action

variable {spec : Spec}

/-- What is asked to make a machine, with nothing uploaded but its image. -/
def Equips (spec : Spec) (r : Request) : Prop :=
  Provisions spec r ∧ ∀ pool volume data, r = .uploadVolume pool volume data →
    CloudInit.image spec.name spec.userData = .ok data

theorem equips_of_provisions {r : Request} (provisions : Provisions spec r)
    (other : r.call ≠ .uploadVolume) : Equips spec r := by
  refine ⟨provisions, ?_⟩
  rintro _ _ _ rfl
  exact absurd rfl other

theorem deleteIfThere_equips {volume : String}
    (member : volume ∈ [spec.names.diskVolume, spec.names.seedVolume]) :
    (deleteIfThere spec.storagePool volume).Keeps (Reaches (Equips spec)) := by
  refine (deleteIfThere_reaches member).mono fun path => path.mono fun r removes => ?_
  cases r <;> first | exact equips_of_provisions removes (by nofun) | exact removes.elim

theorem createSeedVolume_equips {image : Bytes}
    (built : CloudInit.image spec.name spec.userData = .ok image) :
    (createSeedVolume spec.storagePool spec.names.seedVolume image).Keeps (Reaches (Equips spec)) := by
  apply reaches_frame.bind (deleteIfThere_equips (by simp))
  intro _
  apply reaches_frame.bind (reaches_ask _ (equips_of_provisions (by simp [Provisions]) (by simp [Request.call])))
  intro path
  apply reaches_frame.bind (reaches_ask _ ⟨by simp [Provisions], by rintro _ _ _ ⟨⟩; exact built⟩)
  intro _
  apply reaches_frame.bind (reaches_ask _ (equips_of_provisions (by simp [Provisions]) (by simp [Request.call])))
  intro content
  split
  · exact reaches_frame.fail _
  · exact reaches_frame.pure path

theorem provision_equips {image : Bytes}
    (built : CloudInit.image spec.name spec.userData = .ok image) :
    (provision spec image).Keeps (Reaches (Equips spec)) := by
  apply reaches_frame.bind (reaches_ask _ (equips_of_provisions (by rfl) (by simp [Request.call])))
  intro _
  apply reaches_frame.bind (createSeedVolume_equips built)
  intro seedPath
  apply reaches_frame.bind (reaches_frame.bind (deleteIfThere_equips (by simp)) fun _ =>
    reaches_ask _ (equips_of_provisions (by simp [Provisions]) (by simp [Request.call])))
  intro diskPath
  apply reaches_frame.bind (reaches_ask _ (equips_of_provisions (by rfl) (by simp [Request.call])))
  intro _
  exact reaches_ask _ (equips_of_provisions (by rfl) (by simp [Request.call]))

theorem create_equips (spec : Spec) : (create spec).Keeps (Reaches (Equips spec)) := by
  unfold create
  dsimp only
  split
  · exact reaches_frame.fail _
  cases built : CloudInit.image spec.name spec.userData with
  | error e => exact reaches_frame.fail (Error.seedImage e)
  | ok image =>
    exact reaches_connected ((provision_equips built).mapError _)

end Lifecycle

def Event.uploads? : Event → Option Bytes
  | .request (.uploadVolume _ _ data) _ _ => some data
  | _ => none

namespace Reconcile

open Session Lifecycle Store MachineKeeper.Action

variable {w w' : World} {record : Record} {intervals : Intervals} {name text : String}

/-- A pass comes to the secret of its record, in the second world. It read the record, whose machine is to be
there, and the probe for the domain found none. -/
structure Seeks (name : String) (record : Record) (w w₁ : World) : Prop extends Linked name w record where
  probed : ∃ w₀ sync, Store.get name w = (.done (some record), w₀) ∧
    apart Failure.error (probe record.spec) w₀ = (.done (false, sync), w₁)

/-- A pass from the first world to the last came to its record's secret and read it there. The secret has a
cloud-config, and the pass went on from what the read left. -/
structure Equipped (name : String) (record : Record) (text : String) (w w' : World) : Prop where
  read : ∃ w₁ secret data w₂, Seeks name record w w₁ ∧ record.bootstrapSecret = some secret ∧
    w.secrets[secret]? = some data ∧ Store.secret secret w₁ = (.done (some data), w₂) ∧
    (data["format"]? = none ∨ data["format"]? = some "cloud-config") ∧ data["value"]? = some text ∧
    Travels (Equips { record.spec with userData := text }) w₂ w'
  nonempty : text ≠ ""

theorem Seeks.way {w₁ : World} (seeks : Seeks name record w w₁) : Travels (Observes record.name) w w₁ := by
  obtain ⟨w₀, sync, got, probed⟩ := seeks.probed
  exact travels_frame.trans ((travels_store.get name).of_run got)
    ((apart_travels (probe_reaches record.spec)).of_run probed)

theorem accepted_format {data : Table String} (accepted : Accepted data) :
    data["format"]? = none ∨ data["format"]? = some "cloud-config" := by
  cases stated : data["format"]? with
  | none => exact .inl rfl
  | some format => exact .inr (congrArg some (accepted format stated))

theorem build_equipped {w₁ : World} {o : Outcome Failure Next} (seeks : Seeks name record w w₁)
    (run : build intervals record w₁ = (o, w')) :
    Travels (Observes record.name) w w' ∨ ∃ text, Equipped name record text w w' := by
  rcases build_ways run with idle | ⟨text, w₂, o₁, w₃, read, _, made, told⟩
  · exact .inl (travels_frame.trans seeks.way (idle.mono fun _ => False.elim))
  · obtain ⟨secret, data, named, there, accepted, given, nonempty, met⟩ := cloudConfig_read read
    have makes : Travels (Equips { record.spec with userData := text }) w₂ w' :=
      travels_frame.trans (reaches_travels ((create_equips _).of_run made)) (told.mono fun _ => False.elim)
    have there₀ : w.secrets[secret]? = some data := seeks.way.secrets ▸ there
    have format := accepted_format accepted
    exact .inr ⟨text, ⟨w₁, secret, data, w₂, seeks, named, there₀, met, format, given, makes⟩, nonempty⟩

/-- Whatever is uploaded is an image with the machine's cloud-config and its meta-data. -/
theorem Equipped.uploads {events : List Event} (equipped : Equipped name record text w w')
    (log : w'.log = events ++ w.log) {e : Event} (member : e ∈ events) {image : Bytes}
    (uploads : e.uploads? = some image) : Iso.files? image =
      some [⟨"meta-data", utf8 (CloudInit.metaData record.name)⟩, ⟨"user-data", utf8 text⟩] := by
  obtain ⟨⟨w₁, secret, data, w₂, seeks, -, -, read, -, -, made⟩, -⟩ := equipped
  obtain ⟨earlier, log₁, within₁⟩ := seeks.way.logs
  obtain ⟨later, log₂, within₂⟩ := made.logs
  have unlogged : w₂.log = w₁.log := (unlogged_store.secret secret).of_run read
  rw [log, unlogged, log₁, ← List.append_assoc] at log₂
  obtain rfl := List.append_cancel_right log₂
  rcases List.mem_append.mp member with made | looked
  · have within := within₂ e made
    cases e with
    | connect | disconnect => cases uploads
    | request r reached outcome =>
      cases r <;> cases uploads
      exact CloudInit.image_files (within.2 _ _ _ rfl)
  · have within := within₁ e looked
    cases e with
    | connect | disconnect => cases uploads
    | request r reached outcome => cases r <;> first | exact within.elim | cases uploads

theorem discards_builds {machine pool : String} {events : List Event}
    (way : Travels (Discards machine pool) w w') (log : w'.log = events ++ w.log) {e : Event}
    (member : e ∈ events) : e.builds = false := by
  obtain ⟨events', log', gentle⟩ := discards_unbuilt way
  obtain rfl := events_unique (log'.symm.trans log)
  exact gentle e member

/-- A step of a pass only looks at the machine or is about to take it away, or the pass read a cloud-config. -/
theorem step_equips {w₀ : World} {o : Outcome Failure Next} (found : w.records[name]? = some record)
    (got : Store.get name w = (.done (some record), w₀)) (run : step intervals record w₀ = (o, w')) :
    Travels (Observes record.name) w w' ∨ remove record w₀ = (o, w') ∨
    (∃ w₁, apart .error (probe record.spec) w₀ = (.done (true, false), w₁) ∧
      discard intervals record w₁ = (o, w')) ∨
    ∃ text, Equipped name record text w w' := by
  have way : Travels (Observes record.name) w w₀ := (travels_store.get name).of_run got
  have looks : (apart .error (probe record.spec)).Keeps (Travels (Observes record.name)) :=
    apart_travels (probe_reaches record.spec)
  cases step_stepped run with
  | gone => exact .inl way
  | paused _ ran | unlinked _ ran =>
    exact .inl (travels_frame.trans way ((report_keeps travels_store (.moved (by decide)) _).of_run ran))
  | removed _ ran => exact .inr (.inl ran)
  | unprobed _ probed => exact .inl (travels_frame.trans way (looks.of_run probed))
  | discarded probed ran => exact .inr (.inr (.inl ⟨_, probed, ran⟩))
  | observed probed ran =>
    exact .inl (travels_frame.trans way (travels_frame.trans (looks.of_run probed)
      ((observe_travels intervals record).of_run ran)))
  | built probed ran alive looked kept satisfied =>
    have seeks : Seeks name record w _ := ⟨⟨⟨⟨found, alive⟩, looked, kept⟩, satisfied⟩, _, _, got, probed⟩
    exact (build_equipped seeks ran).imp_right fun equipped => .inr (.inr equipped)

theorem isDefined_true {ε : Type} (quiet : w.Undisturbed)
    (run : (Lifecycle.isDefined name : Action ε Bool) w = (.done true, w')) :
    name ∈ w.host.domains := by
  rcases holds_cases run with ⟨state, asked, -⟩ | ⟨_, _, same⟩ | ⟨_, same⟩
  · rcases connected_ask_ways ⟨rfl, rfl⟩ quiet asked with ⟨_, same⟩ | ⟨_, _, answer⟩
    · cases same
    cases there : w.host.domains[name]? with
    | none =>
      rw [Host.answer_domainState_missing there] at answer
      cases answer
    | some domain => exact Table.mem_of_found there
  · cases same
  · cases same

theorem probe_true {ε : Type} {spec : Spec} {sync : Bool} (quiet : w.Undisturbed)
    (run : (probe spec : Action ε (Bool × Bool)) w = (.done (true, sync), w')) :
    spec.name ∈ w.host.domains := by
  obtain ⟨found, w₁, asked, rest⟩ := bind_done run
  cases found with
  | true => exact isDefined_true quiet asked
  | false => cases (Prod.mk.inj rest).1

theorem travels_looked (looked : Travels (Observes name) w w') (quiet : w.Undisturbed) :
    w'.Undisturbed ∧ w'.host.objects = w.host.objects := by
  induction looked with
  | refl => exact ⟨quiet, rfl⟩
  | faults site _ ih =>
    have same := stays_store.faults site _ ih.1
    exact ⟨same.undisturbed ih.1, by rw [same.host, ih.2]⟩
  | write _ _ ih => exact ⟨⟨ih.1.host, ih.1.store⟩, ih.2⟩
  | reach _ path ih =>
    refine ⟨path.store.undisturbed ih.1, ?_⟩
    rw [(path.mono fun _ => observes_query).objects ih.1, ih.2]

/-- A machine without a domain is removed without a request that changes the host. -/
theorem remove_bare {o : Outcome Failure Next} (quiet : w.Undisturbed)
    (bare : record.name ∉ w.host.domains) (run : remove record w = (o, w')) :
    Travels (Observes record.name) w w' := by
  have moves : (publish record.name ({ · with phase := .deleting })).Keeps
      (Travels (Observes record.name)) := publish_keeps travels_store (.moved (by decide))
  have asks : (apart Failure.error (Lifecycle.isDefined record.name)).Keeps
      (Travels (Observes record.name)) := apart_travels (isDefined_reaches record.name)
  have ejects {o : Outcome Failure Unit} {w w' : World} (quiet : w.Undisturbed)
      (bare : record.name ∉ w.host.domains) (run : eject record w = (o, w')) :
      Travels (Observes record.name) w w' := by
    rcases bind_cases run with ⟨found, w₁, asked, rest⟩ | ⟨e, asked, _⟩ | ⟨asked, _⟩
    · cases found with
      | true => exact absurd (isDefined_true quiet (apart_done asked)) bare
      | false =>
        obtain ⟨-, rfl⟩ := Prod.mk.inj rest
        exact asks.of_run asked
    · exact asks.of_run asked
    · exact asks.of_run asked
  rw [remove_eq] at run
  rcases bind_cases run with ⟨_, w₁, moved, rest⟩ | ⟨e, moved, _⟩ | ⟨moved, _⟩
  · have way := moves.of_run moved
    obtain ⟨quiet₁, same⟩ := travels_looked way quiet
    have bare₁ : record.name ∉ w₁.host.domains := by rwa [Host.domains_of_objects same]
    rcases bind_cases rest with ⟨_, w₂, ejected, rest⟩ | ⟨e, ejected, _⟩ | ⟨ejected, _⟩
    · exact travels_frame.trans (travels_frame.trans way (ejects quiet₁ bare₁ ejected))
        ((letGo_keeps travels_store record).of_run rest)
    · exact travels_frame.trans way (ejects quiet₁ bare₁ ejected)
    · exact travels_frame.trans way (ejects quiet₁ bare₁ ejected)
  · exact moves.of_run moved
  · exact moves.of_run moved

theorem reconcile_equipped {o : Outcome Failure Next} (run : reconcile intervals name w = (o, w')) :
    (∃ machine pool, Travels (Discards machine pool) w w') ∨
    ∃ record text, w.records[name]? = some record ∧ Equipped name record text w w' := by
  rcases reconcile_ways run with ⟨_, got, _⟩ | ⟨record, w₀, got, stepped⟩
  · exact .inl ⟨name, name, (travels_store.get name).of_run got⟩
  have found := (get_done got).1.symm
  have way : Travels (Discards record.name record.spec.storagePool) w w₀ := (travels_store.get name).of_run got
  rcases step_equips found got stepped with looked | removed | ⟨w₁, probed, discarded⟩ | ⟨text, equipped⟩
  · exact .inl ⟨_, record.spec.storagePool, looked.mono fun _ => .inl⟩
  · exact .inl ⟨_, _, travels_frame.trans way ((remove_travels record).of_run removed)⟩
  · have looked : Travels (Observes record.name) w₀ w₁ :=
      (apart_travels (probe_reaches record.spec)).of_run probed
    have torn := (discard_travels intervals record).of_run discarded
    exact .inl ⟨_, _, travels_frame.trans way
      (travels_frame.trans (looked.mono fun _ => .inl) (torn.mono fun _ => .inr))⟩
  · exact .inr ⟨record, text, found, equipped⟩

/-- Where there is no domain, there is nothing to take away. -/
theorem reconcile_bare {o : Outcome Failure Next} (quiet : w.Undisturbed)
    (bare : ∀ record, w.records[name]? = some record → record.name ∉ w.host.domains)
    (run : reconcile intervals name w = (o, w')) :
    (∃ machine, Travels (Observes machine) w w') ∨
    ∃ record text, w.records[name]? = some record ∧ Equipped name record text w w' := by
  rcases reconcile_ways run with ⟨_, got, _⟩ | ⟨record, w₀, got, stepped⟩
  · exact .inl ⟨name, (travels_store.get name).of_run got⟩
  have found := (get_done got).1.symm
  have way : Travels (Observes record.name) w w₀ := (travels_store.get name).of_run got
  obtain ⟨quiet₀, same⟩ := travels_looked way quiet
  have bare₀ : record.name ∉ w₀.host.domains := by
    rw [Host.domains_of_objects same]
    exact bare record found
  rcases step_equips found got stepped with looked | removed | ⟨w₁, probed, _⟩ | ⟨text, equipped⟩
  · exact .inl ⟨_, looked⟩
  · exact .inl ⟨_, travels_frame.trans way (remove_bare quiet₀ bare₀ removed)⟩
  · exact absurd (probe_true quiet₀ (apart_done probed)) bare₀
  · exact .inr ⟨record, text, found, equipped⟩

/-- Whatever fails in a pass and whatever is done to the host in between: where the pass asks for a volume, an
upload, a definition or a start at all, its machine is to be there, and once the probe had found no domain the
pass read the machine's secret. The secret has a cloud-config that is accepted and not empty, and every image
that is uploaded carries just that and the machine's meta-data. A pass that read no such cloud-config then, be it
that it did not come to the secret or could not read it, leaves domains and volumes as they were where the
machine has no domain. -/
theorem bootstrap_gated (intervals : Intervals) (name : String) (w : World) :
    let w' := (reconcile intervals name w).2
    ∃ events, w'.log = events ++ w.log ∧
      ((∃ e ∈ events, e.builds = true) → ∃ record text,
        w.records[name]? = some record ∧ Equipped name record text w w' ∧
        ∀ e ∈ events, ∀ image, e.uploads? = some image → Iso.files? image =
          some [⟨"meta-data", utf8 (CloudInit.metaData record.name)⟩, ⟨"user-data", utf8 text⟩]) ∧
      (w.Undisturbed → (∀ record, w.records[name]? = some record →
          record.name ∉ w.host.domains ∧ ∀ text, ¬ Equipped name record text w w') →
        w'.host.domains = w.host.domains ∧ w'.host.pools = w.host.pools) := by
  intro w'
  have run : reconcile intervals name w = ((reconcile intervals name w).1, w') := rfl
  obtain ⟨events, log, _⟩ := (reconcile_travels intervals name w).logs
  refine ⟨events, log, ?_, ?_⟩
  · rintro ⟨e, member, builds⟩
    rcases reconcile_equipped run with ⟨_, _, torn⟩ | ⟨record, text, found, equipped⟩
    · rw [discards_builds torn log member] at builds
      cases builds
    · exact ⟨record, text, found, equipped, fun e member image => equipped.uploads log member⟩
  · intro quiet unequipped
    rcases reconcile_bare quiet (fun record found => (unequipped record found).1) run with
      ⟨_, looked⟩ | ⟨record, text, found, equipped⟩
    · have same := (travels_looked looked quiet).2
      exact ⟨Host.domains_of_objects same, Host.pools_of_objects same⟩
    · exact absurd equipped ((unequipped record found).2 text)

end Reconcile

end MachineKeeper
