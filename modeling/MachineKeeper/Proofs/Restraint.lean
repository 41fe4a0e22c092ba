import MachineKeeper.Proofs.Drift
import MachineKeeper.Proofs.Ways

/-! How much a pass does to the host. Whatever fails in it and whatever happens behind its back, it does
not tear down and build up, it defines and undefines at most once, and for a record that holds it off it
does not even connect. -/
namespace MachineKeeper

/-- A request to make a volume, to fill one, or to define a domain or start it. -/
def Request.builds : Request → Bool
  | createVolume _ _ | uploadVolume _ _ _ | defineDomain _ | startDomain _ => true
  | _ => false

def Event.builds : Event → Bool
  | .request r _ _ => r.builds
  | _ => false

def Event.asks (call : Call) : Event → Bool
  | .request r _ _ => r.call = call
  | _ => false

/-- There is no record, or what it says keeps passes off the host. -/
def Gated (name : String) (w : World) : Prop :=
  ∀ record, w.records[name]? = some record → record.status.phase = .deleted ∨ record.paused = true ∨
    (record.deletionRequested = false ∧ record.prerequisites.satisfied = false)

namespace Session

open MachineKeeper.Action

variable {ε α β : Type} {w w' : World} {call : Call} {n : Nat} {ok : Request → Prop}

/-- Between two logs there are at most `n` requests of a kind. -/
def AtMost (call : Call) (n : Nat) (w w' : World) : Prop :=
  w'.log.countP (Event.asks call) ≤ w.log.countP (Event.asks call) + n

theorem AtMost.of_events {events : List Event} (atMost : AtMost call n w w')
    (log : w'.log = events ++ w.log) : events.countP (Event.asks call) ≤ n := by
  rw [AtMost, log, List.countP_append] at atMost
  omega

theorem AtMost.none_before {w₁ : World} (first : AtMost call 0 w w₁) (rest : AtMost call n w₁ w') :
    AtMost call n w w' := by
  unfold AtMost at *
  omega

theorem AtMost.none_after {w₁ : World} (first : AtMost call n w w₁) (rest : AtMost call 0 w₁ w') :
    AtMost call n w w' := by
  unfold AtMost at *
  omega

theorem atMost_refl : AtMost call n w w := Nat.le_add_right _ _

theorem never_frame : Frame (AtMost call 0) where
  refl _ := atMost_refl
  trans := AtMost.none_before

theorem atMost_bind {m : Action ε α} {f : α → Action ε β} (first : m.Keeps (AtMost call 0))
    (rest : ∀ a, (f a).Keeps (AtMost call n)) : (m >>= f).Keeps (AtMost call n) := by
  intro w
  have before := first w
  rw [bind_run]
  split
  next a w₁ run =>
    rw [run] at before
    exact before.none_before (rest a w₁)
  next e w₁ run =>
    rw [run] at before
    exact before.none_before atMost_refl
  next w₁ run =>
    rw [run] at before
    exact before.none_before atMost_refl

theorem atMost_bind_none {m : Action ε α} {f : α → Action ε β} (first : m.Keeps (AtMost call n))
    (rest : ∀ a, (f a).Keeps (AtMost call 0)) : (m >>= f).Keeps (AtMost call n) := by
  intro w
  have before := first w
  rw [bind_run]
  split
  next a w₁ run =>
    rw [run] at before
    exact before.none_after (rest a w₁)
  next e w₁ run => rwa [run] at before
  next w₁ run => rwa [run] at before

theorem never_of_logs (logs : Logs (Event.Within ok) w w') (others : ∀ r, ok r → r.call ≠ call) :
    AtMost call 0 w w' := by
  obtain ⟨events, log, within⟩ := logs
  have none : events.countP (Event.asks call) = 0 := by
    refine List.countP_eq_zero.mpr fun e member asks => ?_
    cases e with
    | request r _ _ => exact others r (within _ member) (of_decide_eq_true asks)
    | connect _ => cases asks
    | disconnect => cases asks
  rw [AtMost, log, List.countP_append, none]
  omega

theorem never_of_reaches {m : Action ε α} (within : m.Keeps (Reaches ok))
    (others : ∀ r, ok r → r.call ≠ call) : m.Keeps (AtMost call 0) :=
  within.mono fun path => never_of_logs path.logs others

theorem never_send {r : Request} (other : r.call ≠ call) : (send r).Keeps (AtMost call 0) :=
  never_of_reaches (reaches_send (rfl : r = r)) (by rintro _ rfl; exact other)

theorem never_ask {r : Request} (context : String) (other : r.call ≠ call) :
    (ask context r).Keeps (AtMost call 0) :=
  (never_send other).mapError _

theorem once_send (r : Request) : (send r).Keeps (AtMost call 1) := by
  intro w
  obtain ⟨_, noted⟩ := send_noted r w
  rw [AtMost, noted.log, List.countP_cons]
  split <;> omega

theorem once_ask (context : String) (r : Request) : (ask context r).Keeps (AtMost call 1) :=
  (once_send r).mapError _

theorem atMost_connected {body : Action Error α} (within : body.Keeps (AtMost call n)) :
    (connected body).Keeps (AtMost call n) := by
  have opens : connect.Keeps (AtMost call 0) := by
    intro w
    obtain ⟨_, noted⟩ := connect_noted w
    rw [AtMost, noted.log]
    exact Nat.le_refl _
  have closes : disconnect.Keeps (AtMost call 0) := by
    intro w
    rw [AtMost, (disconnect_noted w).log]
    exact Nat.le_refl _
  apply atMost_bind opens
  intro _
  apply atMost_bind_none within.attempt
  intro result
  exact never_frame.bind closes.attempt fun _ => never_frame.ofExcept result

end Session

namespace Lifecycle

open Session MachineKeeper.Action

variable {ε : Type}

theorem undefine_once (name pool : String) : (undefine name pool).Keeps (AtMost .undefineDomain 1) := by
  apply atMost_bind_none (once_ask _ _)
  intro _
  refine never_of_reaches (deleteVolumes_reaches pool (.of name)) fun r clears => ?_
  cases r <;> first | exact clears.elim | nofun

theorem teardown_once (name pool : String) : (teardown name pool).Keeps (AtMost .undefineDomain 1) := by
  apply atMost_bind (never_send (by nofun)).attempt
  rintro (e | state)
  · dsimp only
    split
    · exact fun _ => atMost_refl
    · exact fun _ => atMost_refl
  · dsimp only
    split
    · exact atMost_bind (never_ask _ (by nofun)) fun _ => undefine_once name pool
    · exact undefine_once name pool

theorem destroy_once (name pool : String) : (destroy name pool).Keeps (AtMost .undefineDomain 1) := by
  rw [destroy_eq]
  exact atMost_connected (teardown_once name pool)

theorem makes_never {α : Type} {pool volume : String} {m : Action ε α}
    (within : m.Keeps (Reaches (Makes pool volume))) : m.Keeps (AtMost .defineDomain 0) := by
  refine never_of_reaches within fun r makes => ?_
  cases r <;> first | exact (makes.elim id id).elim | nofun

theorem install_once (spec : Spec) (seedPath : String) :
    (install spec seedPath).Keeps (AtMost .defineDomain 1) := by
  apply atMost_bind (makes_never (createDiskVolume_makes spec))
  intro diskPath
  exact atMost_bind_none (once_ask _ _) fun _ => never_ask _ (by nofun)

theorem provision_once (spec : Spec) (image : Bytes) :
    (provision spec image).Keeps (AtMost .defineDomain 1) := by
  rw [provision_eq]
  apply atMost_bind (never_ask _ (by nofun))
  intro _
  exact atMost_bind (makes_never (createSeedVolume_makes _ _ image)) fun _ => install_once spec _

theorem create_once (spec : Spec) : (create spec).Keeps (AtMost .defineDomain 1) := by
  unfold create
  dsimp only
  split
  · exact fun _ => atMost_refl
  · apply atMost_bind (never_frame.ofExcept _)
    intro image
    exact atMost_connected ((provision_once spec image).mapError _)

end Lifecycle

namespace Reconcile

open Session Lifecycle Store MachineKeeper.Action

variable {ε : Type} {w w' : World} {record : Record} {intervals : Intervals} {name : String} {n : Nat}

theorem never_store {call : Call} : StoreFrame (AtMost call 0) where
  toFrame := never_frame
  faults _ _ := atMost_refl
  write _ := atMost_refl

theorem unlogged_store : StoreFrame fun w w' => w'.log = w.log where
  refl _ := rfl
  trans first second := second.trans first
  faults _ _ := rfl
  write _ := rfl

theorem remove_once (record : Record) : (remove record).Keeps (AtMost .undefineDomain 1) := by
  rw [remove_eq]
  apply atMost_bind (publish_keeps never_store (.moved (by decide)))
  intro _
  refine atMost_bind_none ?_ fun _ => letGo_keeps never_store record
  have asks : (Lifecycle.isDefined record.name : Action Error Bool).Keeps (AtMost .undefineDomain 0) :=
    never_of_reaches (isDefined_reaches record.name) fun r observes => by
      cases r <;> first | exact observes.elim | nofun
  apply atMost_bind (apart_keeps asks _)
  intro found
  cases found with
  | false => exact fun _ => atMost_refl
  | true => exact apart_keeps (destroy_once _ _) _

theorem discard_once (intervals : Intervals) (record : Record) :
    (discard intervals record).Keeps (AtMost .undefineDomain 1) :=
  atMost_bind_none (apart_keeps (destroy_once _ _) _) fun _ =>
    report_keeps never_store (.cleared (by decide)) _

theorem build_once (intervals : Intervals) (record : Record) :
    (build intervals record).Keeps (AtMost .defineDomain 1) := by
  apply atMost_bind (cloudConfig_keeps never_frame never_store.secret record)
  intro text
  cases text with
  | none => exact fun w => atMost_refl.none_after (report_keeps never_store (.moved (by decide)) _ w)
  | some userData =>
    exact atMost_bind_none (apart_keeps (create_once { record.spec with userData }) _) fun _ =>
      report_keeps never_store (.moved (by decide)) _

theorem never_of_travels {α : Type} {ok : Request → Prop} {call : Call} {m : Action ε α}
    (within : m.Keeps (Travels ok)) (others : ∀ r, ok r → r.call ≠ call) : m.Keeps (AtMost call n) :=
  within.mono fun way => atMost_refl.none_after (never_of_logs way.logs others)

/-- A request that is not made to look at a machine is made in one part of a step only. -/
theorem step_atMost {call : Call} (others : ∀ r, Observes record.name r → r.call ≠ call)
    (removes : (remove record).Keeps (AtMost call n))
    (discards : (discard intervals record).Keeps (AtMost call n))
    (builds : (build intervals record).Keeps (AtMost call n)) :
    (step intervals record).Keeps (AtMost call n) := by
  intro w
  rcases step_ways (run_halves (step intervals record) w) with looked | removed | ⟨w₁, looked, rest⟩
  · exact atMost_refl.none_after (never_of_logs looked.logs others)
  · exact removes.of_run removed
  · have before := never_of_logs looked.logs others
    rcases rest with discarded | built
    · exact before.none_before (discards.of_run discarded)
    · exact before.none_before (builds.of_run built)

theorem step_defines_once (intervals : Intervals) (record : Record) :
    (step intervals record).Keeps (AtMost .defineDomain 1) := by
  have others {r : Request} (tears : Discards record.name record.spec.storagePool r) :
      r.call ≠ .defineDomain := by
    cases r <;> first | exact (tears.elim id id).elim | nofun
  exact step_atMost (fun _ observes => others (.inl observes))
    (never_of_travels (remove_travels record) fun _ => others)
    (never_of_travels (discard_travels intervals record) fun _ tears => others (.inr tears))
    (build_once intervals record)

theorem step_undefines_once (intervals : Intervals) (record : Record) :
    (step intervals record).Keeps (AtMost .undefineDomain 1) := by
  have others {r : Request} (builds : Builds record.spec r) : r.call ≠ .undefineDomain := by
    cases r <;> first | exact (builds.elim id id).elim | nofun
  exact step_atMost (fun _ observes => others (.inl observes)) (remove_once record)
    (discard_once intervals record)
    (never_of_travels (build_travels intervals record) fun _ makes => others (.inr makes))

/-- A record that holds passes off is at most written to. -/
theorem step_gated {R : World → World → Prop} (store : StoreFrame R) (intervals : Intervals)
    (gated : record.status.phase = .deleted ∨ record.paused = true ∨
      (record.deletionRequested = false ∧ record.prerequisites.satisfied = false)) :
    (step intervals record).Keeps R := by
  unfold step
  split
  · exact store.pure _
  next alive =>
  split
  · exact report_keeps store (.moved (by decide)) _
  next looked =>
  obtain ⟨wanted, unsatisfied⟩ := (gated.resolve_left alive).resolve_left looked
  rw [if_neg (by simp [wanted]), if_pos (by simp [unsatisfied])]
  exact report_keeps store (.moved (by decide)) _

/-- To discard a machine is not to build one. -/
theorem discards_unbuilt {pool : String} (way : Travels (Discards name pool) w w') :
    Logs (fun e => e.builds = false) w w' := by
  refine way.logs.mono fun e within => ?_
  cases e with
  | request r _ _ => cases r <;> first | exact (within.elim id id).elim | rfl
  | connect _ => rfl
  | disconnect => rfl

/-- What is noted in a step is not a teardown, or it is no build. -/
theorem step_onesided (intervals : Intervals) (record : Record) (w : World) :
    Logs (fun e => e.builds = false) w (step intervals record w).2 ∨
    Logs (fun e => e.endsDomain = false) w (step intervals record w).2 := by
  rcases step_sides (run_halves (step intervals record) w) with tears | builds
  · exact .inl (discards_unbuilt tears)
  · refine .inr (builds.logs.mono fun e within => ?_)
    cases e with
    | request r _ _ => cases r <;> first | exact (within.elim id id).elim | rfl
    | connect _ => rfl
    | disconnect => rfl

theorem step_restrained (intervals : Intervals) (record : Record) (w : World) :
    ∃ events, (step intervals record w).2.log = events ++ w.log ∧
      ¬ ((∃ e ∈ events, e.endsDomain) ∧ ∃ e ∈ events, e.builds) ∧
      events.countP (Event.asks .defineDomain) ≤ 1 ∧ events.countP (Event.asks .undefineDomain) ≤ 1 := by
  obtain ⟨events, log, _⟩ := (step_travels intervals record w).logs
  refine ⟨events, log, ?_, (step_defines_once intervals record w).of_events log,
    (step_undefines_once intervals record w).of_events log⟩
  rintro ⟨⟨e, torn, ends⟩, ⟨b, built, builds⟩⟩
  rcases step_onesided intervals record w with ⟨events', log', none⟩ | ⟨events', log', none⟩
  · obtain rfl := events_unique (log'.symm.trans log)
    exact absurd builds (by simp [none b built])
  · obtain rfl := events_unique (log'.symm.trans log)
    exact absurd ends (by simp [none e torn])

theorem runPass_log (intervals : Intervals) (name : String) (w : World) :
    ((runPass intervals name : Action ε Next) w).2.log = (reconcile intervals name w).2.log := by
  obtain ⟨o₁, w₁, ran, same | ⟨failure, noted⟩⟩ :=
    runPass_parts (run_halves (runPass intervals name : Action ε Next) w)
  · rw [ran, same]
  · rw [ran]
    exact (handleFailure_keeps unlogged_store intervals name failure).of_run noted

/-- Whatever fails in a pass and whatever is done to the host in between: the pass tears down or it
builds up, and not both; it asks once at most for a domain to be defined and once to be undefined; and
it does not turn to the host where there is no record, or one that keeps it off. -/
theorem pass_restrained (intervals : Intervals) (name : String) (w : World) :
    ∃ events, (reconcile intervals name w).2.log = events ++ w.log ∧
      ((runPass intervals name : Action ε Next) w).2.log = events ++ w.log ∧
      ¬ ((∃ e ∈ events, e.endsDomain) ∧ ∃ e ∈ events, e.builds) ∧
      events.countP (Event.asks .defineDomain) ≤ 1 ∧ events.countP (Event.asks .undefineDomain) ≤ 1 ∧
      (Gated name w → events = []) := by
  rw [runPass_log]
  rcases reconcile_ways (run_halves (reconcile intervals name) w) with
    ⟨_, got, _⟩ | ⟨record, w₁, got, stepped⟩
  · have log := (unlogged_store.get name).of_run got
    exact ⟨[], log, log, by simp, by simp, by simp, fun _ => rfl⟩
  · have unlogged := (unlogged_store.get name).of_run got
    obtain ⟨events, log, sides, defines, undefines⟩ := step_restrained intervals record w₁
    rw [stepped, unlogged] at log
    refine ⟨events, log, log, sides, defines, undefines, fun gated => ?_⟩
    have silent := (step_gated unlogged_store intervals (gated record (get_done got).1.symm)).of_run stepped
    exact events_unique (log.symm.trans (silent.trans unlogged))

end Reconcile

end MachineKeeper
