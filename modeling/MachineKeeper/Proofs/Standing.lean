import MachineKeeper.Proofs.Remnants
import MachineKeeper.Proofs.Wholeness

/-! A machine over passes in which anything may fail but the probe for its domain. There is no domain
without the volumes that it was made with, and they hold what was read in the pass that made them. -/
namespace MachineKeeper.Reconcile

open Session Lifecycle MachineKeeper.Action

variable {ε α : Type} {w w₁ w' : World} {name pool : String} {record : Record} {ok : Request → Prop}
  {intervals : Intervals}

/-- The first that was asked of the host was lost: there was no connection, or the state of the domain
was not told. -/
def Blind (name : String) (w w' : World) : Prop :=
  ∃ rest, w'.log = rest ++ .connect false :: w.log ∨
    ∃ reached e, w'.log =
      rest ++ .request (.domainState name) reached (.failed e) :: .connect true :: w.log

theorem Blind.before {P : Event → Prop} (blind : Blind name w w₁) (later : Logs P w₁ w') :
    Blind name w w' := by
  obtain ⟨events, log, _⟩ := later
  obtain ⟨rest, refused | ⟨reached, e, untold⟩⟩ := blind
  · exact ⟨events ++ rest, .inl (by rw [log, refused, List.append_assoc])⟩
  · exact ⟨events ++ rest, .inr ⟨reached, e, by rw [log, untold, List.append_assoc]⟩⟩

theorem Blind.behind (same : w₁.log = w.log) (blind : Blind name w₁ w') : Blind name w w' := by
  rwa [Blind, same] at blind

/-- Only a probe that was lost says that there is no domain. -/
theorem isDefined_denied (run : (isDefined name : Action ε Bool) w = (.done false, w')) :
    Blind name w w' := by
  rcases holds_cases run with ⟨_, _, said⟩ | ⟨e, asked, _⟩ | ⟨_, said⟩
  · cases said
  · rcases connected_ways asked with ⟨o₁, turned, refused, _⟩ | ⟨w₁, o₁, w₂, opened, ran, closed⟩
    · have log := connect_log refused
      rw [turned] at log
      exact ⟨[], .inl log⟩
    · rcases closed with ⟨_, spilled⟩ | ⟨rfl, ⟨same, _⟩ | spilled⟩
      · cases spilled
      · subst same
        obtain ⟨o₂, sent, told⟩ := mapError_cases ran
        cases o₂ with
        | failed e₂ =>
          obtain ⟨reached, noted⟩ := send_noted (.domainState name) w₁
          rw [sent] at noted
          refine ⟨[.disconnect], .inr ⟨reached, e₂, ?_⟩⟩
          rw [(disconnect_noted w₂).log, noted.log, connect_log opened]
          rfl
        | done | overflow => cases told
      · cases spilled
  · cases said

theorem probe_denied {spec : Spec} {sync : Bool}
    (run : (probe spec : Action ε (Bool × Bool)) w = (.done (false, sync), w')) :
    Blind spec.name w w' := by
  obtain ⟨found, w₁, looked, rest⟩ := bind_done run
  cases found with
  | false =>
    obtain ⟨-, rfl⟩ := Prod.mk.inj rest
    exact isDefined_denied looked
  | true =>
    obtain ⟨_, _, _, said⟩ := bind_done rest
    cases said

theorem travels_fades (powers : ∀ r, ok r → r.Powers) (way : Travels ok w w') :
    Fades name pool w w' := by
  intro gentle
  have same := way.holding (Q := (· = w.host.holding name pool)) gentle
    (fun r _ allowed same => (Host.answer_powers (powers r allowed)).trans same) rfl
  exact ⟨way.gentle gentle, .inl same⟩

theorem observes_powers {r : Request} (observes : Observes name r) : r.Powers := by
  cases r <;> first | exact observes.elim | exact ⟨rfl, rfl⟩

theorem store_fades {m : Action ε α} (within : m.Keeps (Travels fun _ => False)) :
    m.Keeps (Fades name pool) :=
  within.mono (travels_fades fun _ => False.elim)

theorem eject_fades (record : Record) :
    (eject record).Keeps (Fades record.name record.spec.storagePool) := by
  apply fades_frame.bind ((apart_travels (isDefined_reaches _)).mono (travels_fades fun _ => observes_powers))
  intro found
  cases found with
  | false => exact fades_frame.pure ()
  | true => exact apart_keeps (destroy_fades _ _) _

theorem remove_fades (record : Record) :
    (remove record).Keeps (Fades record.name record.spec.storagePool) := by
  rw [remove_eq]
  apply fades_frame.bind (store_fades (publish_keeps travels_store (.moved (by decide))))
  intro _
  exact fades_frame.bind (eject_fades record) fun _ => store_fades (letGo_keeps travels_store record)

theorem discard_fades (intervals : Intervals) (record : Record) :
    (discard intervals record).Keeps (Fades record.name record.spec.storagePool) :=
  fades_frame.bind (apart_keeps (destroy_fades _ _) _) fun _ =>
    store_fades (report_keeps travels_store (.cleared (by decide)) _)

/-- A machine is never made over a domain unless the probe was lost. -/
theorem step_fades {o : Outcome Failure Next} (run : step intervals record w = (o, w')) :
    Fades record.name record.spec.storagePool w w' ∨ Blind record.name w w' := by
  have looks : (apart .error (probe record.spec)).Keeps (Fades record.name record.spec.storagePool) :=
    (apart_travels (probe_reaches record.spec)).mono (travels_fades fun _ => observes_powers)
  cases step_stepped run with
  | gone => exact .inl (fades_frame.refl w)
  | paused _ ran | unlinked _ ran =>
    exact .inl ((store_fades (report_keeps travels_store (.moved (by decide)) _)).of_run ran)
  | removed _ ran => exact .inl ((remove_fades record).of_run ran)
  | unprobed _ probed => exact .inl (looks.of_run probed)
  | discarded probed ran =>
    exact .inl (fades_frame.trans (looks.of_run probed) ((discard_fades intervals record).of_run ran))
  | observed probed ran =>
    have observes : (observe intervals record).Keeps (Fades record.name record.spec.storagePool) :=
      (observe_travels intervals record).mono (travels_fades fun _ => observes_powers)
    exact .inl (fades_frame.trans (looks.of_run probed) (observes.of_run ran))
  | built probed ran =>
    -- The domain may well be there: the machine is made because the probe did not find it.
    rcases apart_cases probed with ⟨_, denied, said⟩ | ⟨_, _, said⟩ | ⟨_, said⟩ <;> cases said
    exact .inr ((probe_denied denied).before ((build_travels intervals record).of_run ran).logs)

theorem travels_bare (others : ∀ r, ok r → ¬ r.Defines name) (way : Travels ok w w') (gentle : w.Gentle)
    (bare : Bare name pool w) : Bare name pool w' :=
  way.holding (Q := (·.domain? = none)) gentle (fun r _ allowed => Host.answer_bare (others r allowed)) bare

theorem discards_defines {r : Request} (discards : Discards name pool r) : ¬ r.Defines name := by
  cases r <;> first | exact id | exact (discards.elim id id).elim

theorem secret_read {key : String} {found : Option (Table String)}
    (run : Store.secret key w = (.done found, w')) : found = w.secrets[key]? := by
  obtain ⟨_, w₁, met, rest⟩ := bind_done run
  obtain ⟨-, rfl⟩ := Prod.mk.inj met
  obtain ⟨same, -⟩ := Prod.mk.inj rest
  exact (Outcome.done.inj same).symm

theorem bootstrapData_ok {secret value : String} {data : Table String}
    (read : bootstrapData secret data = .ok value) : Accepted data ∧ data["value"]? = some value := by
  rcases bootstrapData_cases secret data with
    ⟨_, _, _, failed⟩ | ⟨_, _, failed⟩ | ⟨accepted, text, given, same⟩
  · cases failed.symm.trans read
  · cases failed.symm.trans read
  · cases same.symm.trans read
    exact ⟨accepted, given⟩

theorem cloudConfig_read {text : String} (run : cloudConfig record w = (.done (some text), w')) :
    ∃ secret data, record.bootstrapSecret = some secret ∧ w.secrets[secret]? = some data ∧
      Accepted data ∧ data["value"]? = some text ∧ text ≠ "" ∧
      Store.secret secret w = (.done (some data), w') := by
  unfold cloudConfig at run
  cases named : record.bootstrapSecret with
  | none =>
    rw [named] at run
    cases run
  | some secret =>
    rw [named] at run
    obtain ⟨found, w₁, met, rest⟩ := bind_done run
    obtain rfl := secret_read met
    cases there : w.secrets[secret]? with
    | none =>
      rw [there] at rest
      cases rest
    | some data =>
      simp only [there] at rest
      cases read : bootstrapData secret data with
      | error e =>
        rw [read] at rest
        cases rest
      | ok value =>
        obtain ⟨accepted, given⟩ := bootstrapData_ok read
        rw [read] at rest
        obtain ⟨told, rfl⟩ := Prod.mk.inj rest
        by_cases empty : value = ""
        · rw [if_pos empty] at told
          cases told
        · rw [if_neg empty] at told
          cases told
          exact ⟨secret, data, rfl, there, accepted, given, empty, there ▸ met⟩

theorem cloudConfig_given {text : String} (run : cloudConfig record w = (.done (some text), w')) :
    Bootstrap w.secrets record (.done (some text)) := by
  obtain ⟨_, _, named, there, accepted, given, nonempty, _⟩ := cloudConfig_read run
  exact .given named there accepted given nonempty

/-- The whole machine was made from what its record's secret came to. -/
def Made (record : Record) (w w' : World) : Prop :=
  ∃ text image, Bootstrap w.secrets record (.done (some text)) ∧
    CloudInit.image record.name text = .ok image ∧
    (w'.host.holding record.name record.spec.storagePool).Whole image ∧
    Shows (Event.Creates record.spec.storagePool (Names.of record.name).seedVolume) w w'

theorem Made.behind {P : Event → Prop} (earlier : Logs P w w₁) (secrets : w₁.secrets = w.secrets)
    (made : Made record w₁ w') : Made record w w' := by
  obtain ⟨text, image, read, built, whole, shows⟩ := made
  exact ⟨text, image, secrets ▸ read, built, whole, .behind earlier shows⟩

theorem Made.before {P : Event → Prop} (made : Made record w w₁) (later : Logs P w₁ w')
    (same : w'.host.holding record.name record.spec.storagePool =
      w₁.host.holding record.name record.spec.storagePool) : Made record w w' := by
  obtain ⟨text, image, read, built, whole, shows⟩ := made
  exact ⟨text, image, read, built, same ▸ whole, shows.before later⟩

theorem store_holding (way : Travels (fun _ => False) w w') (gentle : w.Gentle) (key pool : String) :
    w'.host.holding key pool = w.host.holding key pool :=
  way.holding (Q := (· = w.host.holding key pool)) gentle (fun _ _ => False.elim) rfl

/-- A pass that builds makes the whole machine or no domain. -/
theorem build_raises {o : Outcome Failure Next} (gentle : w.Gentle)
    (bare : Bare record.name record.spec.storagePool w) (run : build intervals record w = (o, w')) :
    Bare record.name record.spec.storagePool w' ∨ Made record w w' := by
  rcases build_ways run with idle | ⟨text, w₁, o₁, w₂, read, reads, created, told⟩
  · exact .inl (travels_bare (fun _ => False.elim) idle gentle bare)
  have gentle₁ := reads.gentle gentle
  have gentle₂ := ((create_reaches _).of_run created).store.gentle gentle₁
  have bare₁ := travels_bare (fun _ => False.elim) reads gentle bare
  rcases create_raises gentle₁ (by exact bare₁) created with
    bare₂ | ⟨image, built, bare₂ | ⟨whole, shows⟩⟩
  · exact .inl (travels_bare (fun _ => False.elim) told gentle₂ bare₂)
  · exact .inl (travels_bare (fun _ => False.elim) told gentle₂ bare₂)
  · have given := cloudConfig_given read
    have made : Made record w₁ w₂ := ⟨text, image, reads.secrets ▸ given, built, whole, shows⟩
    exact .inr ((made.before told.logs (store_holding told gentle₂ _ _)).behind reads.logs reads.secrets)

/-- Where there is no domain, only what is built brings one about, whatever the probe says. -/
theorem step_raises {o : Outcome Failure Next} (gentle : w.Gentle)
    (bare : Bare record.name record.spec.storagePool w) (run : step intervals record w = (o, w')) :
    Bare record.name record.spec.storagePool w' ∨ Made record w w' := by
  have stays {ok : Request → Prop} {w₁ w₂ : World} (way : Travels ok w₁ w₂)
      (discards : ∀ r, ok r → Discards record.name record.spec.storagePool r) (gentle : w₁.Gentle)
      (bare : Bare record.name record.spec.storagePool w₁) :
      Bare record.name record.spec.storagePool w₂ :=
    travels_bare (fun r allowed => discards_defines (discards r allowed)) way gentle bare
  have looks : (apart .error (probe record.spec)).Keeps (Travels (Observes record.name)) :=
    apart_travels (probe_reaches record.spec)
  cases step_stepped run with
  | gone => exact .inl bare
  | paused _ ran | unlinked _ ran =>
    have way : Travels (fun _ => False) w w' :=
      (report_keeps travels_store (.moved (by decide)) _).of_run ran
    exact .inl (stays way (fun _ => False.elim) gentle bare)
  | removed _ ran => exact .inl (stays ((remove_travels record).of_run ran) (fun _ => id) gentle bare)
  | unprobed _ probed => exact .inl (stays (looks.of_run probed) (fun _ => .inl) gentle bare)
  | discarded probed ran =>
    have bare₁ := stays (looks.of_run probed) (fun _ => .inl) gentle bare
    exact .inl (stays ((discard_travels intervals record).of_run ran) (fun _ => .inr)
      ((looks.of_run probed).gentle gentle) bare₁)
  | observed probed ran =>
    have bare₁ := stays (looks.of_run probed) (fun _ => .inl) gentle bare
    exact .inl (stays ((observe_travels intervals record).of_run ran) (fun _ => .inl)
      ((looks.of_run probed).gentle gentle) bare₁)
  | built probed ran =>
    have way := looks.of_run probed
    have bare₁ := stays way (fun _ => .inl) gentle bare
    exact (build_raises (way.gentle gentle) bare₁ ran).imp_right (Made.behind way.logs way.secrets)

theorem get_read {o : Outcome Failure (Option Record)} (run : Store.get name w = (o, w')) :
    w'.log = w.log ∧ w'.secrets = w.secrets ∧ (o = .done w.records[name]? ∨ o.isDone = false) := by
  have meets {o₁ : Outcome Failure Unit} {w₁ : World} (met : Store.meetFaults .get w = (o₁, w₁)) :
      w₁.log = w.log ∧ w₁.secrets = w.secrets ∧ w₁.records = w.records := by
    obtain ⟨-, rfl⟩ := Prod.mk.inj met
    exact ⟨rfl, rfl, rfl⟩
  rcases bind_cases run with ⟨_, w₁, met, rest⟩ | ⟨e, met, rfl⟩ | ⟨met, rfl⟩ <;>
    obtain ⟨log, secrets, records⟩ := meets met
  · obtain ⟨rfl, rfl⟩ := Prod.mk.inj rest
    exact ⟨log, secrets, .inl (by rw [records])⟩
  · exact ⟨log, secrets, .inr rfl⟩
  · exact ⟨log, secrets, .inr rfl⟩

/-- The record that a pass goes by is the machine's. -/
def Keyed (name pool : String) (w : World) : Prop :=
  ∀ record, w.records[name]? = some record → record.name = name ∧ record.spec.storagePool = pool

/-- What a pass does between the reading of its record and a note about a failure is a step for the record. -/
theorem runPass_ways {o : Outcome ε Next} (run : runPass intervals name w = (o, w')) :
    ∃ w₁ w₂, Travels (fun _ => False) w w₁ ∧ w₁.log = w.log ∧ w₁.secrets = w.secrets ∧
      (w₂ = w₁ ∨ ∃ record o₂, w.records[name]? = some record ∧ step intervals record w₁ = (o₂, w₂)) ∧
      Travels (fun _ => False) w₂ w' := by
  obtain ⟨o₂, w₂, ran, noted⟩ := runPass_parts run
  have noting : Travels (fun _ => False) w₂ w' := by
    rcases noted with rfl | ⟨failure, noted⟩
    · exact .refl
    · exact (handleFailure_keeps travels_store _ _ _).of_run noted
  rcases bind_cases ran with ⟨found, w₁, got, rest⟩ | ⟨e, got, _⟩ | ⟨got, _⟩ <;>
    have way : Travels (fun _ => False) w _ := (travels_store.get name).of_run got <;>
    obtain ⟨log, secrets, read⟩ := get_read got
  · refine ⟨w₁, w₂, way, log, secrets, ?_, noting⟩
    rcases read with same | turned
    · cases found with
      | none =>
        obtain ⟨-, rfl⟩ := Prod.mk.inj rest
        exact .inl rfl
      | some record => exact .inr ⟨record, o₂, (Outcome.done.inj same).symm, rest⟩
    · cases turned
  · exact ⟨w₂, w₂, way, log, secrets, .inl rfl, noting⟩
  · exact ⟨w₂, w₂, way, log, secrets, .inl rfl, noting⟩

theorem runPass_fades {o : Outcome ε Next} (keyed : Keyed name pool w)
    (run : runPass intervals name w = (o, w')) : Fades name pool w w' ∨ Blind name w w' := by
  have store {a b : World} (way : Travels (fun _ => False) a b) : Fades name pool a b :=
    travels_fades (fun _ => False.elim) way
  obtain ⟨w₁, w₂, reading, log, _, rfl | ⟨record, _, found, stepped⟩, noting⟩ := runPass_ways run
  · exact .inl (fades_frame.trans (store reading) (store noting))
  · obtain ⟨rfl, rfl⟩ := keyed record found
    rcases step_fades stepped with fades | blind
    · exact .inl (fades_frame.trans (store reading) (fades_frame.trans fades (store noting)))
    · exact .inr ((blind.behind log).before noting.logs)

theorem runPass_raises {o : Outcome ε Next} (keyed : Keyed name pool w) (gentle : w.Gentle)
    (bare : Bare name pool w) (run : runPass intervals name w = (o, w')) :
    Bare name pool w' ∨ ∃ record, w.records[name]? = some record ∧ Made record w w' := by
  obtain ⟨w₁, w₂, reading, _, secrets, stepped, noting⟩ := runPass_ways run
  have gentle₁ := reading.gentle gentle
  have bare₁ : Bare name pool w₁ := travels_bare (fun _ => False.elim) reading gentle bare
  have noted {key pool : String} (gentle₂ : w₂.Gentle) :
      w'.host.holding key pool = w₂.host.holding key pool :=
    noting.holding (Q := (· = w₂.host.holding key pool)) gentle₂ (fun _ _ => False.elim) rfl
  rcases stepped with rfl | ⟨record, _, found, stepped⟩
  · exact .inl (by rw [Bare, noted gentle₁, bare₁])
  obtain ⟨rfl, rfl⟩ := keyed record found
  have gentle₂ := ((step_travels intervals record).of_run stepped).gentle gentle₁
  rcases step_raises gentle₁ bare₁ stepped with bare₂ | made
  · exact .inl (by rw [Bare, noted gentle₂, bare₂])
  · exact .inr ⟨record, found, (made.behind reading.logs secrets).before noting.logs (noted gentle₂)⟩

/-- A pass for the machine, in which anything may fail and be changed, except that a domain which is there
is found, and that no volume is put on the host. -/
structure Pass (intervals : Intervals) (name pool : String) (w w' : World) : Prop where
  ran : ((runPass intervals name : Action Failure Next) w).2 = w'
  keyed : Keyed name pool w
  gentle : w.Gentle
  seen : w.host.domains[name]? ≠ none → ¬ Blind name w w'

/-- Between passes the host is changed by anything that puts no volume there, and all else at will. -/
def Edit (w w' : World) : Prop :=
  ∃ changes, (∀ c ∈ changes, Change.Mild c) ∧
    (w.host.changes changes : Outcome Failure Unit × Host).2 = w'.host

def Move (intervals : Intervals) (name pool : String) (w w' : World) : Prop :=
  Pass intervals name pool w w' ∨ Edit w w'

inductive Course (intervals : Intervals) (name pool : String) (w₀ : World) : World → Prop
  | start : Course intervals name pool w₀ w₀
  | move {w w' : World} (before : Course intervals name pool w₀ w)
      (move : Move intervals name pool w w') : Course intervals name pool w₀ w'

/-- The seed volume was made in a pass that read `text`, and the machine is as that pass left it. -/
inductive Raised (intervals : Intervals) (name pool text : String) (w₀ : World) : World → Prop
  | made {w w' : World} {record : Record} (before : Course intervals name pool w₀ w)
      (pass : Pass intervals name pool w w') (found : w.records[name]? = some record)
      (read : Bootstrap w.secrets record (.done (some text)))
      (created : Shows (Event.Creates pool (Names.of name).seedVolume) w w') :
      Raised intervals name pool text w₀ w'
  | kept {w w' : World} (before : Raised intervals name pool text w₀ w)
      (move : Move intervals name pool w w')
      (same : w'.host.holding name pool = w.host.holding name pool) :
      Raised intervals name pool text w₀ w'

/-- What there is of a machine after a course of passes: no domain, or all that its domain was made with. -/
def Upright (intervals : Intervals) (name pool : String) (w₀ w : World) : Prop :=
  Bare name pool w ∨ ∃ text image, Raised intervals name pool text w₀ w ∧
    CloudInit.image name text = .ok image ∧ (w.host.holding name pool).Whole image

theorem Edit.holding (edit : Edit w w') (name pool : String) :
    w'.host.holding name pool = w.host.holding name pool := by
  obtain ⟨changes, mild, same⟩ := edit
  rw [← same, Host.changes_holding mild]

theorem Pass.run (pass : Pass intervals name pool w w') :
    ∃ o, (runPass intervals name : Action Failure Next) w = (o, w') :=
  ⟨_, Prod.ext rfl pass.ran⟩

theorem bare_moves {w₀ : World} (before : Course intervals name pool w₀ w) (bare : Bare name pool w)
    (move : Move intervals name pool w w') : Upright intervals name pool w₀ w' := by
  rcases move with pass | edit
  · obtain ⟨o, run⟩ := pass.run
    rcases runPass_raises pass.keyed pass.gentle bare run with bare' | ⟨record, found, made⟩
    · exact .inl bare'
    · obtain ⟨text, image, read, built, whole, created⟩ := made
      obtain ⟨rfl, rfl⟩ := pass.keyed record found
      exact .inr ⟨text, image, .made before pass found read created, built, whole⟩
  · exact .inl (by rw [Bare, edit.holding, bare])

theorem raised_moves {w₀ : World} {text : String} {image : Bytes}
    (raised : Raised intervals name pool text w₀ w) (built : CloudInit.image name text = .ok image)
    (whole : (w.host.holding name pool).Whole image) (move : Move intervals name pool w w') :
    Upright intervals name pool w₀ w' := by
  have left : w'.host.holding name pool = w.host.holding name pool ∨ Bare name pool w' := by
    rcases move with pass | edit
    · obtain ⟨o, run⟩ := pass.run
      obtain ⟨domain, disk, seed, held, _⟩ := whole
      have defined : w.host.domains[name]? ≠ none := fun bare =>
        nomatch (congrArg Holding.domain? held).symm.trans (Host.bare_iff.mpr bare)
      exact ((runPass_fades pass.keyed run).resolve_right (pass.seen defined) pass.gentle).2
    · exact .inl (edit.holding name pool)
  rcases left with same | bare
  · exact .inr ⟨text, image, .kept raised move same, built, by rwa [same]⟩
  · exact .inl bare

theorem Course.upright {w₀ : World} (course : Course intervals name pool w₀ w)
    (bare : Bare name pool w₀) : Upright intervals name pool w₀ w := by
  induction course with
  | start => exact .inl bare
  | move before move upright =>
    rcases upright with bare | ⟨text, image, raised, built, whole⟩
    · exact bare_moves before bare move
    · exact raised_moves raised built whole move

/-- Whatever fails in passes and is changed between them, a domain that is there has both of its volumes,
its disk lies over an image, and it boots from what was read in the pass that made it. -/
theorem whole_while_defined {w₀ : World} (course : Course intervals name pool w₀ w)
    (bare : w₀.host.domains[name]? = none) (there : w.host.domains[name]? ≠ none) :
    ∃ text image, Raised intervals name pool text w₀ w ∧ CloudInit.image name text = .ok image ∧
      (w.host.holding name pool).Whole image :=
  (course.upright (Host.bare_iff.mpr bare)).resolve_left fun gone => there (Host.bare_iff.mp gone)

/-- The world with a planned machine once a pass was made for it. -/
def settled : World := ((runPass .standard "m" : Action Failure Next) roomy).2

theorem roomy_settles : Pass .standard "m" "default" roomy settled where
  ran := rfl
  keyed := by
    intro record found
    have planned : roomy.records["m"]? = some planned := by decide
    obtain rfl := Option.some.inj (planned.symm.trans found)
    exact ⟨rfl, rfl⟩
  gentle := ⟨by nofun, by nofun⟩
  seen := fun there => absurd (by decide) there

theorem readied_created : ∃ w', create plannedSpec (readied roomy) = (.done (), w') ∧ w'.Undisturbed ∧
    w'.host.domains["m"]? ≠ none := by
  have calm : (readied roomy).Calm := ⟨rfl, rfl, rfl, rfl⟩
  obtain ⟨o, w', run⟩ : ∃ o w', create plannedSpec (readied roomy) = (o, w') := ⟨_, _, rfl⟩
  have creation := create_calm calm (by decide) (by decide) run
  have quiet := ((create_reaches plannedSpec).of_run run).store.undisturbed calm.undisturbed
  generalize left : w'.host.objects = host at creation
  cases creation with
  | misnamed long => exact absurd long (by decide)
  | unimaged _ failed =>
    obtain ⟨image, built⟩ : ∃ image, CloudInit.image plannedSpec.name plannedSpec.userData = .ok image :=
      CloudInit.image_built (by decide) (by decide)
    cases built.symm.trans failed
  | unplaced _ _ missing => exact absurd missing (by decide)
  | garbled _ _ _ corrupts => exact absurd corrupts (by decide)
  | started =>
    refine ⟨w', run, quiet, ?_⟩
    rw [← Host.objects_domains, left]
    simp only [Host.setDomain]
    rw [show plannedSpec.name = "m" from rfl, Std.ExtTreeMap.getElem?_insert_self]
    exact Option.some_ne_none _

theorem settled_there : settled.host.domains["m"]? ≠ none := by
  obtain ⟨w₁, created, quiet, there⟩ := readied_created
  obtain ⟨o, w₂, reported⟩ : ∃ o w₂, noteCreated w₁ = (o, w₂) := ⟨_, _, rfl⟩
  have ran : reconcile .standard "m" roomy = (o, w₂) :=
    (reconcile_readied rfl (by decide +kernel) (by decide +kernel)).trans
      ((bind_of_done (apart_of_done created)).trans reported)
  have stays : noteCreated.Keeps Store.Stays :=
    report_keeps Store.stays_store (.moved (by decide)) _
  have same := stays.of_run reported quiet
  obtain ⟨o', w₃, noted⟩ : ∃ o' w₃, (runPass .standard "m" : Action Failure Next) roomy = (o', w₃) :=
    ⟨_, _, rfl⟩
  obtain ⟨_, w₄, ran', noting, _⟩ := runPass_cases noted
  obtain ⟨rfl, rfl⟩ := Prod.mk.inj (ran.symm.trans ran')
  rw [settled, noted, (noting (same.undisturbed quiet)).host, same.host]
  exact there

theorem whole_while_defined_settled : ∃ text image,
    Raised .standard "m" "default" text roomy settled ∧ CloudInit.image "m" text = .ok image ∧
      (settled.host.holding "m" "default").Whole image :=
  whole_while_defined (.move .start (.inl roomy_settles)) (by decide) settled_there

end MachineKeeper.Reconcile
