import MachineKeeper.Proofs.Reconcile

/-! When a pass ends a domain that is not to be deleted. It does so only where the probes said that
the domain is there and that it is not of the size that is asked for; the second one says so too when
it gets no answer. -/
namespace MachineKeeper

/-- A request to power a domain off or to undefine it. -/
def Request.endsDomain : Request → Bool
  | destroyDomain _ | undefineDomain _ => true
  | _ => false

def Event.endsDomain : Event → Bool
  | .request r _ _ => r.endsDomain
  | _ => false

namespace Reconcile

open Session MachineKeeper.Action Store

variable {ε α : Type} {w w' : World} {name : String}

/-- An undisturbed way on which no domain is ended. -/
abbrev Spares : World → World → Prop := Adds fun e => e.endsDomain = false

theorem reaches_spares {ok : Request → Prop} (path : Reaches ok w w')
    (gentle : ∀ r, ok r → r.endsDomain = false) : Spares w w' := by
  apply reaches_adds path
  intro e within
  cases e with
  | request r _ _ => exact gentle r within
  | connect _ => rfl
  | disconnect => rfl

theorem observes_spares (path : Reaches (Lifecycle.Observes name) w w') : Spares w w' := by
  apply reaches_spares path
  intro r observes
  cases r <;> first | exact observes.elim | rfl

theorem provisions_spares {spec : Spec} (path : Reaches (Lifecycle.Provisions spec) w w') :
    Spares w w' := by
  apply reaches_spares path
  intro r provisions
  cases r <;> first | exact provisions.elim | rfl

theorem observe_spares (intervals : Intervals) (record : Record) :
    (observe intervals record).Keeps Spares :=
  observe_keeps adds_store intervals record ((Lifecycle.isRunning_reaches _).mono observes_spares)
    ((Lifecycle.addresses_reaches _).mono observes_spares)

theorem build_spares (intervals : Intervals) (record : Record) :
    (build intervals record).Keeps Spares :=
  build_keeps adds_store intervals record fun _ =>
    (Lifecycle.create_reaches _).mono provisions_spares

/-- The domain is there. It is not of the size that is asked for, or the question for its size, which followed
upon the one for the domain, got no answer. -/
def SeenAmiss (spec : Spec) (w w' : World) : Prop :=
  ∃ domain, w.host.domains[spec.name]? = some domain ∧
    (domain.vcpus ≠ spec.cpu ∨ domain.maxMemoryKib / 1024 ≠ spec.memory ∨
      Unanswered (.domainInfo spec.name) (Event.answered (.domainState spec.name) domain.state ++ w.log) w'.log)

theorem SeenAmiss.before {spec : Spec} {P : Event → Prop} {w₁ : World} (amiss : SeenAmiss spec w w₁)
    (later : Logs P w₁ w') : SeenAmiss spec w w' := by
  obtain ⟨domain, there, why⟩ := amiss
  obtain ⟨events, log, _⟩ := later
  refine ⟨domain, there, why.imp_right (Or.imp_right fun unanswered => ?_)⟩
  rw [log]
  exact unanswered.append events

theorem probe_spares (spec : Spec) (report : Error → Failure) :
    (apart report (probe spec)).Keeps Spares :=
  apart_keeps ((probe_reaches spec).mono observes_spares) report

/-- The probes come to the answer that a machine is to be discarded only where something is amiss. -/
theorem probe_amiss {spec : Spec} {report : Error → Failure} (quiet : w.Undisturbed) (calls : w.CallErrors)
    (run : apart report (probe spec) w = (.done (true, false), w')) : SeenAmiss spec w w' := by
  obtain ⟨found, w₁, asked, rest⟩ := bind_done (apart_done run)
  rcases Lifecycle.isDefined_cases quiet calls asked with ⟨domain, same, there, log⟩ | ⟨same, _⟩ <;> cases same
  · have path : Reaches _ w w₁ := (Lifecycle.isDefined_reaches spec.name).of_run asked
    have there₁ : w₁.host.domains[spec.name]? = some domain := by
      rw [Host.domains_of_objects (Lifecycle.isDefined_objects quiet asked), there]
    obtain ⟨fitting, w₂, measured, rest⟩ := bind_done rest
    obtain ⟨same, rfl⟩ := Prod.mk.inj rest
    cases same
    refine ⟨domain, there, ?_⟩
    rcases Lifecycle.isInSync_cases (path.store.undisturbed quiet) (path.store.callErrors calls) there₁
      measured with same | ⟨_, unanswered⟩
    · by_cases cpu : domain.vcpus = spec.cpu
      · refine .inr (.inl fun memory => ?_)
        have fit : Lifecycle.fits spec domain.info = true := by
          simp [Lifecycle.fits, Domain.info, cpu, memory]
        rw [fit] at same
        cases same
      · exact .inl cpu
    · rw [log] at unanswered
      exact .inr (.inr unanswered)
  · obtain ⟨same, -⟩ := Prod.mk.inj rest
    cases same

theorem discard_adds (intervals : Intervals) (record : Record) :
    (discard intervals record).Keeps (Adds fun _ => True) :=
  discard_keeps adds_store intervals record
    ((Lifecycle.destroy_reaches _ _).mono fun path => reaches_adds path fun _ _ => trivial)

theorem Spares.amiss {spec : Spec} (spares : Spares w w') (quiet : w.Undisturbed) :
    ∃ events, w'.log = events ++ w.log ∧ ((∃ e ∈ events, e.endsDomain) → SeenAmiss spec w w') := by
  obtain ⟨events, log, gentle⟩ := (spares quiet).2
  exact ⟨events, log, fun ⟨e, member, ends⟩ => absurd (gentle e member) (by simp [ends])⟩

theorem step_cases {intervals : Intervals} {record : Record} {o : Outcome Failure Next}
    (quiet : w.Undisturbed) (calls : w.CallErrors) (wanted : record.deletionRequested = false)
    (run : step intervals record w = (o, w')) :
    ∃ events, w'.log = events ++ w.log ∧ ((∃ e ∈ events, e.endsDomain) → SeenAmiss record.spec w w') := by
  cases step_stepped run with
  | gone => exact Spares.amiss (adds_frame.refl w) quiet
  | paused _ ran | unlinked _ ran =>
    exact Spares.amiss ((report_keeps adds_store (.moved (by decide)) _).of_run ran) quiet
  | removed requested => exact absurd (wanted.symm.trans requested) Bool.false_ne_true
  | unprobed _ probed => exact Spares.amiss ((probe_spares record.spec _).of_run probed) quiet
  | discarded probed ran =>
    obtain ⟨quiet₁, events, log, _⟩ := (probe_spares record.spec _).of_run probed quiet
    obtain ⟨later, log', within⟩ := ((discard_adds intervals record).of_run ran quiet₁).2
    exact ⟨later ++ events, by rw [log', log, List.append_assoc],
      fun _ => (probe_amiss quiet calls probed).before ⟨later, log', within⟩⟩
  | observed probed ran =>
    exact Spares.amiss (adds_frame.trans ((probe_spares record.spec _).of_run probed)
      ((observe_spares intervals record).of_run ran)) quiet
  | built probed ran =>
    exact Spares.amiss (adds_frame.trans ((probe_spares record.spec _).of_run probed)
      ((build_spares intervals record).of_run ran)) quiet

/-- Whatever fails in a pass, a machine that is not to be deleted is powered off or undefined only
where its domain is of another size than is asked for, or where the probe for the domain was answered and the
one for its size, which is the next thing that is done over connections, got no answer. -/
theorem ended_amiss {intervals : Intervals} {record : Record} {o : Outcome Failure Next}
    (quiet : w.Undisturbed) (calls : w.CallErrors) (found : w.records[name]? = some record)
    (wanted : record.deletionRequested = false) (run : reconcile intervals name w = (o, w')) :
    ∃ events, w'.log = events ++ w.log ∧ ((∃ e ∈ events, e.endsDomain) →
      ∃ domain, w.host.domains[record.name]? = some domain ∧
        (domain.vcpus ≠ record.spec.cpu ∨ domain.maxMemoryKib / 1024 ≠ record.spec.memory ∨
          Unanswered (.domainInfo record.name)
            (Event.answered (.domainState record.name) domain.state ++ w.log) w'.log)) := by
  obtain ⟨w₁, same, _, rfl | stepped⟩ := reconcile_cases quiet found run
  · exact ⟨[], same.log, by simp⟩
  · obtain ⟨events, log, amiss⟩ :=
      step_cases (same.undisturbed quiet) (same.callErrors calls) wanted stepped
    refine ⟨events, by rw [log, same.log], ?_⟩
    rw [← same.host, ← same.log]
    exact amiss

def linked : Record := { Record.ofSpec (.ofName "m") with prerequisites := .all }

/-- The machine runs and has the right size, on a host that does not tell the sizes of domains. -/
def blinded : World :=
  { World.serving linked with host := { (World.serving linked).host with failing := [.domainInfo] } }

def blindedPass : Outcome Failure Next × World := reconcile .standard "m" blinded

theorem blinded_ends : ∃ e ∈ blindedPass.2.log, e.endsDomain := by decide +kernel

theorem ended_amiss_blinded :
    ∃ events, blindedPass.2.log = events ++ blinded.log ∧ (∃ e ∈ events, e.endsDomain) ∧
      ∃ domain, blinded.host.domains[linked.name]? = some domain ∧
        (domain.vcpus ≠ linked.spec.cpu ∨ domain.maxMemoryKib / 1024 ≠ linked.spec.memory ∨
          Unanswered (.domainInfo linked.name)
            (Event.answered (.domainState linked.name) domain.state ++ blinded.log) blindedPass.2.log) := by
  have found : blinded.records["m"]? = some linked := by decide
  have run : reconcile .standard "m" blinded = (blindedPass.1, blindedPass.2) := rfl
  obtain ⟨events, log, amiss⟩ := ended_amiss (World.undisturbed_of_nil rfl rfl) (World.callErrors_of_nil rfl)
    found rfl run
  have ends := blinded_ends
  rw [log, show blinded.log = [] from rfl, List.append_nil] at ends
  exact ⟨events, log, ends, amiss ends⟩

/-- It is not so that only a domain of another size is ended. -/
theorem ended_in_sync : ¬ ∀ (w : World) (name : String) (record : Record)
    (o : Outcome Failure Next) (w' : World), w.Undisturbed → w.CallErrors →
    w.records[name]? = some record → record.name = name → record.deletionRequested = false →
    reconcile .standard name w = (o, w') →
    ∃ events, w'.log = events ++ w.log ∧ ((∃ e ∈ events, e.endsDomain) →
      ∃ domain, w.host.domains[name]? = some domain ∧
        (domain.vcpus ≠ record.spec.cpu ∨ domain.maxMemoryKib / 1024 ≠ record.spec.memory)) := by
  intro claimed
  have run : reconcile .standard "m" blinded = (blindedPass.1, blindedPass.2) := rfl
  obtain ⟨events, log, drifted⟩ := claimed blinded "m" linked _ _ (World.undisturbed_of_nil rfl rfl)
    (World.callErrors_of_nil rfl) (by decide) rfl rfl run
  have ended := blinded_ends
  have same : ∀ domain, blinded.host.domains["m"]? = some domain →
      domain.vcpus = linked.spec.cpu ∧ domain.maxMemoryKib / 1024 = linked.spec.memory := by
    have size : (blinded.host.domains["m"]?.map fun d => (d.vcpus, d.maxMemoryKib / 1024)) =
        some (linked.spec.cpu, linked.spec.memory) := by decide +kernel
    intro domain there
    simpa [there] using size
  rw [log, show blinded.log = [] from rfl, List.append_nil] at ended
  obtain ⟨domain, there, other⟩ := drifted ended
  rcases other with cpu | memory
  · exact cpu (same domain there).1
  · exact memory (same domain there).2

end Reconcile

end MachineKeeper
