import MachineKeeper.CommandLine.Run
import MachineKeeper.Proofs.Matching

/-! Two ways to make a machine: the command that creates it, and a pass for a record of its manifest. Both
come down to the same operation, on hosts that differ in the connections that were opened so far. -/
namespace MachineKeeper

/-- No fault waits for a call that a probe for a domain makes. -/
def World.Unprobed (w : World) : Prop :=
  ∀ f ∈ w.hostFaults, f.site ≠ .connect ∧ f.site ≠ .call .domainState ∧ f.site ≠ .disconnect

namespace Lifecycle

open Session MachineKeeper.Action

variable {ε : Type} {w : World} {name : String}

theorem isDefined_bare (unprobed : w.Unprobed) (bare : w.host.domains[name]? = none) :
    ∃ w', (isDefined name : Action ε Bool) w = (.done false, w') ∧ w.Matches w' := by
  have met : meetFaults .connect w = (.done (), w) := meetFaults_none fun f member => (unprobed f member).1
  by_cases refused : w.host.refusesConnections = true
  · have turned : connect w = (.failed (.connection "connection refused"), note (.connect false) w) := by
      simp only [connect, met, if_pos refused]
    exact ⟨_, holds_of_failed (connected_refused turned), rfl, rfl⟩
  let host := { w.host with
    connections := w.host.connections + 1, openConnections := w.host.openConnections + 1 }
  let w₁ := note (.connect true) { w with host }
  have opened : connect w = (.done (), w₁) := by
    simp only [connect, met, if_neg refused]
    rfl
  obtain ⟨e, served⟩ : ∃ e, w₁.host.serve (.domainState name) = (.failed e, w₁.host) := by
    unfold Host.serve
    split
    · exact ⟨_, rfl⟩
    · exact ⟨_, Host.answer_domainState_missing bare⟩
  let w₂ := note (.request (.domainState name) true (.failed e)) w₁
  have sent : send (.domainState name) w₁ = (.failed e, w₂) := by
    have met₁ : meetFaults (.call (Request.domainState name).call) w₁ = (.done (), w₁) :=
      meetFaults_none fun f member => (unprobed f member).2.1
    simp only [send, met₁, served]
    rfl
  have met₂ : meetFaults .disconnect w₂ = (.done (), w₂) :=
    meetFaults_none fun f member => (unprobed f member).2.2
  have closed : disconnect w₂ = (.done (), (disconnect w₂).2) := by
    simp only [disconnect, met₂]
  refine ⟨_, holds_of_failed (connected_run opened (ask_of_failed sent) nofun closed nofun), ?_⟩
  simp only [disconnect, met₂]
  exact ⟨rfl, rfl⟩

end Lifecycle

namespace Reconcile

open Session Lifecycle Store MachineKeeper.Action

variable {w w' : World} {record : Record} {name : String} {intervals : Intervals}

/-- Where no fault waits for the store, its use leaves the host alone. -/
def Rests (w w' : World) : Prop := w.storeFaults = [] → w'.storeFaults = [] ∧ w'.host = w.host

theorem rests_store : StoreFrame Rests where
  refl _ idle := ⟨idle, rfl⟩
  trans first second idle :=
    ⟨(second (first idle).1).1, (second (first idle).1).2.trans (first idle).2⟩
  faults site w idle := by
    rw [meetFaults_idle idle site]
    exact ⟨idle, rfl⟩
  write _ idle := ⟨idle, rfl⟩

theorem Travels.idle {ok : Request → Prop} (way : Travels ok w w') (idle : w.storeFaults = []) :
    w'.storeFaults = [] := by
  induction way with
  | refl => exact idle
  | faults site _ ih =>
    rw [meetFaults_idle ih site]
    exact ih
  | write _ _ ih => exact ih
  | reach _ path ih => exact path.store.storeFaults.trans ih

/-- A machine without a cloud-config is not made. -/
theorem build_unsupplied {o : Outcome Failure (Option String)} (idle : w.storeFaults = [])
    (read : cloudConfig record w = (o, w)) (unsupplied : o = .done none ∨ ∃ e, o = .failed e) :
    (build intervals record w).2.host = w.host := by
  rcases unsupplied with rfl | ⟨e, rfl⟩
  · rw [build, bind_of_done read]
    exact (report_keeps rests_store (.moved (by decide)) _ w idle).2
  · rw [build, bind_of_failed read]

theorem bind_rests {ε α β : Type} {m : Action ε α} {f : α → Action ε β} (idle : (m w).2.storeFaults = [])
    (rests : ∀ a, (f a).Keeps Rests) : ((m >>= f) w).2.host = (m w).2.host := by
  rw [bind_run]
  generalize m w = x at idle ⊢
  obtain ⟨o, w₁⟩ := x
  cases o with
  | done a => exact (rests a w₁ idle).2
  | failed e => rfl
  | overflow => rfl

/-- With a cloud-config it comes to the making of the machine. -/
theorem build_supplied {text : String} (idle : w.storeFaults = [])
    (read : cloudConfig record w = (.done (some text), w)) :
    (build intervals record w).2.host = (create { record.spec with userData := text } w).2.host := by
  have made : (create { record.spec with userData := text } w).2.storeFaults = [] :=
    (create_reaches _ w).store.storeFaults.trans idle
  rw [build, bind_of_done read, ← apart_world]
  rw [← apart_world] at made
  exact bind_rests made fun _ => report_keeps rests_store (.moved (by decide)) _

theorem probe_bare {spec : Spec} (unprobed : w.Unprobed) (bare : w.host.domains[spec.name]? = none) :
    ∃ w', (probe spec : Action Error (Bool × Bool)) w = (.done (false, false), w') ∧ w.Matches w' := by
  obtain ⟨w', asked, alike⟩ := isDefined_bare unprobed bare
  exact ⟨w', bind_of_done asked, alike⟩

theorem runPass_bare {ε : Type} (linked : Linked record.name w record) (idle : w.storeFaults = [])
    (unprobed : w.Unprobed) (bare : w.host.domains[record.name]? = none) :
    ∃ w₁, w.Matches w₁ ∧ w₁.storeFaults = [] ∧ w₁.secrets = w.secrets ∧
      (runPass intervals record.name w : Outcome ε Next × World).2.host =
        (build intervals record w₁).2.host := by
  obtain ⟨w₁, probed, alike⟩ := probe_bare unprobed bare
  have store := ((probe_reaches record.spec).of_run probed).store
  refine ⟨w₁, alike, store.storeFaults.trans idle, store.secrets, ?_⟩
  have built : reconcile intervals record.name w = build intervals record w₁ := by
    have serves := World.storeServes_of_nil idle
    rw [reconcile_served serves linked.found, step_linked linked, bind_of_done (apart_of_done probed)]
  obtain ⟨o₁, w₂, ran, rfl | ⟨failure, noted⟩⟩ :=
    runPass_parts (run_halves (runPass intervals record.name : Action ε Next) w)
  · rw [← built, ran]
  · have idle₂ : w₂.storeFaults = [] := ((reconcile_travels intervals record.name).of_run ran).idle idle
    rw [((handleFailure_keeps rests_store _ _ _).of_run noted idle₂).2, ← built, ran]

end Reconcile

/-- The manifest has a cloud-config with nothing in it. -/
def Manifest.isBlank (manifest : Manifest) : Bool :=
  manifest.bootstrap.any fun entry => entry.value = "" && entry.format.all (· = "cloud-config")

namespace Run

open Session Lifecycle Reconcile Store MachineKeeper.Action

variable {w : World} {manifest : Manifest} {defaults : Defaults}

theorem ofAction_world {α : Type} (action : Action Error α) (lines : α → List Line) (w : World) :
    (ofAction action lines w).world = (action w).2 := by
  rw [← apart_world .error, ofAction]
  split <;> next run => rw [run]

theorem secretData_value (entry : BootstrapEntry) : entry.secretData["value"]? = some entry.value := by
  unfold BootstrapEntry.secretData
  cases entry.format with
  | none => exact Std.ExtTreeMap.getElem?_insert_self
  | some format =>
    exact (Std.ExtTreeMap.getElem?_insert.trans (if_neg (by decide))).trans Std.ExtTreeMap.getElem?_insert_self

theorem secretData_format (entry : BootstrapEntry) : entry.secretData["format"]? = entry.format := by
  unfold BootstrapEntry.secretData
  cases entry.format <;> simp

theorem bootstrapData_entry (secret : String) (entry : BootstrapEntry) :
    bootstrapData secret entry.secretData =
      if entry.format.all (· = "cloud-config") then .ok entry.value
      else .error (.unsupportedFormat (entry.format.getD "")) := by
  rw [bootstrapData, secretData_value, secretData_format]
  cases entry.format with
  | none => rfl
  | some format =>
    by_cases accepted : format = "cloud-config" <;> simp [Option.filter, accepted]

/-- The secret of a manifest that was entered says what its machine is made with: both ways fail where it
is of another format, and an empty cloud-config is none to a pass. -/
inductive Supplied (defaults : Defaults) (path : String) (manifest : Manifest) (w : World) : Prop
  | unsupplied {failure : Failure} {o : Outcome Failure (Option String)}
      (stops : machine defaults path manifest = .error failure)
      (read : cloudConfig (record defaults false manifest) w = (o, w))
      (unsupplied : o = .done none ∨ ∃ e, o = .failed e) (blank : manifest.isBlank = false)
  | blank
      (makes : machine defaults path manifest = .ok { manifest.spec defaults with userData := "" })
      (read : cloudConfig (record defaults false manifest) w = (.done none, w))
      (blank : manifest.isBlank = true)
  | given {text : String}
      (makes : machine defaults path manifest = .ok { manifest.spec defaults with userData := text })
      (read : cloudConfig (record defaults false manifest) w = (.done (some text), w))
      (blank : manifest.isBlank = false)

theorem supplied (path : String) (idle : w.storeFaults = [])
    (secrets : w.secrets = (enter defaults false manifest w).secrets) :
    Supplied defaults path manifest w := by
  cases there : manifest.bootstrap with
  | none =>
    have stops : machine defaults path manifest = .error (.noBootstrapData path) := by
      simp only [machine, there]
    have read : cloudConfig (record defaults false manifest) w = (.done none, w) := by
      simp only [cloudConfig, record, there]
      rfl
    exact .unsupplied stops read (.inl rfl) (by simp only [Manifest.isBlank, there, Option.any_none])
  | some entry =>
    have secret : w.secrets[manifest.secretName]? = some entry.secretData := by
      rw [secrets]
      simp [enter, there]
    have named : (record defaults false manifest).bootstrapSecret = some manifest.secretName := by
      simp only [record, there, Option.map_some]
    have entered := bootstrapData_entry manifest.secretName entry
    by_cases accepted : entry.format.all (· = "cloud-config") = true
    · rw [if_pos accepted] at entered
      have makes : machine defaults path manifest =
          .ok { manifest.spec defaults with userData := entry.value } := by
        simp only [machine, there, entered]
      have read := cloudConfig_ok idle named secret entered
      by_cases empty : entry.value = ""
      · rw [empty] at makes
        rw [if_pos empty] at read
        exact .blank makes read (by simp [Manifest.isBlank, there, empty, accepted])
      · rw [if_neg empty] at read
        exact .given makes read (by simp [Manifest.isBlank, there, empty])
    · rw [if_neg accepted] at entered
      have stops : machine defaults path manifest =
          .error (.error (.unsupportedFormat (entry.format.getD ""))) := by
        simp only [machine, there, entered]
      have read := cloudConfig_error idle named secret entered
      exact .unsupplied stops read (.inr ⟨_, rfl⟩) (by simp [Manifest.isBlank, there, accepted])

theorem create_stopped {settings : Settings} {path : String} {failure : Failure}
    (stops : machine settings.defaults path manifest = .error failure) :
    (create settings path manifest w).world = w := by
  simp only [create, stops, failed]

theorem create_makes {settings : Settings} {path : String} {spec : Spec}
    (makes : machine settings.defaults path manifest = .ok spec) :
    (create settings path manifest w).world = (Lifecycle.create spec w).2 := by
  simp only [create, makes, printingFirst, ofAction_world]

theorem turns_once (intervals : Intervals) (name : String) (ending : Duration → Line) (w : World) :
    (turns intervals name ending 0 w).world = (runPass intervals name w : Outcome Failure Next × World).2 := by
  unfold turns turn
  generalize (runPass intervals name w : Outcome Failure Next × World) = x
  obtain ⟨o, w'⟩ := x
  rcases o with (_ | _) | _ | _ <;> rfl

/-- A single pass ends on the host that the build of its machine leaves. -/
theorem single_pass_bare (patience : Nat) (settings : Settings) (unprobed : w.Unprobed)
    (bare : manifest.name ∉ w.host.domains) :
    ∃ w₁, w.Matches w₁ ∧ w₁.storeFaults = [] ∧
      w₁.secrets = (enter settings.defaults false manifest w₁).secrets ∧
      (reconcile patience settings false false manifest w).world.host =
        (build settings.intervals (record settings.defaults false manifest) w₁).2.host := by
  let entered := enter settings.defaults false manifest w
  let record := record settings.defaults false manifest
  have linked : Linked record.name entered record :=
    ⟨⟨⟨Std.ExtTreeMap.getElem?_insert_self, nofun⟩, rfl, rfl⟩, rfl⟩
  have reachable : entered.Unprobed := unprobed
  have missing : entered.host.domains[record.name]? = none := Std.ExtTreeMap.getElem?_eq_none bare
  obtain ⟨w₁, alike, idle, secrets, ended⟩ := runPass_bare (ε := Failure) linked rfl reachable missing
  refine ⟨w₁, ⟨alike.objects, alike.hostFaults⟩, idle, secrets, ?_⟩
  have once (ending : Duration → Line) :=
    congrArg World.host (turns_once settings.intervals manifest.name ending entered)
  exact (once _).trans ended

/-- For a machine that is not there, whichever calls fail for good, and whichever faults wait for a single
call but those that the probe of a pass would meet, the two ways of making the machine leave the same
domains and the same volumes in the same pools, unless its cloud-config is empty. Then a pass waits for
one, and the command makes the machine with what there is; the two agree only where it stops before it
changed anything. -/
theorem creations_agree_iff (settings : Settings) (path : String) (patience : Nat) (manifest : Manifest)
    (w : World) (unprobed : w.Unprobed) (bare : manifest.name ∉ w.host.domains) :
    let created := (create settings path manifest w).world.host
    let reconciled := (reconcile patience settings false false manifest w).world.host
    created.domains = reconciled.domains ∧ created.pools = reconciled.pools ↔
      (manifest.isBlank = true → created.domains = w.host.domains ∧ created.pools = w.host.pools) := by
  intro created reconciled
  obtain ⟨w₁, alike, idle, secrets, ended⟩ := single_pass_bare patience settings unprobed bare
  have ended : reconciled =
    (build settings.intervals (record settings.defaults false manifest) w₁).2.host := ended
  have untouched (same : reconciled = w₁.host) :
      reconciled.domains = w.host.domains ∧ reconciled.pools = w.host.pools := by
    rw [same]
    exact ⟨Host.domains_of_objects alike.objects, Host.pools_of_objects alike.objects⟩
  cases supplied path idle secrets with
  | unsupplied stops read unsupplied blank =>
    have same := untouched (ended.trans (build_unsupplied idle read unsupplied))
    have left : created = w.host := congrArg World.host (create_stopped stops)
    simp [left, same, blank]
  | blank makes read blank =>
    have same := untouched (ended.trans (build_unsupplied idle read (.inl rfl)))
    simp [same, blank]
  | @given text makes read blank =>
    have built := ended.trans (build_supplied idle read)
    have made : created = _ := congrArg World.host (create_makes makes)
    have both : (Lifecycle.create { manifest.spec settings.defaults with userData := text } w).2.Matches
        (Lifecycle.create { manifest.spec settings.defaults with userData := text } w₁).2 :=
      (steady_create (mirrored_matches manifest.name) (by rfl) alike).same.2
    have domains : reconciled.domains = created.domains := by
      rw [built, made]
      exact Host.domains_of_objects both.objects
    have pools : reconciled.pools = created.pools := by
      rw [built, made]
      exact Host.pools_of_objects both.objects
    simp [domains, pools, blank]

def small (value : String) : Manifest where
  name := "m"
  network := none
  storagePool := none
  cpu := 1
  memory := 1024
  diskSize := 10
  backingImagePath := "/images/base.qcow2"
  backingImageFormat := none
  bootstrap := some ⟨value, none⟩

theorem machine_small (defaults : Defaults) (path value : String) :
    machine defaults path (small value) = .ok { (small value).spec defaults with userData := value } := by
  simp [machine, small, bootstrapData_entry]

/-- The command without room for the image leaves the volume for it. -/
theorem cramped_created : (create .standard "m.yaml" (small "#cloud-config\n") cramped).world.host.has
    (.volume "default" "m-cloudinit.iso") = true := by
  let spec : Spec := { (small "#cloud-config\n").spec .standard with userData := "#cloud-config\n" }
  have starts : Starts spec cramped :=
    ⟨by decide, CloudInit.image_built (by decide) (by decide), by decide, by decide⟩
  have there : cramped.host.pools["default"]? = some ∅ := rfl
  obtain ⟨-, image, host⟩ := create_cut ⟨by decide, by decide⟩ starts
    there (by decide) (by decide) (by decide) (run_halves (Lifecycle.create spec) cramped)
  rw [create_makes (machine_small ..), ← Host.objects_has]
  exact (congrArg (Host.has · _) host).trans (Host.has_insert there _ _ _)

theorem creations_agree_iff_cramped :
    let created := (create .standard "m.yaml" (small "#cloud-config\n") cramped).world.host
    let reconciled := (reconcile 0 .standard false false (small "#cloud-config\n") cramped).world.host
    cramped.Unprobed ∧ "m" ∉ cramped.host.domains ∧
      created.domains = reconciled.domains ∧ created.pools = reconciled.pools ∧
      created.has (.volume "default" "m-cloudinit.iso") = true := by
  intro created reconciled
  have unprobed : cramped.Unprobed := by simp [World.Unprobed, cramped]
  have bare : "m" ∉ cramped.host.domains := by decide
  obtain ⟨domains, pools⟩ :=
    (creations_agree_iff .standard "m.yaml" 0 (small "#cloud-config\n") cramped unprobed bare).mpr (by decide)
  exact ⟨unprobed, bare, domains, pools, cramped_created⟩

/-- The command makes a machine with a cloud-config that is empty. -/
theorem blank_created : "m" ∈ (create .standard "m.yaml" (small "") .initial).world.host.domains := by
  let spec := (small "").spec .standard
  have missing : World.initial.host.domains[spec.name]? = none := rfl
  obtain ⟨o, w', made⟩ : ∃ o w', Lifecycle.create spec .initial = (o, w') := ⟨_, _, rfl⟩
  have creation := create_calm ⟨rfl, rfl, rfl, rfl⟩ missing (by decide) made
  rw [create_makes (machine_small ..)]
  change "m" ∈ (Lifecycle.create spec .initial).2.host.objects.domains
  rw [made]
  generalize w'.host.objects = left at creation ⊢
  cases creation with
  | misnamed long => exact absurd long (by decide)
  | unimaged short failed =>
    obtain ⟨image, built⟩ : ∃ image, CloudInit.image spec.name spec.userData = .ok image :=
      CloudInit.image_built (by decide) (by decide)
    cases built.symm.trans failed
  | unplaced short built absent => exact absurd absent (by decide)
  | garbled short built there corrupts => cases corrupts
  | started short built there intact => exact Std.ExtTreeMap.mem_insert_self

/-- It is not so that the two ways of making a machine that is not there agree for all manifests. -/
theorem blank_created_only : ¬ ∀ (settings : Settings) (path : String) (patience : Nat)
    (manifest : Manifest) (w : World), w.Unprobed → manifest.name ∉ w.host.domains →
    let created := (create settings path manifest w).world.host
    let reconciled := (reconcile patience settings false false manifest w).world.host
    created.domains = reconciled.domains ∧ created.pools = reconciled.pools := by
  intro claimed
  have same := (claimed .standard "m.yaml" 0 (small "") .initial nofun (by decide)).1
  have waits : "m" ∉ (reconcile 0 .standard false false (small "") .initial).world.host.domains := by
    decide +kernel
  rw [← same] at waits
  exact waits blank_created

end Run

end MachineKeeper
