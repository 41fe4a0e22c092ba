import MachineKeeper.Proofs.Reconcile

/-! What single operations do to connections. Each opens one at most and has it closed when it is over,
unless it overflows. -/
namespace MachineKeeper

/-- No fault that waits makes it fail to close a connection. -/
def World.Closes (w : World) : Prop := ∀ f ∈ w.hostFaults, f.site = .disconnect → f.error? = none

/-- The host counts the same connections. -/
structure Host.SameCounts (h h' : Host) : Prop where
  connections : h'.connections = h.connections
  openConnections : h'.openConnections = h.openConnections

namespace Host

variable {ε : Type} {h h' h'' : Host}

theorem sameCounts_refl (h : Host) : SameCounts h h := ⟨rfl, rfl⟩

theorem SameCounts.trans (first : SameCounts h h') (second : SameCounts h' h'') : SameCounts h h'' where
  connections := second.connections.trans first.connections
  openConnections := second.openConnections.trans first.openConnections

theorem answer_counts (h : Host) (r : Request) : SameCounts h (h.answer r).2 := by
  cases r <;> simp only [answer, withDomain, withPool, withVolume] <;> (repeat' split) <;> exact ⟨rfl, rfl⟩

theorem serve_counts (h : Host) (r : Request) : SameCounts h (h.serve r).2 := by
  unfold serve
  split
  · exact sameCounts_refl h
  · exact answer_counts h r

theorem change_counts (h : Host) (c : Change) : SameCounts h (h.change c : Outcome ε Unit × Host).2 := by
  cases c <;> simp only [change, updateDomain, setPool] <;> (repeat' split) <;> exact ⟨rfl, rfl⟩

theorem changes_ends (changes : List Change) (h : Host) (e : ε) :
    (h.changes changes : Outcome ε Unit × Host).1 ≠ .failed e := by
  induction changes generalizing h with
  | nil => simp [Host.changes]
  | cons c rest ih =>
    have ends : (h.change c : Outcome ε Unit × Host).1 ≠ .failed e := by
      cases c <;> simp only [change] <;> (repeat' split) <;> simp
    unfold Host.changes
    split
    next h₁ _ => exact ih h₁
    next => exact ends

theorem fire_ends {Site : Type} {faults : List (Fault Site ε)} (inert : ∀ f ∈ faults, f.error? = none)
    (h : Host) (e : ε) : (Fault.fire faults h).1 ≠ .failed e := by
  induction faults generalizing h with
  | nil => simp [Fault.fire]
  | cons f rest ih =>
    unfold Fault.fire
    split
    next h₁ _ =>
      rw [inert f List.mem_cons_self]
      exact ih (fun g member => inert g (List.mem_cons_of_mem _ member)) h₁
    next e' h₁ failed => exact absurd (congrArg (·.1) failed) (changes_ends f.changes h e')
    next => simp

theorem fire_counts {Site : Type} (faults : List (Fault Site ε)) (h : Host) :
    SameCounts h (Fault.fire faults h).2 :=
  Fault.fire_keeps (fun _ _ c _ h₁ same => same.trans (change_counts h₁ c)) (sameCounts_refl h)

end Host

namespace Session

open MachineKeeper.Action Host

variable {ε α : Type} {w w' : World}

/-- How many of the connections that were opened in some events are open behind them; the latest event
comes first. -/
def held : List Event → Int
  | [] => 0
  | .connect true :: past => held past + 1
  | .disconnect :: past => held past - 1
  | _ :: past => held past

/-- How many connections were opened in some events. -/
def opened (events : List Event) : Nat := events.countP fun
  | .connect accepted => accepted
  | _ => false

theorem held_append (late early : List Event) : held (late ++ early) = held late + held early := by
  induction late with
  | nil => simp [held]
  | cons e late ih =>
    rcases e with (_ | _) | _ | _ <;> simp only [List.cons_append, held, ih] <;> omega

theorem held_le_opened (events : List Event) : held events ≤ opened events := by
  induction events with
  | nil => exact Int.le_refl 0
  | cons e events ih =>
    rcases e with (_ | _) | _ | _ <;> simp [held, opened] at ih ⊢ <;> omega

theorem opened_append (late early : List Event) : opened (late ++ early) = opened late + opened early :=
  List.countP_append

theorem opened_suffix {past events : List Event} (earlier : past <:+ events) : opened past ≤ opened events :=
  earlier.sublist.countP_le

/-- An event that is a request. -/
def Event.IsRequest : Event → Prop
  | .request _ _ _ => True
  | _ => False

/-- What requests leave: they open no connection and close none. -/
structure Uses (w w' : World) : Prop where
  counts : SameCounts w.host w'.host
  closes : w.Closes → w'.Closes
  requests : Logs Event.IsRequest w w'

theorem uses_frame : Frame Uses where
  refl w := ⟨sameCounts_refl _, id, logs_frame.refl w⟩
  trans first second := ⟨first.counts.trans second.counts, second.closes ∘ first.closes,
    logs_frame.trans first.requests second.requests⟩

theorem SameStore.closes (same : SameStore w w') (closes : w.Closes) : w'.Closes := by
  intro g member atSite
  obtain ⟨f, there, site, error, _⟩ := same.hostFaults g member
  rw [error]
  exact closes f there (site ▸ atSite)

theorem meetFaults_counts (site : HostSite) (w : World) :
    SameCounts w.host (meetFaults site w).2.host :=
  fire_counts _ w.host

theorem send_uses (r : Request) : (send r).Keeps Uses := by
  intro w
  obtain ⟨reached, noted⟩ := send_noted r w
  refine ⟨?_, noted.toSameStore.closes, .one noted.log trivial⟩
  have met := meetFaults_counts (.call r.call) w
  unfold send
  split
  next w₁ same =>
    rw [same] at met
    exact met
  next w₁ same =>
    rw [same] at met
    exact met
  next w₁ same =>
    rw [same] at met
    exact met.trans (serve_counts _ r)

/-- Requests are neither opened nor closed connections. -/
theorem requests_count {events : List Event} (requests : ∀ e ∈ events, Event.IsRequest e) :
    held events = 0 ∧ opened events = 0 := by
  induction events with
  | nil => exact ⟨rfl, rfl⟩
  | cons e events ih =>
    have rest := ih fun e member => requests e (List.mem_cons_of_mem _ member)
    have first := requests e List.mem_cons_self
    cases e with
    | request => exact rest
    | connect => exact first.elim
    | disconnect => exact first.elim

/-- What an operation leaves that opens one connection at most: unless it overflowed, everything that was
opened is closed again. -/
structure Visits (overran : Prop) (w w' : World) : Prop where
  closes : w'.Closes
  settled : ¬ overran → w'.host.openConnections = w.host.openConnections
  bounds : w.host.openConnections ≤ w'.host.openConnections ∧
    w'.host.openConnections ≤ w.host.openConnections + 1
  log : ∃ events, w'.log = events ++ w.log ∧ opened events ≤ 1 ∧
    w'.host.connections = w.host.connections + opened events ∧ 0 ≤ held events ∧
    (¬ overran → held events = 0)

theorem visits_refl (closes : w.Closes) (overran : Prop) : Visits overran w w where
  closes := closes
  settled _ := rfl
  bounds := ⟨Nat.le_refl _, Nat.le_succ _⟩
  log := ⟨[], rfl, Nat.zero_le 1, rfl, Int.le_refl 0, fun _ => rfl⟩

theorem connect_refused_counts {o : Outcome Error Unit} (run : connect w = (o, w'))
    (refused : o.isDone = false) : SameCounts w.host w'.host := by
  have met := meetFaults_counts .connect w
  unfold connect at run
  split at run
  next same =>
    rw [same] at met
    obtain ⟨-, rfl⟩ := Prod.mk.inj run
    exact met
  next same =>
    rw [same] at met
    obtain ⟨-, rfl⟩ := Prod.mk.inj run
    exact met
  next same =>
    rw [same] at met
    split at run <;> obtain ⟨rfl, rfl⟩ := Prod.mk.inj run
    · exact met
    · cases refused

theorem connect_done_counts (run : connect w = (.done (), w')) :
    w'.host.connections = w.host.connections + 1 ∧
    w'.host.openConnections = w.host.openConnections + 1 := by
  have met := meetFaults_counts .connect w
  unfold connect at run
  split at run
  next => cases (Prod.mk.inj run).1
  next => cases (Prod.mk.inj run).1
  next same =>
    rw [same] at met
    split at run
    · cases (Prod.mk.inj run).1
    · obtain ⟨-, rfl⟩ := Prod.mk.inj run
      exact ⟨congrArg (· + 1) met.connections, congrArg (· + 1) met.openConnections⟩

theorem disconnect_counts {d : Outcome HostError Unit} (closes : w.Closes) (run : disconnect w = (d, w')) :
    w'.host.connections = w.host.connections ∧
    (w'.host.openConnections = w.host.openConnections - 1 ∨
      d = .overflow ∧ w'.host.openConnections = w.host.openConnections) := by
  have met := meetFaults_counts .disconnect w
  have inert : ∀ f ∈ Fault.due .disconnect w.hostFaults, f.error? = none :=
    fun f due => closes f (Fault.mem_due due).1 (Fault.mem_due due).2
  unfold disconnect at run
  split at run
  next same =>
    rw [same] at met
    obtain ⟨-, rfl⟩ := Prod.mk.inj run
    exact ⟨met.connections, .inl (congrArg (· - 1) met.openConnections)⟩
  next o w₁ notDone same =>
    rw [same] at met
    obtain ⟨rfl, rfl⟩ := Prod.mk.inj run
    refine ⟨met.connections, .inr ⟨?_, met.openConnections⟩⟩
    cases o with
    | done => exact absurd rfl notDone
    | failed e => exact absurd (congrArg (·.1) same) (fire_ends inert w.host e)
    | overflow => rfl

theorem connect_closes (closes : w.Closes) : (connect w).2.Closes := by
  obtain ⟨_, noted⟩ := connect_noted w
  exact noted.toSameStore.closes closes

theorem connected_visits {body : Action Error α} {o : Outcome Error α} (uses : body.Keeps Uses)
    (closes : w.Closes) (run : connected body w = (o, w')) : Visits (o = .overflow) w w' := by
  rcases connected_ways run with ⟨o₁, refused, run, _⟩ | ⟨w₁, o₁, w₂, run, ran, ended⟩
  · have counts := connect_refused_counts run refused
    have log := connect_log run
    rw [refused] at log
    have same := counts.openConnections
    have closes' := connect_closes closes
    rw [run] at closes'
    exact ⟨closes', fun _ => same, by omega, [.connect false], log, by decide, counts.connections,
      by decide, fun _ => rfl⟩
  · obtain ⟨more, stillMore⟩ := connect_done_counts run
    have log := connect_log run
    have closes₁ := connect_closes closes
    rw [run] at closes₁
    have used := uses.of_run ran
    obtain ⟨events, log₂, requests⟩ := used.requests
    obtain ⟨heldNone, openedNone⟩ := requests_count requests
    have connections := used.counts.connections
    have openConnections := used.counts.openConnections
    have opening : w₂.log = (events ++ [.connect true]) ++ w.log := by
      rw [log₂, log, List.append_assoc]
      rfl
    have heldOne : held (events ++ [.connect true]) = 1 := by
      rw [held_append, heldNone]
      rfl
    have openedOne : opened (events ++ [.connect true]) = 1 := by
      rw [opened_append, openedNone]
      rfl
    rcases ended with ⟨rfl, overran⟩ | ⟨rfl, ended⟩
    · exact ⟨used.closes closes₁, fun ended => absurd overran ended, by omega, _, opening, by omega,
        by omega, by omega, fun ended => absurd overran ended⟩
    · obtain ⟨sameConnections, shut⟩ := disconnect_counts (used.closes closes₁) (run_halves disconnect w₂)
      have noted := disconnect_noted w₂
      have heldNow : held (.disconnect :: (events ++ [.connect true])) = 0 := by
        rw [held, heldOne]
        rfl
      refine ⟨noted.toSameStore.closes (used.closes closes₁), fun returned => ?_, ?_,
        .disconnect :: (events ++ [.connect true]), ?_, ?_, ?_, ?_, fun _ => heldNow⟩
      · rcases shut with shut | ⟨overran, _⟩
        · omega
        · rcases ended with ⟨_, through⟩ | overran'
          · exact absurd overran through
          · exact absurd overran' returned
      · omega
      · rw [noted.log, opening]
        rfl
      · exact Nat.le_of_eq openedOne
      · rw [sameConnections, connections, more]
        exact congrArg (_ + ·) openedOne.symm
      · omega

/-- Whatever is made of the end of an operation, as long as an overflow stays one. -/
theorem Visits.mono {overran overran' : Prop} (visits : Visits overran w w') (same : overran → overran') :
    Visits overran' w w' := by
  obtain ⟨events, log, once, connections, some, none⟩ := visits.log
  exact ⟨visits.closes, fun ended => visits.settled (mt same ended), visits.bounds, events, log, once,
    connections, some, fun ended => none (mt same ended)⟩

end Session

namespace Lifecycle

open Session MachineKeeper.Action

section
variable {R : World → World → Prop} (frame : Frame R) (sends : ∀ r, (send r).Keeps R)
include frame sends

theorem deleteIfThere_sends (pool volume : String) : (deleteIfThere pool volume).Keeps R := by
  apply frame.bind (sends _).attempt
  rintro (_ | _)
  · exact frame.pure ()
  · exact frame.bind (sends _).attempt fun _ => frame.pure ()

theorem createSeedVolume_sends (pool volume : String) (image : Bytes) :
    (createSeedVolume pool volume image).Keeps R := by
  apply frame.bind (deleteIfThere_sends frame sends pool volume)
  intro _
  apply frame.bind ((sends _).mapError _)
  intro path
  apply frame.bind ((sends _).mapError _)
  intro _
  apply frame.bind ((sends _).mapError _)
  intro content
  split
  · exact frame.fail _
  · exact frame.pure path

theorem createDiskVolume_sends (spec : Spec) : (createDiskVolume spec).Keeps R := by
  apply frame.bind (deleteIfThere_sends frame sends _ _)
  intro _
  exact (sends _).mapError _

theorem provision_sends (spec : Spec) (image : Bytes) : (provision spec image).Keeps R := by
  apply frame.bind ((sends _).mapError _)
  intro _
  apply frame.bind (createSeedVolume_sends frame sends _ _ image)
  intro seedPath
  apply frame.bind (createDiskVolume_sends frame sends spec)
  intro diskPath
  apply frame.bind ((sends _).mapError _)
  intro _
  exact (sends _).mapError _

theorem readLeases_sends (name : String) : (readLeases name).Keeps R := by
  apply frame.bind ((sends _).mapError _)
  intro state
  split
  · exact frame.fail _
  · apply frame.bind (sends _).attempt
    rintro (_ | _) <;> exact frame.pure _

theorem deleteVolumes_sends (pool : String) (names : Names) : (deleteVolumes pool names).Keeps R := by
  apply frame.bind (sends _).attempt
  rintro (_ | _)
  · exact frame.pure ()
  · apply frame.bind (sends _).attempt
    intro _
    apply frame.bind (deleteIfThere_sends frame sends _ _)
    intro _
    apply frame.bind (deleteIfThere_sends frame sends _ _)
    intro _
    exact frame.bind (sends _).attempt fun _ => frame.pure ()

theorem teardown_sends (name pool : String) : (teardown name pool).Keeps R := by
  have undefines : (undefine name pool).Keeps R :=
    frame.bind ((sends _).mapError _) fun _ => deleteVolumes_sends frame sends pool (.of name)
  apply frame.bind (sends _).attempt
  rintro (e | state)
  · dsimp only
    split
    · exact frame.pure ()
    · exact frame.fail _
  · dsimp only
    split
    · exact frame.bind ((sends _).mapError _) fun _ => undefines
    · exact undefines

end

/-- What can be done with a machine on its host. -/
inductive Operation
  | isDefined (name : String)
  | isInSync (spec : Spec)
  | isRunning (name : String)
  | addresses (name : String)
  | create (spec : Spec)
  | destroy (name pool : String)

namespace Operation

def run : Operation → Action Error Unit
  | isDefined name => (fun _ => ()) <$> Lifecycle.isDefined name
  | isInSync spec => (fun _ => ()) <$> Lifecycle.isInSync spec
  | isRunning name => (fun _ => ()) <$> Lifecycle.isRunning name
  | addresses name => (fun _ => ()) <$> Lifecycle.addresses name
  | create spec => (fun _ => ()) <$> Lifecycle.create spec
  | destroy name pool => (fun _ => ()) <$> Lifecycle.destroy name pool

end Operation

/-- An operation opens one connection at most, and closes it unless it overflows. -/
def Visiting {ε α : Type} (m : Action ε α) : Prop :=
  ∀ ⦃w w' : World⦄ ⦃o : Outcome ε α⦄, w.Closes → m w = (o, w') → Visits (o = .overflow) w w'

variable {ε α β : Type}

theorem Visiting.map {m : Action ε α} (visiting : Visiting m) (f : α → β) : Visiting (f <$> m) := by
  intro w w' o closes run
  rw [map_run] at run
  split at run
  next ran =>
    obtain ⟨rfl, rfl⟩ := Prod.mk.inj run
    exact (visiting closes ran).mono (by simp)
  next ran =>
    obtain ⟨rfl, rfl⟩ := Prod.mk.inj run
    exact (visiting closes ran).mono (by simp)
  next ran =>
    obtain ⟨rfl, rfl⟩ := Prod.mk.inj run
    exact (visiting closes ran).mono fun _ => rfl

theorem visiting_connected {body : Action Error α} (uses : body.Keeps Uses) : Visiting (connected body) :=
  fun _ _ _ closes run => connected_visits uses closes run

theorem visiting_holds {question : Action Error α} (visiting : Visiting question) (test : α → Bool) :
    Visiting (holds question test : Action ε Bool) := by
  intro w w' o closes run
  rcases holds_cases run with ⟨_, ran, rfl⟩ | ⟨_, ran, rfl⟩ | ⟨ran, rfl⟩
  · exact (visiting closes ran).mono (by simp)
  · exact (visiting closes ran).mono (by simp)
  · exact (visiting closes ran).mono fun _ => rfl

theorem visiting_create (spec : Spec) : Visiting (create spec) := by
  intro w w' o closes run
  unfold create at run
  split at run
  · obtain ⟨-, rfl⟩ := Prod.mk.inj run
    exact visits_refl closes _
  · cases built : CloudInit.image spec.name spec.userData with
    | error e =>
      rw [built] at run
      obtain ⟨-, rfl⟩ := Prod.mk.inj run
      exact visits_refl closes _
    | ok image =>
      rw [built] at run
      exact connected_visits ((provision_sends uses_frame send_uses spec image).mapError _) closes run

theorem operation_visiting (op : Operation) : Visiting op.run := by
  have asks (context : String) (r : Request) : Visiting (connected (ask context r)) :=
    visiting_connected ((send_uses r).mapError _)
  cases op with
  | isDefined name => exact (visiting_holds (asks _ _) _).map _
  | isInSync spec => exact (visiting_holds (asks _ _) _).map _
  | isRunning name => exact (visiting_holds (asks _ _) _).map _
  | addresses name =>
    exact (visiting_connected (readLeases_sends uses_frame send_uses name)).map _
  | create spec => exact (visiting_create spec).map _
  | destroy name pool =>
    exact (visiting_connected (teardown_sends uses_frame send_uses name pool)).map _

end Lifecycle

end MachineKeeper
