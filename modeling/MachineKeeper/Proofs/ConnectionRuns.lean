import MachineKeeper.Proofs.Connections

/-! Connections are given back. Over any run of operations and passes no more than one of those that were
opened is open at a time, but for those that overflows left behind. -/
namespace MachineKeeper

namespace Lifecycle

open Session MachineKeeper.Action

variable {w w' : World} {n : Nat}

/-- What happens between operations: anything that neither opens a connection nor closes one. -/
structure Aside (w w' : World) : Prop where
  counts : Host.SameCounts w.host w'.host
  closes : w.Closes → w'.Closes
  log : w'.log = w.log

/-- The worlds that operations lead to with anything else in between, of which so many overflowed. -/
inductive Manages : Nat → World → World → Prop
  | start (w : World) : Manages 0 w w
  | ended {w w₁ : World} {n : Nat} {op : Operation} (before : Manages n w w₁)
      (ends : (op.run w₁).1 ≠ .overflow) : Manages n w (op.run w₁).2
  | overran {w w₁ : World} {n : Nat} {op : Operation} (before : Manages n w w₁)
      (stops : (op.run w₁).1 = .overflow) : Manages (n + 1) w (op.run w₁).2
  | aside {w w₁ w₂ : World} {n : Nat} (before : Manages n w w₁) (aside : Aside w₁ w₂) : Manages n w w₂

theorem Manages.trans {w₁ : World} {m : Nat} (first : Manages n w w₁) (second : Manages m w₁ w') :
    Manages (n + m) w w' := by
  induction second with
  | start => exact first
  | ended _ ends ih => exact .ended (ih first) ends
  | overran _ stops ih => exact .overran (ih first) stops
  | aside _ aside ih => exact .aside (ih first) aside

/-- Of all that was opened so many connections are still open at most, and one more at any moment. -/
structure Accounts (left : Nat) (w w' : World) : Prop where
  closes : w'.Closes
  bounds : w.host.openConnections ≤ w'.host.openConnections ∧
    w'.host.openConnections ≤ w.host.openConnections + left
  log : ∃ events, w'.log = events ++ w.log ∧ 0 ≤ held events ∧ held events ≤ left ∧
    ∀ past, past <:+ events → held past ≤ left + 1

theorem accounts_refl (closes : w.Closes) : Accounts 0 w w where
  closes := closes
  bounds := ⟨Nat.le_refl _, Nat.le_refl _⟩
  log := ⟨[], rfl, Int.le_refl 0, Int.le_refl 0, fun past earlier => by simp [List.suffix_nil.mp earlier, held]⟩

theorem suffix_append_cases {past late early : List Event} (earlier : past <:+ late ++ early) :
    past <:+ early ∨ ∃ part, part <:+ late ∧ past = part ++ early := by
  rcases List.suffix_or_suffix_of_suffix earlier (List.suffix_append late early) with inside | ⟨part, rfl⟩
  · exact .inl inside
  · exact .inr ⟨part, List.suffix_append_self_iff.mp earlier, rfl⟩

/-- An operation adds what it left open to what was open, and nothing beyond that for longer than it lasts. -/
theorem Accounts.behind {overran : Prop} {w₁ : World} {more : Nat} (before : Accounts n w w₁)
    (visits : Visits overran w₁ w') (ends : more = 0 ∧ ¬ overran ∨ more = 1) : Accounts (n + more) w w' := by
  obtain ⟨early, log, some, atMost, moments⟩ := before.log
  obtain ⟨late, log', once, _, some', settled⟩ := visits.log
  have heldLate : held late ≤ more := by
    have := held_le_opened late
    rcases ends with ⟨rfl, ended⟩ | rfl
    · exact Int.le_of_eq (settled ended)
    · omega
  have openLate : w'.host.openConnections ≤ w₁.host.openConnections + more := by
    rcases ends with ⟨rfl, ended⟩ | rfl
    · exact Nat.le_of_eq (visits.settled ended)
    · exact visits.bounds.2
  have opening := before.bounds
  have closing := visits.bounds
  refine ⟨visits.closes, by omega, late ++ early, by rw [log', log, List.append_assoc], ?_, ?_, ?_⟩
  · rw [held_append]
    omega
  · rw [held_append]
    omega
  · intro past moment
    rcases suffix_append_cases moment with inside | ⟨part, within, rfl⟩
    · have := moments past inside
      omega
    · have held := held_le_opened part
      have opened := opened_suffix within
      rw [held_append]
      omega

theorem Manages.accounts (manages : Manages n w w') (closes : w.Closes) : Accounts n w w' := by
  induction manages with
  | start w => exact accounts_refl closes
  | @ended _ w₁ _ op _ ends ih =>
    have visits := operation_visiting op (ih closes).closes (run_halves op.run w₁)
    exact (ih closes).behind visits (.inl ⟨rfl, ends⟩)
  | @overran _ w₁ _ op _ _ ih =>
    have visits := operation_visiting op (ih closes).closes (run_halves op.run w₁)
    exact (ih closes).behind visits (.inr rfl)
  | aside _ aside ih =>
    have before := ih closes
    have same := aside.counts.openConnections
    have bounds := before.bounds
    obtain ⟨events, log, account⟩ := before.log
    exact ⟨aside.closes before.closes, by omega, events, aside.log.trans log, account⟩

end Lifecycle

namespace Reconcile

open Session Lifecycle Store MachineKeeper.Action

variable {ε α β : Type} {w w' : World}

theorem aside_frame : Frame Aside where
  refl _ := ⟨Host.sameCounts_refl _, id, rfl⟩
  trans first second := ⟨first.counts.trans second.counts, second.closes ∘ first.closes,
    second.log.trans first.log⟩

/-- What goes through the store has nothing to do with connections, whatever happens there behind the
back of a pass. -/
theorem aside_store : StoreFrame Aside where
  toFrame := aside_frame
  faults _ w := ⟨Host.fire_counts _ w.host, id, rfl⟩
  write _ := ⟨Host.sameCounts_refl _, id, rfl⟩

/-- The end of an operation that goes no further: with an error, or with an overflow. -/
def stopped (stop : Option ε) : Outcome ε α :=
  match stop with
  | some e => .failed e
  | none => .overflow

/-- What is done consists of operations, of which none overflows before the last; where that does, the
whole stops in the way that `stop` says. -/
def Conducts (stop : Option ε) (m : Action ε α) : Prop :=
  ∀ w, Manages 0 w (m w).2 ∨ Manages 1 w (m w).2 ∧ (m w).1 = stopped stop

variable {stop : Option ε} {m : Action ε α}

theorem conducts_aside (kept : m.Keeps Aside) : Conducts stop m :=
  fun w => .inl (.aside (.start w) (kept w))

theorem Conducts.bind {f : α → Action ε β} (first : Conducts stop m) (rest : ∀ a, Conducts stop (f a)) :
    Conducts stop (m >>= f) := by
  intro w
  have before := first w
  rw [bind_run]
  split
  next a w₁ run =>
    rw [run] at before
    rcases before with way | ⟨_, ended⟩
    · rcases rest a w₁ with later | ⟨later, ended⟩
      · exact .inl (way.trans later)
      · exact .inr ⟨way.trans later, ended⟩
    · cases stop <;> cases ended
  next e w₁ run =>
    rw [run] at before
    refine before.imp id (And.imp id fun ended => ?_)
    cases stop <;> cases ended
    rfl
  next w₁ run =>
    rw [run] at before
    refine before.imp id (And.imp id fun ended => ?_)
    cases stop <;> cases ended
    rfl

theorem Conducts.map (conducts : Conducts stop m) (f : α → β) : Conducts stop (f <$> m) :=
  conducts.bind fun _ => conducts_aside (aside_frame.pure _)

theorem conducts_operation {m : Action Error α} (op : Operation) (same : op.run = (fun _ => ()) <$> m) :
    Conducts none m := by
  intro w
  have world : (op.run w).2 = (m w).2 := by rw [same, map_world]
  have ended : (op.run w).1 = .overflow ↔ (m w).1 = .overflow := by
    rw [same, map_run]
    split <;> next run => simp [run]
  rw [← world]
  by_cases overran : (op.run w).1 = .overflow
  · exact .inr ⟨.overran (.start w) overran, ended.mp overran⟩
  · exact .inl (.ended (.start w) overran)

theorem conducts_apart {m : Action Error α} (conducts : Conducts none m) (report : Error → Failure) :
    Conducts (some .overflow) (apart report m) := by
  intro w
  have before := conducts w
  unfold apart
  split
  next run =>
    rw [run] at before
    exact before.imp id (And.imp id (by simp [stopped]))
  next run =>
    rw [run] at before
    exact before.imp id (And.imp id (by simp [stopped]))
  next run =>
    rw [run] at before
    exact before.imp id (And.imp id fun _ => rfl)

variable {name : String} {record : Record} {intervals : Intervals}

theorem conducts_report {patch : Status → Status} (patches : Status.Patch name patch) (next : Next) :
    Conducts (some Failure.overflow) (do publish name patch; return next : Action Failure Next) :=
  conducts_aside (report_keeps aside_store patches next)

theorem conducts_remove (record : Record) : Conducts (some .overflow) (remove record) := by
  rw [remove_eq]
  apply Conducts.bind (conducts_aside (publish_keeps aside_store (.moved (by decide))))
  intro _
  have ejects : Conducts (some .overflow) (eject record) := by
    apply Conducts.bind (conducts_apart (conducts_operation (.isDefined record.name) rfl) _)
    intro found
    cases found with
    | false => exact conducts_aside (aside_frame.pure ())
    | true => exact conducts_apart (conducts_operation (.destroy record.name record.spec.storagePool) rfl) _
  exact ejects.bind fun _ => conducts_aside (letGo_keeps aside_store record)

theorem conducts_build (intervals : Intervals) (record : Record) :
    Conducts (some .overflow) (build intervals record) := by
  apply Conducts.bind (conducts_aside (cloudConfig_keeps aside_frame aside_store.secret record))
  intro text
  cases text with
  | none => exact conducts_report (.moved (by decide)) _
  | some userData =>
    apply Conducts.bind (conducts_apart (conducts_operation (.create { record.spec with userData }) rfl) _)
    exact fun _ => conducts_report (.moved (by decide)) _

theorem conducts_observe (intervals : Intervals) (record : Record) :
    Conducts (some .overflow) (observe intervals record) := by
  apply Conducts.bind (conducts_apart (conducts_operation (.isRunning record.name) rfl) _)
  intro running
  cases running with
  | false => exact conducts_report .halted _
  | true =>
    apply Conducts.bind (conducts_apart (conducts_operation (.addresses record.name) rfl) _)
    intro addresses
    split
    next => exact conducts_report .unreached _
    next leased => exact conducts_report (.ready (by simpa using leased)) _

theorem conducts_discard (intervals : Intervals) (record : Record) :
    Conducts (some .overflow) (discard intervals record) := by
  apply Conducts.bind
    (conducts_apart (conducts_operation (.destroy record.name record.spec.storagePool) rfl) _)
  exact fun _ => conducts_report (.cleared (by decide)) _

theorem conducts_probe (spec : Spec) : Conducts none (probe spec : Action Error (Bool × Bool)) := by
  apply Conducts.bind (conducts_operation (.isDefined spec.name) rfl)
  intro found
  cases found with
  | false => exact conducts_aside (aside_frame.pure _)
  | true => exact (conducts_operation (.isInSync spec) rfl).map _

theorem conducts_step (intervals : Intervals) (record : Record) :
    Conducts (some .overflow) (step intervals record) := by
  unfold step
  dsimp only
  split
  · exact conducts_aside (aside_frame.pure _)
  split
  · exact conducts_report (.moved (by decide)) _
  split
  · exact conducts_remove record
  split
  · exact conducts_report (.moved (by decide)) _
  · apply Conducts.bind (conducts_apart (conducts_probe record.spec) _)
    rintro ⟨found, sync⟩
    cases found with
    | false => exact conducts_build intervals record
    | true =>
      cases sync with
      | false => exact conducts_discard intervals record
      | true => exact conducts_observe intervals record

/-- A pass consists of operations. If one overflows, it is the last, and the pass fails with that. -/
theorem conducts_reconcile (intervals : Intervals) (name : String) :
    Conducts (some .overflow) (reconcile intervals name) := by
  apply Conducts.bind (conducts_aside (aside_store.get name))
  intro found
  cases found with
  | none => exact conducts_aside (aside_frame.pure _)
  | some record => exact conducts_step intervals record

end Reconcile

open Lifecycle Session Reconcile

variable {w w₁ : World} {n : Nat}

/-- Over any run of operations and passes, with any calls made to fail but those that close a connection,
and with anything done in between, connections are given back. At no moment are more of those open that
were opened than one and one for each overflow; an operation that ends leaves as many open as it found,
and opens one at most; and a pass goes on with the run. -/
theorem connections_return (closes : w.Closes) (run : Manages n w w₁) :
    (∃ events, w₁.log = events ++ w.log ∧ ∀ past, past <:+ events → held past ≤ n + 1) ∧
    (w.host.openConnections ≤ w₁.host.openConnections ∧
      w₁.host.openConnections ≤ w.host.openConnections + n) ∧
    (∀ op : Operation,
      ((op.run w₁).1 ≠ .overflow → (op.run w₁).2.host.openConnections = w₁.host.openConnections) ∧
      ∃ events, (op.run w₁).2.log = events ++ w₁.log ∧ opened events ≤ 1 ∧
        (op.run w₁).2.host.connections = w₁.host.connections + opened events) ∧
    ∀ intervals name, Manages n w (reconcile intervals name w₁).2 ∨
      Manages (n + 1) w (reconcile intervals name w₁).2 ∧
        (reconcile intervals name w₁).1 = .failed .overflow := by
  have accounts := run.accounts closes
  refine ⟨?_, accounts.bounds, fun op => ?_, fun intervals name => ?_⟩
  · obtain ⟨events, log, _, _, moments⟩ := accounts.log
    exact ⟨events, log, moments⟩
  · have visits := operation_visiting op accounts.closes (Action.run_halves op.run w₁)
    obtain ⟨events, log, once, connections, _⟩ := visits.log
    exact ⟨visits.settled, events, log, once, connections⟩
  · rcases conducts_reconcile intervals name w₁ with way | ⟨way, overran⟩
    · exact .inl (run.trans way)
    · exact .inr ⟨run.trans way, overran⟩

/-- A world in which the next question for a domain's state fails. -/
def World.deaf : World :=
  { World.initial with
    hostFaults := [⟨.call .domainState, 1, some (.call (.injected .domainState)), []⟩] }

/-- The addresses of a machine are asked for in vain, and the connection is closed all the same. -/
theorem connections_return_failed_call : World.deaf.Closes ∧
    Manages 0 World.deaf ((Operation.addresses "m").run World.deaf).2 ∧
    ((Operation.addresses "m").run World.deaf).1.isDone = false ∧
    ((Operation.addresses "m").run World.deaf).2.host.connections = 1 ∧
    ((Operation.addresses "m").run World.deaf).2.host.openConnections = 0 := by
  have closes : World.deaf.Closes := by simp [World.Closes, World.deaf]
  have run : Manages 0 World.deaf ((Operation.addresses "m").run World.deaf).2 :=
    .ended (.start _) (by decide +kernel)
  have bounds := (connections_return closes run).2.1
  have shut : World.deaf.host.openConnections = 0 := rfl
  exact ⟨closes, run, by decide +kernel, by decide +kernel, by omega⟩

end MachineKeeper
