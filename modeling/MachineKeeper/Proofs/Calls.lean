import MachineKeeper.Proofs.Session

/-! Which calls get through. The faults that wait at the start say of every later call whether it is
made to fail; each call at a site brings the faults of that site one call nearer. -/
namespace MachineKeeper

namespace World

variable {w w' : World} {site s : HostSite} {n : Nat}

/-- The `n`-th call to come at `site` is made to fail. -/
def Fails (w : World) (site : HostSite) (n : Nat) : Prop :=
  ∃ f ∈ w.hostFaults, f.site = site ∧ max f.countdown 1 = n ∧ f.error?.isSome

/-- The `n`-th request of a kind to come is answered by the host. -/
def Hears (w : World) (call : Call) (n : Nat) : Prop :=
  call ∉ w.host.failing ∧ ¬ w.Fails (.call call) n

/-- The next connection is accepted. -/
def Admits (w : World) : Prop := w.host.refusesConnections = false ∧ ¬ w.Fails .connect 1

instance (w : World) (site : HostSite) (n : Nat) : Decidable (w.Fails site n) :=
  inferInstanceAs (Decidable (∃ f ∈ w.hostFaults, f.site = site ∧ max f.countdown 1 = n ∧ f.error?.isSome))

instance (w : World) (call : Call) (n : Nat) : Decidable (w.Hears call n) :=
  inferInstanceAs (Decidable (call ∉ w.host.failing ∧ ¬ w.Fails (.call call) n))

instance (w : World) : Decidable w.Admits :=
  inferInstanceAs (Decidable (w.host.refusesConnections = false ∧ ¬ w.Fails .connect 1))

theorem hears_of_calm (faults : w.hostFaults = []) (able : w.host.failing = []) (call : Call) (n : Nat) :
    w.Hears call n := by
  simp [Hears, Fails, faults, able]

theorem admits_of_calm (faults : w.hostFaults = []) (accepts : w.host.refusesConnections = false) :
    w.Admits := by
  simp [Admits, Fails, faults, accepts]

theorem fails_remaining (after : w'.hostFaults = Fault.remaining site w.hostFaults)
    (later : 0 < n) : w'.Fails s n ↔ w.Fails s (n + if s = site then 1 else 0) := by
  unfold Fails
  rw [after]
  constructor
  · rintro ⟨g, remains, rfl, nth, error⟩
    obtain ⟨f, kept, rfl⟩ := List.mem_map.mp remains
    obtain ⟨member, far⟩ := List.mem_filter.mp kept
    by_cases here : f.site = site
    · simp only [here, decide_true, Bool.true_and, Bool.not_eq_true', decide_eq_false_iff_not,
        ↓reduceIte] at far nth error ⊢
      exact ⟨f, member, here, by omega, error⟩
    · simp only [here, ↓reduceIte] at nth error ⊢
      exact ⟨f, member, rfl, nth, error⟩
  · rintro ⟨f, member, rfl, nth, error⟩
    by_cases here : f.site = site
    · simp only [here, ↓reduceIte] at nth
      refine ⟨{ f with countdown := f.countdown - 1 }, ?_, rfl, by simp only; omega, error⟩
      refine List.mem_map.mpr ⟨f, List.mem_filter.mpr ⟨member, ?_⟩, by simp [here]⟩
      simp [here]
      omega
    · simp only [here, ↓reduceIte] at nth
      refine ⟨f, List.mem_map.mpr ⟨f, List.mem_filter.mpr ⟨member, by simp [here]⟩, by simp [here]⟩,
        rfl, nth, error⟩

end World

theorem Fault.fire_done_iff {Site Error : Type} {faults : List (Fault Site Error)}
    (inert : ∀ f ∈ faults, f.changes = []) (host : Host) :
    (fire faults host).1 = .done () ↔ ∀ f ∈ faults, f.error? = none := by
  induction faults with
  | nil => simp [fire]
  | cons f rest ih =>
    have changed : host.changes f.changes = ((.done (), host) : Outcome Error Unit × Host) := by
      rw [inert f List.mem_cons_self]; rfl
    have rest := ih fun g member => inert g (List.mem_cons_of_mem _ member)
    simp only [fire, changed]
    cases error : f.error? with
    | some e => simp [error]
    | none => simp [error, rest]

namespace Session

variable {α : Type} {w w' : World} {r : Request} {n : Nat} {call : Call}

theorem meetFaults_done_iff {site : HostSite} (quiet : w.Undisturbed) :
    (meetFaults site w).1 = .done () ↔ ¬ w.Fails site 1 := by
  have inert : ∀ f ∈ Fault.due site w.hostFaults, f.changes = [] :=
    fun f due => quiet.host f (Fault.mem_due due).1
  refine (Fault.fire_done_iff inert w.host).trans ⟨?_, ?_⟩
  · rintro clear ⟨f, member, rfl, first, error⟩
    have due : f ∈ Fault.due f.site w.hostFaults := by
      simp only [Fault.due, List.mem_filter, member, decide_true, Bool.true_and,
        decide_eq_true_eq, true_and]
      omega
    simp [clear f due] at error
  · intro passes f due
    have soon : f.countdown ≤ 1 := by
      simp only [Fault.due, List.mem_filter, Bool.and_eq_true, decide_eq_true_eq] at due
      exact due.2.2
    cases error : f.error? with
    | none => rfl
    | some e =>
      exact absurd ⟨f, (Fault.mem_due due).1, (Fault.mem_due due).2, by omega, by simp [error]⟩ passes

theorem send_heard {o : Outcome HostError r.Reply} (quiet : w.Undisturbed)
    (run : send r w = (o, w')) (heard : w.Hears r.call 1) :
    w.host.answer r = (o, w'.host) ∧ w'.log = .request r true o :: w.log := by
  have passes := (meetFaults_done_iff quiet).mpr heard.2
  unfold send at run
  split at run
  next met => simp [met] at passes
  next met => simp [met] at passes
  next w₁ met =>
    obtain ⟨rfl, _⟩ := meetFaults_cases quiet met
    simp only [Host.serve, heard.1, ↓reduceIte] at run
    obtain ⟨rfl, rfl⟩ := Prod.mk.inj run
    exact ⟨rfl, rfl⟩

/-- What the host answers is what comes of a request that gets through. -/
theorem send_answered {o : Outcome HostError r.Reply} {h : Host} (quiet : w.Undisturbed)
    (answer : w.host.answer r = (o, h)) (heard : w.Hears r.call 1) :
    ∃ w', send r w = (o, w') ∧ w'.host = h ∧ w'.log = .request r true o :: w.log := by
  obtain ⟨answer', log⟩ := send_heard quiet (Action.run_halves _ _) heard
  obtain ⟨same, host⟩ := Prod.mk.inj (answer.symm.trans answer')
  exact ⟨_, by rw [same], host.symm, by rw [same]; exact log⟩

theorem send_unheard {o : Outcome HostError r.Reply} (quiet : w.Undisturbed)
    (run : send r w = (o, w')) (unheard : ¬ w.Hears r.call 1) :
    ∃ e reached, o = .failed e ∧ w'.host = w.host ∧ w'.log = .request r reached o :: w.log := by
  unfold send at run
  split at run
  next e w₁ met =>
    obtain ⟨rfl, _⟩ := meetFaults_cases quiet met
    obtain ⟨rfl, rfl⟩ := Prod.mk.inj run
    exact ⟨e, false, rfl, rfl, rfl⟩
  next met =>
    obtain ⟨_, clear | ⟨_, _, _, _, _, failed⟩⟩ := meetFaults_cases quiet met
    · cases clear
    · cases failed
  next w₁ met =>
    obtain ⟨rfl, _⟩ := meetFaults_cases quiet met
    have passes := (meetFaults_done_iff quiet).mp (congrArg (·.1) met)
    have failing : r.call ∈ w.host.failing := Classical.byContradiction fun able => unheard ⟨able, passes⟩
    simp only [Host.serve, failing, ↓reduceIte] at run
    obtain ⟨rfl, rfl⟩ := Prod.mk.inj run
    exact ⟨_, true, rfl, rfl, rfl⟩

theorem send_done_heard {a : r.Reply} (quiet : w.Undisturbed) (run : send r w = (.done a, w')) :
    w.Hears r.call 1 := by
  apply Classical.byContradiction
  intro unheard
  obtain ⟨_, _, same, _⟩ := send_unheard quiet run unheard
  cases same

theorem send_hostFaults (r : Request) (w : World) :
    (send r w).2.hostFaults = Fault.remaining (.call r.call) w.hostFaults := by
  unfold send
  split <;> next met => rw [← (Prod.mk.inj met).2]; rfl

theorem connect_hostFaults (w : World) :
    (connect w).2.hostFaults = Fault.remaining .connect w.hostFaults := by
  unfold connect
  split
  next met => rw [← (Prod.mk.inj met).2]; rfl
  next met => rw [← (Prod.mk.inj met).2]; rfl
  next met => split <;> (rw [← (Prod.mk.inj met).2]; rfl)

/-- A request brings the faults of its own kind one call nearer, and no others. -/
theorem send_hears {o : Outcome HostError r.Reply} (quiet : w.Undisturbed)
    (run : send r w = (o, w')) (later : 0 < n) :
    w'.Hears call n ↔ w.Hears call (n + if call = r.call then 1 else 0) := by
  have failing : w'.host.failing = w.host.failing := by
    rcases send_cases quiet run with ⟨_, _, _, _, same, _⟩ | ⟨answer, _⟩
    · rw [same]
    · have behaviour := Host.answer_behaviour w.host r
      rw [answer] at behaviour
      exact Host.failing_of_behaviour behaviour
  have after := send_hostFaults r w
  rw [run] at after
  unfold World.Hears
  rw [failing, World.fails_remaining after later]
  simp only [HostSite.call.injEq]

theorem send_hears_other {o : Outcome HostError r.Reply} (quiet : w.Undisturbed)
    (run : send r w = (o, w')) (other : call ≠ r.call) (later : 0 < n) :
    w'.Hears call n ↔ w.Hears call n := by
  rw [send_hears quiet run later, if_neg other, Nat.add_zero]

theorem connect_hears {o : Outcome Error Unit} (quiet : w.Undisturbed) (run : connect w = (o, w'))
    (later : 0 < n) : w'.Hears call n ↔ w.Hears call n := by
  have objects : w'.host.objects = w.host.objects := by
    rcases connect_cases quiet run with ⟨_, idle⟩ | ⟨_, idle⟩ <;> exact idle.objects
  have after := connect_hostFaults w
  rw [run] at after
  unfold World.Hears
  rw [Host.failing_of_behaviour (Host.behaviour_of_objects objects), World.fails_remaining after later]
  simp

theorem disconnect_hostFaults (w : World) :
    (disconnect w).2.hostFaults = Fault.remaining .disconnect w.hostFaults := by
  unfold disconnect
  split
  next met => rw [← (Prod.mk.inj met).2]; rfl
  next met => rw [← (Prod.mk.inj met).2]; rfl

theorem disconnect_hears {o : Outcome HostError Unit} (quiet : w.Undisturbed)
    (run : disconnect w = (o, w')) (later : 0 < n) : w'.Hears call n ↔ w.Hears call n := by
  have objects := (disconnect_cases quiet run).2.objects
  have after := disconnect_hostFaults w
  rw [run] at after
  unfold World.Hears
  rw [Host.failing_of_behaviour (Host.behaviour_of_objects objects), World.fails_remaining after later]
  simp

/-- A way without requests of a kind leaves the faults of that kind as far as they were. -/
theorem Reaches.hears {ok : Request → Prop} (path : Reaches ok w w') (quiet : w.Undisturbed)
    (others : ∀ r, ok r → call ≠ r.call) (later : 0 < n) : w'.Hears call n ↔ w.Hears call n := by
  induction path with
  | refl => exact Iff.rfl
  | connect before ih =>
    exact (connect_hears (before.store.undisturbed quiet) (Action.run_halves _ _) later).trans ih
  | send before allowed ih =>
    exact (send_hears_other (before.store.undisturbed quiet) (Action.run_halves _ _)
      (others _ allowed) later).trans ih
  | disconnect before ih =>
    exact (disconnect_hears (before.store.undisturbed quiet) (Action.run_halves _ _) later).trans ih

theorem connect_admitted {o : Outcome Error Unit} (quiet : w.Undisturbed) (run : connect w = (o, w')) :
    o = .done () ↔ w.Admits := by
  unfold connect at run
  unfold World.Admits
  rw [← meetFaults_done_iff quiet]
  split at run
  next met =>
    rw [met, ← (Prod.mk.inj run).1]
    simp
  next met =>
    rw [met, ← (Prod.mk.inj run).1]
    simp
  next w₁ met =>
    obtain ⟨rfl, _⟩ := meetFaults_cases quiet met
    rw [met]
    split at run
    next refuses =>
      rw [← (Prod.mk.inj run).1]
      simpa using refuses
    next accepts =>
      rw [← (Prod.mk.inj run).1]
      simpa using accepts

theorem connected_unadmitted {body : Action Error α} {o : Outcome Error α}
    (quiet : w.Undisturbed) (turned : ¬ w.Admits) (run : connected body w = (o, w')) :
    (∃ reason, o = .failed (.connection reason)) ∧ Idle (.connect false) w w' := by
  obtain ⟨o₀, w₁, opened⟩ : ∃ o₀ w₁, connect w = (o₀, w₁) := ⟨_, _, rfl⟩
  rcases connect_cases quiet opened with ⟨accepted, _⟩ | ⟨⟨reason, rfl⟩, idle⟩
  · exact absurd ((connect_admitted quiet opened).mp accepted) turned
  · obtain ⟨rfl, rfl⟩ := Prod.mk.inj ((connected_refused opened).symm.trans run)
    exact ⟨⟨reason, rfl⟩, idle⟩

/-- The body ran over a connection, which was closed unless the body overflowed. -/
theorem connected_admitted {ok : Request → Prop} {body : Action Error α} {o : Outcome Error α}
    (quiet : w.Undisturbed) (within : body.Keeps (Reaches ok)) (admits : w.Admits)
    (run : connected body w = (o, w')) :
    ∃ w₁ w₂, Idle (.connect true) w w₁ ∧
      (∀ call n, 0 < n → (w₁.Hears call n ↔ w.Hears call n)) ∧ body w₁ = (o, w₂) ∧
      (Idle .disconnect w₂ w' ∨ o = .overflow ∧ w' = w₂) := by
  obtain ⟨o₀, w₁, opened⟩ : ∃ o₀ w₁, connect w = (o₀, w₁) := ⟨_, _, rfl⟩
  obtain rfl := (connect_admitted quiet opened).mpr admits
  have hears : ∀ call n, 0 < n → (w₁.Hears call n ↔ w.Hears call n) :=
    fun call n later => connect_hears quiet opened later
  rcases connect_cases quiet opened with ⟨_, idle⟩ | ⟨⟨_, refused⟩, _⟩
  · obtain ⟨o₁, w₂, ran⟩ : ∃ o₁ w₂, body w₁ = (o₁, w₂) := ⟨_, _, rfl⟩
    have quiet₂ : w₂.Undisturbed :=
      (within.of_run ran).store.undisturbed (idle.toSameStore.undisturbed quiet)
    by_cases overrun : o₁ = .overflow
    · subst overrun
      obtain ⟨rfl, rfl⟩ := Prod.mk.inj ((connected_overflow opened ran).symm.trans run)
      exact ⟨w₁, w₂, idle, hears, ran, .inr ⟨rfl, rfl⟩⟩
    · obtain ⟨d, w₃, closed⟩ : ∃ d w₃, disconnect w₂ = (d, w₃) := ⟨_, _, rfl⟩
      obtain ⟨shut, closing⟩ := disconnect_cases quiet₂ closed
      obtain ⟨rfl, rfl⟩ := Prod.mk.inj ((connected_run opened ran overrun closed shut).symm.trans run)
      exact ⟨w₁, w₂, idle, hears, ran, .inl closing⟩
  · cases refused

theorem connected_cases {ok : Request → Prop} {body : Action Error α} {o : Outcome Error α}
    (quiet : w.Undisturbed) (within : body.Keeps (Reaches ok)) (run : connected body w = (o, w')) :
    ((∃ reason, o = .failed (.connection reason)) ∧ Idle (.connect false) w w') ∨
    ∃ w₁ w₂, Idle (.connect true) w w₁ ∧ body w₁ = (o, w₂) ∧
      (Idle .disconnect w₂ w' ∨ o = .overflow ∧ w' = w₂) := by
  by_cases admits : w.Admits
  · obtain ⟨w₁, w₂, opened, _, ran, closed⟩ := connected_admitted quiet within admits run
    exact .inr ⟨w₁, w₂, opened, ran, closed⟩
  · exact .inl (connected_unadmitted quiet admits run)

end Session

end MachineKeeper
