import MachineKeeper.Proofs.Action
import MachineKeeper.Proofs.Host
import MachineKeeper.Session

/-! What happens on a connection. In an undisturbed world a request is turned down or answered, and
the log says which; whatever the world, operations over connections reach only worlds with the same
store, by the requests that they are made of. -/
namespace MachineKeeper

namespace World

/-- Calls may fail, but nothing is changed behind the back of whoever makes them. -/
structure Undisturbed (w : World) : Prop where
  host : ∀ f ∈ w.hostFaults, f.changes = []
  store : ∀ f ∈ w.storeFaults, f.changes = []

/-- A request that is made to fail fails as a call does, and not because something is missing. -/
def CallErrors (w : World) : Prop :=
  ∀ f ∈ w.hostFaults, ∀ call, f.site = .call call → ∀ e, f.error? = some e →
    ∃ refusal, e = .call refusal

/-- The store does what it is asked to; only a secret may fail to be read. -/
def StoreServes (w : World) : Prop := ∀ f ∈ w.storeFaults, f.site = .secret ∧ f.changes = []

theorem undisturbed_of_nil {w : World} (host : w.hostFaults = []) (store : w.storeFaults = []) :
    w.Undisturbed := by
  constructor
  · simp [host]
  · simp [store]

theorem callErrors_of_nil {w : World} (host : w.hostFaults = []) : w.CallErrors := by
  simp [CallErrors, host]

theorem storeServes_of_nil {w : World} (store : w.storeFaults = []) : w.StoreServes := by
  simp [StoreServes, store]

end World

namespace Fault

variable {Site Error : Type} [DecidableEq Site] {site : Site} {faults : List (Fault Site Error)}

theorem mem_due {f : Fault Site Error} (due : f ∈ due site faults) : f ∈ faults ∧ f.site = site := by
  simp only [Fault.due, List.mem_filter, Bool.and_eq_true, decide_eq_true_eq] at due
  exact ⟨due.1, due.2.1⟩

theorem mem_remaining {g : Fault Site Error} (remains : g ∈ remaining site faults) :
    ∃ f ∈ faults, g.site = f.site ∧ g.error? = f.error? ∧ g.changes = f.changes := by
  obtain ⟨f, kept, rfl⟩ := List.mem_map.mp remains
  refine ⟨f, (List.mem_filter.mp kept).1, ?_⟩
  split <;> exact ⟨rfl, rfl, rfl⟩

theorem due_none (none : ∀ f ∈ faults, f.site ≠ site) : due site faults = [] :=
  List.filter_eq_nil_iff.mpr fun f member => by simp [none f member]

theorem remaining_none (none : ∀ f ∈ faults, f.site ≠ site) : remaining site faults = faults := by
  have kept : faults.filter (fun f => !(f.site = site && f.countdown ≤ 1)) = faults :=
    List.filter_eq_self.mpr fun f member => by simp [none f member]
  rw [remaining, kept]
  exact (List.map_congr_left fun f member => if_neg (none f member)).trans (List.map_id _)

omit [DecidableEq Site] in
theorem fire_inert (inert : ∀ f ∈ faults, f.changes = []) (host : Host) :
    (fire faults host).2 = host ∧ ((fire faults host).1 = .done () ∨
      ∃ f ∈ faults, ∃ e, f.error? = some e ∧ (fire faults host).1 = .failed e) := by
  induction faults with
  | nil => exact ⟨rfl, .inl rfl⟩
  | cons f rest ih =>
    have changed : host.changes f.changes = ((.done (), host) : Outcome Error Unit × Host) := by
      rw [inert f List.mem_cons_self]; rfl
    obtain ⟨same, ended⟩ := ih fun g member => inert g (List.mem_cons_of_mem _ member)
    simp only [fire, changed]
    cases error : f.error? with
    | some e => exact ⟨rfl, .inr ⟨f, List.mem_cons_self, e, error, rfl⟩⟩
    | none =>
      refine ⟨same, ended.imp_right ?_⟩
      rintro ⟨g, member, found⟩
      exact ⟨g, List.mem_cons_of_mem _ member, found⟩

omit [DecidableEq Site] in
/-- What each of the changes keeps that come with faults is kept when the faults happen. -/
theorem fire_keeps {P : Host → Prop} (kept : ∀ f ∈ faults, ∀ c ∈ f.changes, ∀ h : Host,
      P h → P (h.change c : Outcome Error Unit × Host).2) {h : Host} (start : P h) :
    P (fire faults h).2 := by
  induction faults generalizing h with
  | nil => exact start
  | cons f rest ih =>
    have changed := Host.changes_keep (kept f List.mem_cons_self) start
    unfold fire
    split
    next h₁ same =>
      rw [same] at changed
      split
      · exact changed
      · exact ih (fun g member => kept g (List.mem_cons_of_mem _ member)) changed
    next h₁ same => rwa [same] at changed
    next h₁ same => rwa [same] at changed

omit [DecidableEq Site] in
theorem fire_of_objects {h h' : Host} (same : h'.objects = h.objects) (faults : List (Fault Site Error)) :
    (fire faults h').1 = (fire faults h).1 ∧
    (fire faults h').2.objects = (fire faults h).2.objects := by
  induction faults generalizing h h' with
  | nil => exact ⟨rfl, same⟩
  | cons f rest ih =>
    have changed := Host.changes_of_objects (ε := Error) same f.changes
    unfold fire
    generalize (h.changes f.changes : Outcome Error Unit × Host) = x at changed ⊢
    generalize (h'.changes f.changes : Outcome Error Unit × Host) = y at changed ⊢
    obtain ⟨o, h₁⟩ := x
    obtain ⟨o', h₁'⟩ := y
    obtain ⟨rfl, same₁⟩ := changed
    cases o' with
    | done _ =>
      cases f.error? with
      | none => exact ih same₁
      | some e => exact ⟨rfl, same₁⟩
    | failed e => exact ⟨rfl, same₁⟩
    | overflow => exact ⟨rfl, same₁⟩

end Fault

/-- An event that is no request, or a request that `ok` allows. -/
def Event.Within (ok : Request → Prop) : Event → Prop
  | .request r _ _ => ok r
  | _ => True

theorem Event.Within.mono {ok ok' : Request → Prop} (weaker : ∀ r, ok r → ok' r) {e : Event}
    (within : e.Within ok) : e.Within ok' := by
  cases e with
  | request r _ _ => exact weaker r within
  | connect _ => trivial
  | disconnect => trivial

namespace Session

variable {ε α : Type} {w w' : World} {r : Request}

theorem meetFaults_run (site : HostSite) (w : World) : meetFaults site w =
    ((Fault.fire (Fault.due site w.hostFaults) w.host).1, { w with
      host := (Fault.fire (Fault.due site w.hostFaults) w.host).2
      hostFaults := Fault.remaining site w.hostFaults }) := rfl

theorem meetFaults_none {site : HostSite} (none : ∀ f ∈ w.hostFaults, f.site ≠ site) :
    meetFaults site w = (.done (), w) := by
  rw [meetFaults_run, Fault.due_none none, Fault.remaining_none none]
  rfl

theorem meetFaults_cases {site : HostSite} {o : Outcome HostError Unit} (quiet : w.Undisturbed)
    (run : meetFaults site w = (o, w')) :
    w' = { w with hostFaults := Fault.remaining site w.hostFaults } ∧ (o = .done () ∨
      ∃ f ∈ w.hostFaults, f.site = site ∧ ∃ e, f.error? = some e ∧ o = .failed e) := by
  have inert : ∀ f ∈ Fault.due site w.hostFaults, f.changes = [] :=
    fun f due => quiet.host f (Fault.mem_due due).1
  obtain ⟨same, ended⟩ := Fault.fire_inert inert w.host
  obtain ⟨rfl, rfl⟩ := Prod.mk.inj run
  refine ⟨by rw [same], ended.imp_right ?_⟩
  rintro ⟨f, due, found⟩
  exact ⟨f, (Fault.mem_due due).1, (Fault.mem_due due).2, found⟩

/-- Two worlds with the same store, of which the second came about over connections. -/
structure SameStore (w w' : World) : Prop where
  records : w'.records = w.records
  secrets : w'.secrets = w.secrets
  storeFaults : w'.storeFaults = w.storeFaults
  hostFaults : ∀ g ∈ w'.hostFaults, ∃ f ∈ w.hostFaults,
    g.site = f.site ∧ g.error? = f.error? ∧ g.changes = f.changes

theorem sameStore_frame : Action.Frame SameStore where
  refl w := ⟨rfl, rfl, rfl, fun g member => ⟨g, member, rfl, rfl, rfl⟩⟩
  trans := by
    intro a b c ab bc
    refine ⟨bc.records.trans ab.records, bc.secrets.trans ab.secrets,
      bc.storeFaults.trans ab.storeFaults, fun g member => ?_⟩
    obtain ⟨f, inB, site, error, changes⟩ := bc.hostFaults g member
    obtain ⟨e, inA, site', error', changes'⟩ := ab.hostFaults f inB
    exact ⟨e, inA, site.trans site', error.trans error', changes.trans changes'⟩

theorem SameStore.undisturbed (same : SameStore w w') (quiet : w.Undisturbed) : w'.Undisturbed where
  host := by
    intro g member
    obtain ⟨f, there, _, _, changes⟩ := same.hostFaults g member
    exact changes.trans (quiet.host f there)
  store := by rw [same.storeFaults]; exact quiet.store

theorem SameStore.callErrors (same : SameStore w w') (calls : w.CallErrors) : w'.CallErrors := by
  intro g member call atSite e found
  obtain ⟨f, there, site, error, _⟩ := same.hostFaults g member
  exact calls f there call (site ▸ atSite) e (error ▸ found)

theorem SameStore.hostFaults_nil (same : SameStore w w') (faults : w.hostFaults = []) : w'.hostFaults = [] := by
  apply List.eq_nil_iff_forall_not_mem.mpr
  intro g member
  obtain ⟨f, there, _⟩ := same.hostFaults g member
  rw [faults] at there
  cases there

/-- What one step over a connection leaves: the same store, and one event more in the log. -/
structure Noted (event : Event) (w w' : World) : Prop extends SameStore w w' where
  log : w'.log = event :: w.log

theorem meetFaults_rest {site : HostSite} {o : Outcome HostError Unit}
    (run : meetFaults site w = (o, w')) : SameStore w w' ∧ w'.log = w.log := by
  obtain ⟨-, rfl⟩ := Prod.mk.inj run
  exact ⟨⟨rfl, rfl, rfl, fun g member => Fault.mem_remaining member⟩, rfl⟩

theorem Noted.of_met {site : HostSite} {o : Outcome HostError Unit}
    (run : meetFaults site w = (o, w')) (host : Host) (event : Event) :
    Noted event w (note event { w' with host }) := by
  obtain ⟨same, log⟩ := meetFaults_rest run
  exact ⟨⟨same.records, same.secrets, same.storeFaults, same.hostFaults⟩,
    congrArg (event :: ·) log⟩

theorem connect_noted (w : World) : ∃ accepted, Noted (.connect accepted) w (connect w).2 := by
  unfold connect
  split
  next e w₁ met => exact ⟨_, .of_met met w₁.host _⟩
  next w₁ met => exact ⟨_, .of_met met w₁.host _⟩
  next w₁ met =>
    split
    · exact ⟨_, .of_met met w₁.host _⟩
    · exact ⟨_, .of_met met _ _⟩

theorem connect_log {o : Outcome Error Unit} (run : connect w = (o, w')) :
    w'.log = .connect o.isDone :: w.log := by
  unfold connect at run
  split at run
  next met =>
    obtain ⟨rfl, rfl⟩ := Prod.mk.inj run
    exact congrArg (_ :: ·) (meetFaults_rest met).2
  next met =>
    obtain ⟨rfl, rfl⟩ := Prod.mk.inj run
    exact congrArg (_ :: ·) (meetFaults_rest met).2
  next met =>
    split at run <;> obtain ⟨rfl, rfl⟩ := Prod.mk.inj run <;>
      exact congrArg (_ :: ·) (meetFaults_rest met).2

theorem send_noted (r : Request) (w : World) :
    ∃ reached, Noted (.request r reached (send r w).1) w (send r w).2 := by
  unfold send
  split
  next e w₁ met => exact ⟨_, .of_met met w₁.host _⟩
  next w₁ met => exact ⟨_, .of_met met w₁.host _⟩
  next w₁ met => exact ⟨_, .of_met met _ _⟩

theorem send_done {a : r.Reply} (run : send r w = (.done a, w')) :
    w'.log = .request r true (.done a) :: w.log := by
  unfold send at run
  split at run
  next => cases (Prod.mk.inj run).1
  next => cases (Prod.mk.inj run).1
  next w₁ met =>
    obtain ⟨same, rfl⟩ := Prod.mk.inj run
    rw [← same]
    exact congrArg (_ :: ·) (meetFaults_rest met).2

theorem send_undisturbed {o : Outcome HostError r.Reply} (quiet : w.Undisturbed)
    (run : send r w = (o, w')) : w'.Undisturbed := by
  obtain ⟨_, noted⟩ := send_noted r w
  rw [run] at noted
  exact noted.toSameStore.undisturbed quiet

theorem ask_of_done {context : String} {a : r.Reply} (sent : send r w = (.done a, w')) :
    ask context r w = (.done a, w') :=
  Action.mapError_of sent

theorem ask_of_failed {context : String} {e : HostError} (sent : send r w = (.failed e, w')) :
    ask context r w = (.failed (.host context e), w') :=
  Action.mapError_of sent

theorem ask_done {context : String} {a : r.Reply} (run : ask context r w = (.done a, w')) :
    send r w = (.done a, w') := by
  obtain ⟨o, sent, same⟩ := Action.mapError_cases run
  cases o with
  | done b =>
    cases same
    exact sent
  | failed e => cases same
  | overflow => cases same

theorem ask_noted {r : Request} {context : String} {o : Outcome Error r.Reply}
    (run : ask context r w = (o, w')) : ∃ reached o₁, o = o₁.mapError (.host context) ∧
      w'.log = .request r reached o₁ :: w.log := by
  obtain ⟨o₁, sent, same⟩ := Action.mapError_cases run
  obtain ⟨reached, noted⟩ := send_noted r w
  rw [sent] at noted
  exact ⟨reached, o₁, same, noted.log⟩

theorem disconnect_noted (w : World) : Noted .disconnect w (disconnect w).2 := by
  unfold disconnect
  split
  next w₁ met => exact .of_met met _ _
  next o w₁ _ met => exact .of_met met w₁.host _

/-- A request is turned down and leaves the host alone, or it is answered. -/
theorem send_cases {o : Outcome HostError r.Reply} (quiet : w.Undisturbed)
    (run : send r w = (o, w')) :
    (∃ e reached, o = .failed e ∧ (w.CallErrors → ∃ refusal, e = .call refusal) ∧
      w'.host = w.host ∧ w'.log = .request r reached o :: w.log) ∨
    (w.host.answer r = (o, w'.host) ∧ w'.log = .request r true o :: w.log) := by
  unfold send at run
  split at run
  next e w₁ met =>
    obtain ⟨rfl, rfl⟩ := Prod.mk.inj run
    obtain ⟨rfl, clear | ⟨f, member, atSite, e', found, failed⟩⟩ := meetFaults_cases quiet met
    · cases clear
    · cases failed
      exact .inl ⟨e, false, rfl, fun calls => calls f member _ atSite e found, rfl, rfl⟩
  next w₁ met =>
    obtain ⟨_, clear | ⟨_, _, _, _, _, failed⟩⟩ := meetFaults_cases quiet met
    · cases clear
    · cases failed
  next w₁ met =>
    obtain ⟨rfl, _⟩ := meetFaults_cases quiet met
    simp only [Host.serve] at run
    split at run
    next failing =>
      obtain ⟨rfl, rfl⟩ := Prod.mk.inj run
      exact .inl ⟨_, true, rfl, fun _ => ⟨_, rfl⟩, rfl, rfl⟩
    next served =>
      obtain ⟨rfl, rfl⟩ := Prod.mk.inj run
      exact .inr ⟨rfl, rfl⟩

theorem send_answer {a : r.Reply} (quiet : w.Undisturbed) (run : send r w = (.done a, w')) :
    w.host.answer r = (.done a, w'.host) := by
  rcases send_cases quiet run with ⟨_, _, same, _⟩ | ⟨answer, _⟩
  · cases same
  · exact answer

theorem send_turned {o : Outcome HostError r.Reply} (quiet : w.Undisturbed) (run : send r w = (o, w'))
    (turned : o.isDone = false) : w'.host = w.host := by
  rcases send_cases quiet run with ⟨_, _, _, _, same, _⟩ | ⟨answer, _⟩
  · exact same
  · have left := Host.answer_turned (h := w.host) (r := r) (by rw [answer]; exact turned)
    rwa [answer] at left

theorem send_query {o : Outcome HostError r.Reply} (quiet : w.Undisturbed) (query : r.IsQuery)
    (run : send r w = (o, w')) : w'.host = w.host := by
  rcases send_cases quiet run with ⟨_, _, _, _, same, _⟩ | ⟨answer, _⟩
  · exact same
  · exact (congrArg Prod.snd answer).symm.trans (Host.answer_query query)

theorem send_overflow (quiet : w.Undisturbed) (run : send r w = (.overflow, w')) :
    r.call = .defineDomain := by
  rcases send_cases quiet run with ⟨_, _, same, _⟩ | ⟨answer, _⟩
  · cases same
  · exact Host.answer_overflow (congrArg Prod.fst answer)

/-- A step that leaves the objects of the host as they are. -/
structure Idle (event : Event) (w w' : World) : Prop extends Noted event w w' where
  objects : w'.host.objects = w.host.objects

theorem connect_cases {o : Outcome Error Unit} (quiet : w.Undisturbed)
    (run : connect w = (o, w')) :
    (o = .done () ∧ Idle (.connect true) w w') ∨
    ((∃ reason, o = .failed (.connection reason)) ∧ Idle (.connect false) w w') := by
  unfold connect at run
  split at run
  next e w₁ met =>
    obtain ⟨rfl, rfl⟩ := Prod.mk.inj run
    exact .inr ⟨⟨_, rfl⟩, .of_met met w₁.host _,
      congrArg (·.host.objects) (meetFaults_cases quiet met).1⟩
  next w₁ met =>
    obtain ⟨_, clear | ⟨_, _, _, _, _, failed⟩⟩ := meetFaults_cases quiet met
    · cases clear
    · cases failed
  next w₁ met =>
    have same := congrArg (·.host.objects) (meetFaults_cases quiet met).1
    split at run
    · obtain ⟨rfl, rfl⟩ := Prod.mk.inj run
      exact .inr ⟨⟨_, rfl⟩, .of_met met w₁.host _, same⟩
    · obtain ⟨rfl, rfl⟩ := Prod.mk.inj run
      exact .inl ⟨rfl, .of_met met _ _, same⟩

theorem disconnect_cases {o : Outcome HostError Unit} (quiet : w.Undisturbed)
    (run : disconnect w = (o, w')) : o ≠ .overflow ∧ Idle .disconnect w w' := by
  unfold disconnect at run
  split at run
  next w₁ met =>
    obtain ⟨rfl, rfl⟩ := Prod.mk.inj run
    exact ⟨by simp, .of_met met _ _, congrArg (·.host.objects) (meetFaults_cases quiet met).1⟩
  next o₁ w₁ _ met =>
    obtain ⟨rfl, rfl⟩ := Prod.mk.inj run
    obtain ⟨same, clear | ⟨_, _, _, _, _, failed⟩⟩ := meetFaults_cases quiet met
    · exact ⟨by simp [clear], .of_met met w₁.host _, congrArg (·.host.objects) same⟩
    · exact ⟨by simp [failed], .of_met met w₁.host _, congrArg (·.host.objects) same⟩

/-- Each event of a log, in which the latest comes first, is in its place behind what was noted before it. -/
def Ordered (fits : Event → List Event → Prop) (events : List Event) : Prop :=
  ∀ e past, (e :: past) <:+ events → fits e past

theorem ordered_nil (fits : Event → List Event → Prop) : Ordered fits [] :=
  fun _ _ here => absurd (List.suffix_nil.mp here) nofun

theorem Ordered.cons {fits : Event → List Event → Prop} {e : Event} {past : List Event} (here : fits e past)
    (earlier : Ordered fits past) : Ordered fits (e :: past) := by
  intro e' past' at_
  rcases List.suffix_cons_iff.mp at_ with same | before
  · obtain ⟨rfl, rfl⟩ := List.cons.inj same
    exact here
  · exact earlier e' past' before

/-- Events are in order behind others if each of them is in its place with those behind it as well. -/
theorem Ordered.append {fits : Event → List Event → Prop} {late early : List Event}
    (first : Ordered fits early) (rest : Ordered (fun e past => fits e (past ++ early)) late) :
    Ordered fits (late ++ early) := by
  induction late with
  | nil => exact first
  | cons e late ih =>
    refine .cons (rest e late List.suffix_rfl) (ih fun e' past before => ?_)
    exact rest e' past (before.trans (List.suffix_cons e late))

/-- What is noted between two worlds is in order. -/
def Sequenced (fits : Event → List Event → Prop) (w w' : World) : Prop :=
  ∃ events, w'.log = events ++ w.log ∧ Ordered fits events

section
variable {fits : Event → List Event → Prop}

theorem Sequenced.one {e : Event} (log : w'.log = e :: w.log) (first : fits e []) : Sequenced fits w w' :=
  ⟨[e], log, .cons first (ordered_nil fits)⟩

/-- What stands in its place does so whatever was noted before. -/
theorem sequenced_frame (grows : ∀ {e past} earlier, fits e past → fits e (past ++ earlier)) :
    Action.Frame (Sequenced fits) where
  refl _ := ⟨[], rfl, ordered_nil fits⟩
  trans := by
    rintro a b c ⟨early, logB, first⟩ ⟨late, logC, rest⟩
    exact ⟨late ++ early, by rw [logC, logB, List.append_assoc],
      first.append fun e past here => grows early (rest e past here)⟩

end

/-- The worlds that are reached over connections by requests that `ok` allows. -/
inductive Reaches (ok : Request → Prop) (w : World) : World → Prop
  | refl : Reaches ok w w
  | connect {w₁ : World} : Reaches ok w w₁ → Reaches ok w (connect w₁).2
  | send {w₁ : World} {r : Request} : Reaches ok w w₁ → ok r → Reaches ok w (send r w₁).2
  | disconnect {w₁ : World} : Reaches ok w w₁ → Reaches ok w (disconnect w₁).2

variable {ok ok' : Request → Prop}

theorem Reaches.mono (path : Reaches ok w w') (weaker : ∀ r, ok r → ok' r) : Reaches ok' w w' := by
  induction path with
  | refl => exact .refl
  | connect _ ih => exact .connect ih
  | send _ allowed ih => exact .send ih (weaker _ allowed)
  | disconnect _ ih => exact .disconnect ih

theorem reaches_frame : Action.Frame (Reaches ok) where
  refl _ := .refl
  trans := by
    intro a b c first second
    induction second with
    | refl => exact first
    | connect _ ih => exact .connect ih
    | send _ allowed ih => exact .send ih allowed
    | disconnect _ ih => exact .disconnect ih

theorem reaches_send (allowed : ok r) : (send r).Keeps (Reaches ok) :=
  fun _ => .send .refl allowed

theorem reaches_ask (context : String) (allowed : ok r) : (ask context r).Keeps (Reaches ok) :=
  (reaches_send allowed).mapError _

/-- What opening and closing a connection keep, and what is done over it, is kept by the whole. -/
theorem connected_keeps {R : World → World → Prop} (frame : Action.Frame R) {body : Action Error α}
    (opens : connect.Keeps R) (closes : disconnect.Keeps R) (within : body.Keeps R) :
    (connected body).Keeps R := by
  apply frame.bind opens
  intro _
  apply frame.bind within.attempt
  intro result
  apply frame.bind closes.attempt
  intro _
  exact frame.ofExcept result

theorem connected_sequenced {fits : Event → List Event → Prop} {body : Action Error α}
    (frame : Action.Frame (Sequenced fits)) (opens : ∀ accepted, fits (.connect accepted) [])
    (closes : fits .disconnect []) (within : body.Keeps (Sequenced fits)) :
    (connected body).Keeps (Sequenced fits) := by
  refine connected_keeps frame (fun w => ?_) (fun w => .one (disconnect_noted w).log closes) within
  obtain ⟨accepted, noted⟩ := connect_noted w
  exact .one noted.log (opens accepted)

theorem reaches_connected {body : Action Error α} (within : body.Keeps (Reaches ok)) :
    (connected body).Keeps (Reaches ok) :=
  connected_keeps reaches_frame (fun _ => .connect .refl) (fun _ => .disconnect .refl) within

theorem Reaches.store (path : Reaches ok w w') : SameStore w w' := by
  induction path with
  | refl => exact sameStore_frame.refl w
  | connect _ ih =>
    obtain ⟨_, noted⟩ := connect_noted _
    exact sameStore_frame.trans ih noted.toSameStore
  | send _ _ ih =>
    obtain ⟨_, noted⟩ := send_noted _ _
    exact sameStore_frame.trans ih noted.toSameStore
  | disconnect _ ih => exact sameStore_frame.trans ih (disconnect_noted _).toSameStore

/-- The log of the second world is that of the first and events that `P` allows, latest first. -/
def Logs (P : Event → Prop) (w w' : World) : Prop :=
  ∃ events, w'.log = events ++ w.log ∧ ∀ e ∈ events, P e

theorem logs_frame {P : Event → Prop} : Action.Frame (Logs P) where
  refl _ := ⟨[], rfl, by simp⟩
  trans := by
    rintro a b c ⟨xs, logB, allowed⟩ ⟨ys, logC, allowed'⟩
    refine ⟨ys ++ xs, by rw [logC, logB, List.append_assoc], fun e member => ?_⟩
    rcases List.mem_append.mp member with late | early
    · exact allowed' e late
    · exact allowed e early

theorem Logs.mono {P Q : Event → Prop} (logs : Logs P w w') (weaker : ∀ e, P e → Q e) :
    Logs Q w w' := by
  obtain ⟨events, log, allowed⟩ := logs
  exact ⟨events, log, fun e member => weaker e (allowed e member)⟩

theorem Logs.one {P : Event → Prop} {e : Event} (log : w'.log = e :: w.log) (allowed : P e) :
    Logs P w w' :=
  ⟨[e], log, by simpa using allowed⟩

theorem Logs.of_log {P : Event → Prop} (same : w'.log = w.log) : Logs P w w' :=
  ⟨[], same, by simp⟩

/-- Among the events between two logs there is one that `P` allows. -/
def Shows (P : Event → Prop) (w w' : World) : Prop :=
  ∃ events, w'.log = events ++ w.log ∧ ∃ e ∈ events, P e

section
variable {P Q : Event → Prop} {w₁ : World}

theorem Shows.before (shows : Shows P w w₁) (later : Logs Q w₁ w') : Shows P w w' := by
  obtain ⟨events, log, e, member, shown⟩ := shows
  obtain ⟨more, log', _⟩ := later
  exact ⟨more ++ events, by rw [log', log, List.append_assoc], e, List.mem_append_right _ member, shown⟩

theorem Shows.behind (earlier : Logs Q w w₁) (shows : Shows P w₁ w') : Shows P w w' := by
  obtain ⟨events, log, _⟩ := earlier
  obtain ⟨more, log', e, member, shown⟩ := shows
  exact ⟨more ++ events, by rw [log', log, List.append_assoc], e, List.mem_append_left _ member, shown⟩

theorem Shows.one {e : Event} (log : w'.log = e :: w.log) (shown : P e) : Shows P w w' :=
  ⟨[e], log, e, List.mem_singleton_self e, shown⟩

end

/-- The events of two logs in a row, which are the only ones that lead from one log to the other. -/
theorem events_unique {log events events' : List Event} (same : events ++ log = events' ++ log) :
    events = events' :=
  List.append_cancel_right same

theorem Logs.not_shows {P : Event → Bool} (logs : Logs (fun e => P e = false) w w') :
    ¬ Shows (fun e => P e = true) w w' := by
  rintro ⟨events, log, e, member, shown⟩
  obtain ⟨events', log', none⟩ := logs
  obtain rfl := events_unique (log'.symm.trans log)
  exact absurd shown (by simp [none e member])

theorem Reaches.logs (path : Reaches ok w w') : Logs (Event.Within ok) w w' := by
  induction path with
  | refl => exact logs_frame.refl w
  | connect _ ih =>
    obtain ⟨_, noted⟩ := connect_noted _
    exact logs_frame.trans ih (.one noted.log trivial)
  | send _ allowed ih =>
    obtain ⟨_, noted⟩ := send_noted _ _
    exact logs_frame.trans ih (.one noted.log allowed)
  | disconnect _ ih => exact logs_frame.trans ih (.one (disconnect_noted _).log trivial)

/-- What answering every allowed request keeps of a host stands at the end of an undisturbed way. -/
theorem Reaches.host {P : Host → Prop} (path : Reaches ok w w') (quiet : w.Undisturbed)
    (kept : ∀ r h, ok r → P h → P (h.answer r).2) (start : P w.host.objects) : P w'.host.objects := by
  -- Connecting changes the host as well, so `P` is carried along on its objects.
  induction path with
  | refl => exact start
  | @connect w₁ before ih =>
    have ended := connect_cases (before.store.undisturbed quiet) (Action.run_halves _ _)
    rcases ended with ⟨_, idle⟩ | ⟨_, idle⟩
    · rw [idle.objects]; exact ih
    · rw [idle.objects]; exact ih
  | @send w₁ r before allowed ih =>
    have ended := send_cases (before.store.undisturbed quiet) ((Session.send r).run_halves w₁)
    rcases ended with ⟨_, _, _, _, same, _⟩ | ⟨answer, _⟩
    · rw [same]; exact ih
    · have objects := congrArg (·.2) (Host.answer_objects w₁.host r)
      simp only [answer] at objects
      rw [← objects]
      exact kept r _ allowed ih
  | @disconnect w₁ before ih =>
    have ended := disconnect_cases (before.store.undisturbed quiet) (Action.run_halves _ _)
    rw [ended.2.objects]; exact ih

theorem Reaches.objects (path : Reaches Request.IsQuery w w') (quiet : w.Undisturbed) :
    w'.host.objects = w.host.objects :=
  path.host (P := fun h => h = w.host.objects) quiet
    (fun _ _ query same => (Host.answer_query query).trans same) rfl

theorem Reaches.domain {name : String} (path : Reaches ok w w') (quiet : w.Undisturbed)
    (others : ∀ r, ok r → r.domain? ≠ some name) :
    w'.host.domains[name]? = w.host.domains[name]? :=
  path.host (P := fun h => h.domains[name]? = w.host.domains[name]?) quiet
    (fun r _ allowed same => (Host.answer_domain_other (others r allowed)).trans same) rfl

theorem Reaches.volume {pool volume : String} (path : Reaches ok w w') (quiet : w.Undisturbed)
    (others : ∀ r, ok r → r.volume? ≠ some (pool, volume)) :
    w'.host.volume? pool volume = w.host.volume? pool volume :=
  path.host (P := fun h => h.volume? pool volume = w.host.volume? pool volume) quiet
    (fun r _ allowed same => (Host.answer_volume_other (others r allowed)).trans same) rfl

theorem connected_refused {body : Action Error α} {e : Error}
    (refused : connect w = (.failed e, w')) : connected body w = (.failed e, w') :=
  Action.bind_of_failed refused

/-- Unless the body overflows, the connection is closed behind it and its end is the end. -/
theorem connected_run {body : Action Error α} {o : Outcome Error α} {w₁ w₂ : World}
    {d : Outcome HostError Unit} (opened : connect w = (.done (), w₁)) (ran : body w₁ = (o, w₂))
    (ended : o ≠ .overflow) (closed : disconnect w₂ = (d, w')) (shut : d ≠ .overflow) :
    connected body w = (o, w') := by
  rw [connected, Action.bind_of_done opened]
  cases o with
  | done a =>
    rw [Action.bind_of_done (Action.attempt_of_done ran)]
    cases d with
    | done => rw [Action.bind_of_done (Action.attempt_of_done closed)]; rfl
    | failed => rw [Action.bind_of_done (Action.attempt_of_failed closed)]; rfl
    | overflow => exact absurd rfl shut
  | failed e =>
    rw [Action.bind_of_done (Action.attempt_of_failed ran)]
    cases d with
    | done => rw [Action.bind_of_done (Action.attempt_of_done closed)]; rfl
    | failed => rw [Action.bind_of_done (Action.attempt_of_failed closed)]; rfl
    | overflow => exact absurd rfl shut
  | overflow => exact absurd rfl ended

theorem connected_overflow {body : Action Error α} {w₁ : World}
    (opened : connect w = (.done (), w₁)) (ran : body w₁ = (.overflow, w')) :
    connected body w = (.overflow, w') := by
  rw [connected, Action.bind_of_done opened, Action.bind_run, Action.attempt, ran]

/-- Closing a connection leaves the end of what was done over it, unless it overflows. -/
theorem closing_ways {result : Except Error α} {o : Outcome Error α}
    (run : (do let _ ← disconnect.attempt; Action.ofExcept result : Action Error α) w = (o, w')) :
    w' = (disconnect w).2 ∧ (o = .ofExcept result ∧ (disconnect w).1 ≠ .overflow ∨ o = .overflow) := by
  rw [Action.bind_run, Action.attempt] at run
  generalize disconnect w = closed at run ⊢
  obtain ⟨_ | _ | _, w₁⟩ := closed
  · cases result <;> obtain ⟨rfl, rfl⟩ := Prod.mk.inj run <;> exact ⟨rfl, .inl ⟨rfl, by simp⟩⟩
  · cases result <;> obtain ⟨rfl, rfl⟩ := Prod.mk.inj run <;> exact ⟨rfl, .inl ⟨rfl, by simp⟩⟩
  · obtain ⟨rfl, rfl⟩ := Prod.mk.inj run
    exact ⟨rfl, .inr rfl⟩

/-- The connection was not opened, or the body ran over it, which was closed unless the body overflowed. -/
theorem connected_ways {body : Action Error α} {o : Outcome Error α} (run : connected body w = (o, w')) :
    (∃ o₁, o₁.isDone = false ∧ connect w = (o₁, w') ∧ o.isDone = false) ∨
    ∃ w₁ o₁ w₂, connect w = (.done (), w₁) ∧ body w₁ = (o₁, w₂) ∧
      (w' = w₂ ∧ o = .overflow ∨
        w' = (disconnect w₂).2 ∧ (o = o₁ ∧ (disconnect w₂).1 ≠ .overflow ∨ o = .overflow)) := by
  rcases Action.bind_cases run with ⟨_, w₁, opened, rest⟩ | ⟨e, refused, rfl⟩ | ⟨refused, rfl⟩
  · rcases Action.bind_cases rest with ⟨result, w₂, tried, closed⟩ | ⟨_, tried, _⟩ | ⟨tried, rfl⟩ <;>
      rcases Action.attempt_cases tried with ⟨a, ran, same⟩ | ⟨e, ran, same⟩ | ⟨ran, same⟩ <;> cases same
    · exact .inr ⟨w₁, _, w₂, opened, ran, .inr (closing_ways closed)⟩
    · exact .inr ⟨w₁, _, w₂, opened, ran, .inr (closing_ways closed)⟩
    · exact .inr ⟨w₁, _, w', opened, ran, .inl ⟨rfl, rfl⟩⟩
  · exact .inl ⟨_, rfl, refused, rfl⟩
  · exact .inl ⟨_, rfl, refused, rfl⟩

theorem connected_done {body : Action Error α} {a : α} (run : connected body w = (.done a, w')) :
    ∃ w₁ w₂, connect w = (.done (), w₁) ∧ body w₁ = (.done a, w₂) ∧ w' = (disconnect w₂).2 := by
  rcases connected_ways run with
    ⟨_, _, _, turned⟩ | ⟨w₁, _, w₂, opened, ran, ⟨_, same⟩ | ⟨closed, ⟨same, _⟩ | same⟩⟩
  · cases turned
  · cases same
  · exact ⟨w₁, w₂, opened, same ▸ ran, closed⟩
  · cases same

theorem connect_failed {e : Error} (run : connect w = (.failed e, w')) : ∃ reason, e = .connection reason := by
  unfold connect at run
  split at run
  next =>
    cases run
    exact ⟨_, rfl⟩
  next => cases run
  next =>
    split at run
    · cases run
      exact ⟨_, rfl⟩
    · cases run

theorem connected_failed {body : Action Error α} {e : Error} (run : connected body w = (.failed e, w')) :
    (∃ reason, e = .connection reason) ∨ ∃ w₁ w₂, body w₁ = (.failed e, w₂) := by
  rcases Action.bind_cases run with ⟨_, w₁, opened, _⟩ | ⟨e', refused, same⟩ | ⟨_, same⟩
  · rcases connected_ways run with ⟨_, turned, again, _⟩ | ⟨w₁, _, w₂, _, ran, ⟨_, same⟩ | ⟨_, ⟨rfl, _⟩ | same⟩⟩
    · cases opened.symm.trans again
      cases turned
    · cases same
    · exact .inr ⟨w₁, w₂, ran⟩
    · cases same
  · cases same
    exact .inl (connect_failed refused)
  · cases same

/-- What is in the log of an operation is there as well when it is done over a connection. -/
theorem connected_shows {body : Action Error α} {a : α} (run : connected body w = (.done a, w')) :
    ∃ w₁ w₂, body w₁ = (.done a, w₂) ∧ ∀ {P : Event → Prop}, Shows P w₁ w₂ → Shows P w w' := by
  obtain ⟨w₁, w₂, opened, ran, rfl⟩ := connected_done run
  have opening : Logs (fun _ => True) w w₁ := .one (connect_log opened) trivial
  have closing : Logs (fun _ => True) w₂ (disconnect w₂).2 := .one (disconnect_noted w₂).log trivial
  exact ⟨w₁, w₂, ran, fun shows => (Shows.behind opening shows).before closing⟩

end Session

end MachineKeeper
