import MachineKeeper.Proofs.Holding
import MachineKeeper.Proofs.Matching

/-! A teardown that stops short. Any call may fail, but only in ways that leave the machine whole: the domain
is undefined before any of its volumes is deleted, and once it is undefined nothing that fails is reported. -/
namespace MachineKeeper

namespace Session

variable {ε δ α β : Type} {w w' : World} {r : Request}

/-- An operation that is done whatever calls fail. -/
def Unfailing (m : Action ε α) : Prop :=
  ∀ w : World, w.Undisturbed → ∃ a w', m w = (.done a, w') ∧ w'.Undisturbed

theorem unfailing_pure (a : α) : Unfailing (pure a : Action ε α) := fun w quiet => ⟨a, w, rfl, quiet⟩

theorem Unfailing.bind {m : Action ε α} {f : α → Action ε β} (first : Unfailing m)
    (rest : ∀ a, Unfailing (f a)) : Unfailing (m >>= f) := by
  intro w quiet
  obtain ⟨a, w₁, ran, quiet₁⟩ := first w quiet
  rw [Action.bind_of_done ran]
  exact rest a w₁ quiet₁

theorem unfailing_attempt_send (plain : r.call ≠ .defineDomain) :
    Unfailing ((send r).attempt : Action δ (Except HostError r.Reply)) := by
  intro w quiet
  obtain ⟨o, w', sent⟩ : ∃ o w', send r w = (o, w') := ⟨_, _, rfl⟩
  have quiet' := send_undisturbed quiet sent
  cases o with
  | done a => exact ⟨_, w', Action.attempt_of_done sent, quiet'⟩
  | failed e => exact ⟨_, w', Action.attempt_of_failed sent, quiet'⟩
  | overflow => exact absurd (send_overflow quiet sent) plain

end Session

namespace Lifecycle

open Session MachineKeeper.Action

variable {w w' : World} {name pool : String}

theorem deleteIfThere_unfailing (pool volume : String) : Unfailing (deleteIfThere pool volume) := by
  apply (unfailing_attempt_send (by nofun)).bind
  rintro (_ | _)
  · exact unfailing_pure ()
  · exact (unfailing_attempt_send (by nofun)).bind fun _ => unfailing_pure ()

theorem deleteVolumes_unfailing (pool : String) (names : Names) : Unfailing (deleteVolumes pool names) := by
  apply (unfailing_attempt_send (by nofun)).bind
  rintro (_ | _)
  · exact unfailing_pure ()
  · apply (unfailing_attempt_send (by nofun)).bind
    intro _
    apply (deleteIfThere_unfailing pool _).bind
    intro _
    apply (deleteIfThere_unfailing pool _).bind
    intro _
    exact (unfailing_attempt_send (by nofun)).bind fun _ => unfailing_pure ()

/-- What a teardown may have done to a host that did not come to its end: it powered the domain off. -/
structure StoppedShort (name : String) (h h' : Host) : Prop where
  pools : h'.pools = h.pools
  others : ∀ other, other ≠ name → h'.domains[other]? = h.domains[other]?
  domain : h'.domains[name]? = h.domains[name]? ∨ ∃ domain, h.domains[name]? = some domain ∧
    h'.domains[name]? = some { domain with state := .shutoff, interfaces := [] }

theorem stoppedShort_refl (name : String) (h : Host) : StoppedShort name h h := ⟨rfl, fun _ _ => rfl, .inl rfl⟩

theorem StoppedShort.of_objects {h h' k k' : Host} (stopped : StoppedShort name h h')
    (start : k.objects = h.objects) (ended : k'.objects = h'.objects) : StoppedShort name k k' := by
  have domains := Host.domains_of_objects start
  have domains' := Host.domains_of_objects ended
  refine ⟨?_, fun other ne => ?_, ?_⟩
  · rw [Host.pools_of_objects start, Host.pools_of_objects ended, stopped.pools]
  · rw [domains, domains', stopped.others other ne]
  · rw [domains, domains']
    exact stopped.domain

theorem stoppedShort_halted {h : Host} {domain : Domain} (there : h.domains[name]? = some domain) :
    StoppedShort name h (h.setDomain name { domain with state := .shutoff, interfaces := [] }) := by
  refine ⟨rfl, fun other ne => ?_, .inr ⟨domain, there, Host.setDomain_domains_self _ _ _⟩⟩
  simp [Host.setDomain, Std.ExtTreeMap.getElem?_insert, Ne.symm ne]

/-- A step of a teardown whose failure is reported leaves the host as it was when it fails. -/
theorem ask_cases {r : Request} {context : String} {o : Outcome Error r.Reply} (quiet : w.Undisturbed)
    (plain : r.call ≠ .defineDomain) (run : ask context r w = (o, w')) :
    (∃ a, send r w = (.done a, w') ∧ o = .done a) ∨ (∃ e, o = .failed e) ∧ w'.host = w.host := by
  obtain ⟨o₁, sent, rfl⟩ := mapError_cases run
  cases o₁ with
  | done a => exact .inl ⟨a, sent, rfl⟩
  | failed e => exact .inr ⟨⟨_, rfl⟩, send_turned quiet sent rfl⟩
  | overflow => exact absurd (send_overflow quiet sent) plain

theorem undefine_falls {o : Outcome Error Unit} (quiet : w.Undisturbed)
    (run : undefine name pool w = (o, w')) : o = .done () ∨ (∃ e, o = .failed e) ∧ w'.host = w.host := by
  rcases bind_cases run with ⟨_, w₁, asked, rest⟩ | ⟨e, asked, rfl⟩ | ⟨asked, rfl⟩
  · obtain ⟨_, sent, _⟩ := mapError_cases asked
    obtain ⟨_, _, cleared, _⟩ := deleteVolumes_unfailing pool (.of name) w₁ (send_undisturbed quiet sent)
    exact .inl (Prod.mk.inj (rest.symm.trans cleared)).1
  · rcases ask_cases quiet (by nofun) asked with ⟨_, _, same⟩ | turned
    · cases same
    · exact .inr turned
  · rcases ask_cases quiet (by nofun) asked with ⟨_, _, same⟩ | ⟨⟨_, same⟩, _⟩
    · cases same
    · cases same

theorem teardown_falls {o : Outcome Error Unit} (quiet : w.Undisturbed)
    (run : teardown name pool w = (o, w')) :
    o = .done () ∨ (∃ e, o = .failed e) ∧ StoppedShort name w.host w'.host := by
  rcases bind_cases run with ⟨result, w₁, asked, rest⟩ | ⟨e, asked, _⟩ | ⟨asked, _⟩ <;>
    rcases attempt_cases asked with ⟨state, sent, same⟩ | ⟨e, sent, same⟩ | ⟨sent, same⟩ <;> cases same
  · have host : w₁.host = w.host := send_query quiet ⟨rfl, rfl⟩ sent
    have quiet₁ := send_undisturbed quiet sent
    rw [← host]
    dsimp only at rest
    split at rest
    · rcases bind_cases rest with ⟨_, w₂, stopped, rest⟩ | ⟨e, stopped, rfl⟩ | ⟨stopped, rfl⟩ <;>
        rcases ask_cases quiet₁ (by nofun) stopped with ⟨_, sent, same⟩ | ⟨⟨_, same⟩, host⟩ <;> cases same
      · obtain ⟨domain, there, halted⟩ := Host.answer_destroyDomain_done (send_answer quiet₁ sent)
        refine (undefine_falls (send_undisturbed quiet₁ sent) rest).imp_right (And.imp_right fun same => ?_)
        rw [same, halted]
        exact stoppedShort_halted there
      · exact .inr ⟨⟨_, rfl⟩, host ▸ stoppedShort_refl name _⟩
    · refine (undefine_falls quiet₁ rest).imp_right (And.imp_right fun same => ?_)
      rw [same]
      exact stoppedShort_refl name _
  · have host := send_turned quiet sent rfl
    rw [← host]
    dsimp only at rest
    split at rest <;> obtain ⟨rfl, rfl⟩ := Prod.mk.inj rest
    · exact .inl rfl
    · exact .inr ⟨⟨_, rfl⟩, stoppedShort_refl name _⟩
  · exact absurd (send_overflow quiet sent) (by nofun)

theorem destroy_falls {o : Outcome Error Unit} (quiet : w.Undisturbed)
    (run : destroy name pool w = (o, w')) :
    o = .done () ∨ (∃ e, o = .failed e) ∧ StoppedShort name w.host w'.host := by
  rw [destroy_eq] at run
  rcases connected_cases quiet (teardown_reaches name pool) run with
    ⟨⟨_, rfl⟩, idle⟩ | ⟨w₁, w₂, opened, ran, closed⟩
  · exact .inr ⟨⟨_, rfl⟩, (stoppedShort_refl name w.host).of_objects rfl idle.objects⟩
  · have fell := teardown_falls (opened.toSameStore.undisturbed quiet) ran
    rcases closed with idle | ⟨rfl, _⟩
    · exact fell.imp_right (And.imp_right fun stopped =>
        stopped.of_objects opened.objects.symm idle.objects)
    · rcases fell with same | ⟨⟨_, same⟩, _⟩ <;> cases same

/-- A volume is deleted once the domain is undefined, and not before. -/
def DeletesLast (name : String) (e : Event) (past : List Event) : Prop :=
  ∀ pool volume reached outcome, e = .request (.deleteVolume pool volume) reached outcome →
    .request (.undefineDomain name) true (.done ()) ∈ past

theorem deletesLast_frame (name : String) : Frame (Sequenced (DeletesLast name)) :=
  sequenced_frame fun earlier first pool volume reached outcome same =>
    List.mem_append_left earlier (first pool volume reached outcome same)

theorem send_deletesLast {r : Request} (other : r.call ≠ .deleteVolume) :
    (send r).Keeps (Sequenced (DeletesLast name)) := by
  intro w
  obtain ⟨reached, noted⟩ := send_noted r w
  refine .one noted.log ?_
  rintro pool volume _ _ ⟨⟩
  exact absurd rfl other

theorem undefine_deletesLast (name pool : String) :
    (undefine name pool).Keeps (Sequenced (DeletesLast name)) := by
  intro w
  have asks : (ask s!"failed to undefine domain '{name}'" (.undefineDomain name)).Keeps
      (Sequenced (DeletesLast name)) := (send_deletesLast (by nofun)).mapError _
  rcases bind_cases (run_halves (undefine name pool) w) with
    ⟨_, w₁, asked, rest⟩ | ⟨e, asked, _⟩ | ⟨asked, _⟩
  · have undefined := send_done (ask_done asked)
    obtain ⟨late, log, _⟩ := ((deleteVolumes_reaches pool (.of name)).of_run rest).logs
    refine ⟨late ++ [.request (.undefineDomain name) true (.done ())], ?_, ?_⟩
    · rw [log, undefined, List.append_assoc]
      rfl
    · refine .append (.cons nofun (ordered_nil _)) fun e past _ pool volume _ _ _ => ?_
      exact List.mem_append_right past (List.mem_singleton_self _)
  · exact asks.of_run asked
  · exact asks.of_run asked

theorem teardown_deletesLast (name pool : String) :
    (teardown name pool).Keeps (Sequenced (DeletesLast name)) := by
  have frame := deletesLast_frame name
  apply frame.bind (send_deletesLast (by nofun)).attempt
  rintro (e | state)
  · dsimp only
    split
    · exact frame.pure ()
    · exact frame.fail _
  · dsimp only
    split
    · exact frame.bind ((send_deletesLast (by nofun)).mapError _) fun _ => undefine_deletesLast name pool
    · exact undefine_deletesLast name pool

theorem destroy_deletesLast (name pool : String) :
    (destroy name pool).Keeps (Sequenced (DeletesLast name)) := by
  rw [destroy_eq]
  exact connected_sequenced (deletesLast_frame name) (fun _ => nofun) nofun (teardown_deletesLast name pool)

/-- Whatever calls fail: where a teardown comes to its end there is no domain any more, and where it does not,
the machine is left whole, with its domain powered off at most. -/
theorem destroy_fails_safe {o : Outcome Error Unit} (inert : ∀ f ∈ w.hostFaults, f.changes = [])
    (calls : w.CallErrors) (run : destroy name pool w = (o, w')) :
    Sequenced (DeletesLast name) w w' ∧
    (o = .done () ∧ name ∉ w'.host.domains ∨
      (∃ e, o = .failed e) ∧ StoppedShort name w.host w'.host) := by
  refine ⟨(destroy_deletesLast name pool).of_run run, ?_⟩
  -- The store has no part in this, so that its faults may be left out of account.
  let v := { w with storeFaults := [] }
  obtain ⟨same, alike⟩ := destroy_matches name pool (w.matches_storeFaults [])
  rw [run] at same alike
  have ran : destroy name pool v = (o, (destroy name pool v).2) := Prod.ext same rfl
  have quiet : v.Undisturbed := ⟨inert, nofun⟩
  rcases destroy_falls quiet ran with rfl | ⟨failed, stopped⟩
  · have gone := destroy_done quiet calls ran
    rw [Host.domains_of_objects alike.objects] at gone
    exact .inl ⟨rfl, gone⟩
  · exact .inr ⟨failed, stopped.of_objects rfl alike.objects.symm⟩

/-- A world with a running machine whose domain cannot be undefined. -/
def jammed : World :=
  { World.serving (.ofSpec (.ofName "m")) with
    hostFaults := [⟨.call .undefineDomain, 1, some (.call (.other "busy")), []⟩] }

theorem destroy_fails_safe_jammed : (∀ f ∈ jammed.hostFaults, f.changes = []) ∧ jammed.CallErrors ∧
    ∃ e w', destroy "m" "default" jammed = (.failed e, w') ∧ StoppedShort "m" jammed.host w'.host ∧
      w'.host.domains["m"]?.map Domain.state = some .shutoff := by
  have inert : ∀ f ∈ jammed.hostFaults, f.changes = [] := by decide
  have calls : jammed.CallErrors := by simp [World.CallErrors, jammed]
  have short : (destroy "m" "default" jammed).1.isDone = false := by decide +kernel
  have halted : (destroy "m" "default" jammed).2.host.domains["m"]?.map Domain.state = some .shutoff := by
    decide +kernel
  rcases (destroy_fails_safe inert calls (run_halves (destroy "m" "default") jammed)).2 with
    ⟨done, _⟩ | ⟨⟨e, failed⟩, stopped⟩
  · rw [done] at short
    cases short
  · exact ⟨inert, calls, e, _, Prod.ext failed rfl, stopped, halted⟩

end Lifecycle

end MachineKeeper
