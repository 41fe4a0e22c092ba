import MachineKeeper.Proofs.Reconcile

/-! A machine whose deletion is requested. Its record goes only once the probe has said that there is
no domain or the domain has been undefined; but the probe says so too when it gets no answer. -/
namespace MachineKeeper.Reconcile

open Session MachineKeeper.Action Store

variable {ε : Type} {w w' : World} {name : String}

/-- A domain that is left behind was there before, and the first question, the one for it, got no answer. -/
def LeavesUnseen (domain : String) (w w' : World) : Prop :=
  domain ∈ w'.host.domains → domain ∈ w.host.domains ∧ Unanswered (.domainState domain) w.log w'.log

theorem LeavesUnseen.around {domain : String} {a b : World} (leaves : LeavesUnseen domain a b)
    (before : SameHost w a) (behind : SameHost b w') : LeavesUnseen domain w w' := by
  unfold LeavesUnseen at leaves ⊢
  rwa [behind.host, behind.log, ← before.host, ← before.log]

theorem eject_retains (record : Record) : (eject record).Keeps (Retains name) :=
  eject_keeps retains_frame record ((Lifecycle.isDefined_reaches _).mono reaches_retains)
    ((Lifecycle.destroy_reaches _ _).mono reaches_retains)

theorem eject_stays_store (record : Record) : (eject record).Keeps SameStore :=
  eject_keeps sameStore_frame record ((Lifecycle.isDefined_reaches _).mono Reaches.store)
    ((Lifecycle.destroy_reaches _ _).mono Reaches.store)

theorem eject_done {record : Record} (quiet : w.Undisturbed) (calls : w.CallErrors)
    (run : eject record w = (.done (), w')) : LeavesUnseen record.name w w' := by
  obtain ⟨found, w₁, probed, rest⟩ := bind_done run
  have asked := apart_done probed
  rcases Lifecycle.isDefined_cases quiet calls asked with ⟨_, same, _, _⟩ | ⟨same, unseen⟩ <;> cases same
  · have path : Reaches _ w w₁ := (Lifecycle.isDefined_reaches record.name).of_run asked
    rcases apart_cases rest with ⟨_, destroyed, _⟩ | ⟨_, _, same⟩ | ⟨_, same⟩
    · exact fun left => absurd left (Lifecycle.destroy_done (path.store.undisturbed quiet)
        (path.store.callErrors calls) destroyed)
    · cases same
    · cases same
  · obtain ⟨-, rfl⟩ := Prod.mk.inj rest
    intro left
    have there : record.name ∈ w.host.domains := by
      rwa [← Host.domains_of_objects (Lifecycle.isDefined_objects quiet asked)]
    exact ⟨there, unseen there⟩

/-- Wherever a deletion stops before the domain is seen to, the record stays. -/
theorem remove_cases {record : Record} {o : Outcome Failure Next} (quiet : w.Undisturbed)
    (calls : w.CallErrors) (run : remove record w = (o, w')) :
    Retains name w w' ∨ LeavesUnseen record.name w w' ∧ w'.Undisturbed := by
  have marked : (publish record.name ({ · with phase := .deleting })).Keeps (Retains name) :=
    publish_retains (by simp)
  rw [remove_eq] at run
  rcases bind_cases run with ⟨_, w₁, begun, rest⟩ | ⟨_, begun, _⟩ | ⟨begun, _⟩
  · have same := (publish_keeps stays_store (.moved (by decide))).of_run begun quiet
    have kept := marked.of_run begun
    have quiet₁ := same.undisturbed quiet
    rcases bind_cases rest with ⟨_, w₂, ejected, rest⟩ | ⟨_, ejected, _⟩ | ⟨ejected, _⟩
    · have unseen := eject_done quiet₁ (same.callErrors calls) ejected
      have quiet₂ := ((eject_stays_store record).of_run ejected).undisturbed quiet₁
      have same' := (letGo_keeps stays_store record).of_run rest quiet₂
      exact .inr ⟨unseen.around same same', same'.undisturbed quiet₂⟩
    · exact .inl (retains_frame.trans kept ((eject_retains record).of_run ejected))
    · exact .inl (retains_frame.trans kept ((eject_retains record).of_run ejected))
  · exact .inl (marked.of_run begun)
  · exact .inl (marked.of_run begun)

/-- Whatever fails in a pass, when the record of a machine to be deleted is let go of there is no
domain, except where there was one and the probe for it, with which the pass begins, got no answer. -/
theorem released_unseen {intervals : Intervals} {record : Record} {o : Outcome ε Next}
    (quiet : w.Undisturbed) (calls : w.CallErrors) (found : w.records[name]? = some record)
    (unfinished : record.status.phase ≠ .deleted) (active : record.paused = false)
    (requested : record.deletionRequested = true) (run : runPass intervals name w = (o, w'))
    (released : Released name w') (left : record.name ∈ w'.host.domains) :
    record.name ∈ w.host.domains ∧ Unanswered (.domainState record.name) w.log w'.log := by
  have held : ¬ Released name w := fun released => unfinished (released record found)
  obtain ⟨o₁, w₂, reconciled, stays, retains⟩ := runPass_cases run
  obtain ⟨w₁, same, records, rfl | stepped⟩ := reconcile_cases quiet found reconciled
  · exact absurd (Released.of_records records (retains released)) held
  have quiet₁ := same.undisturbed quiet
  have removed : remove record w₁ = (o₁, w₂) := by
    simpa [step, unfinished, active, requested] using stepped
  have ended : Retains name w₁ w₂ ∨ _ := remove_cases quiet₁ (same.callErrors calls) removed
  rcases ended with kept | ⟨unseen, quiet₂⟩
  · exact absurd (Released.of_records records (kept (retains released))) held
  · exact unseen.around same (stays quiet₂) left

def doomed : Record := { Record.ofSpec (.ofName "m") with deletionRequested := true }

/-- The machine runs, on a host that refuses connections. -/
def orphaned : World :=
  { World.serving doomed with host := { (World.serving doomed).host with refusesConnections := true } }

def orphanedPass : Outcome Failure Next × World := runPass .standard "m" orphaned

theorem orphaned_released : Released "m" orphanedPass.2 := by
  have gone : orphanedPass.2.records["m"]? = none := by decide +kernel
  intro record there
  cases gone.symm.trans there

theorem released_unseen_orphaned :
    Released "m" orphanedPass.2 ∧ doomed.name ∈ orphanedPass.2.host.domains ∧
      doomed.name ∈ orphaned.host.domains ∧
      Unanswered (.domainState doomed.name) orphaned.log orphanedPass.2.log := by
  have found : orphaned.records["m"]? = some doomed := by decide
  have run : runPass .standard "m" orphaned = (orphanedPass.1, orphanedPass.2) := rfl
  have left : doomed.name ∈ orphanedPass.2.host.domains := by decide +kernel
  exact ⟨orphaned_released, left, released_unseen (World.undisturbed_of_nil rfl rfl)
    (World.callErrors_of_nil rfl) found (by decide) rfl rfl run orphaned_released left⟩

/-- It is not so that a record is let go of only where there is no domain. -/
theorem released_still_defined : ¬ ∀ (w : World) (name : String) (record : Record)
    (o : Outcome Failure Next) (w' : World), w.Undisturbed → w.CallErrors →
    w.records[name]? = some record → record.name = name → record.status.phase ≠ .deleted →
    record.paused = false → record.deletionRequested = true →
    runPass .standard name w = (o, w') → Released name w' → name ∉ w'.host.domains := by
  intro claimed
  have absent := claimed orphaned "m" doomed _ _ (World.undisturbed_of_nil rfl rfl)
    (World.callErrors_of_nil rfl) (by decide) rfl (by decide) rfl rfl rfl orphaned_released
  exact absurd (by decide +kernel) absent

end MachineKeeper.Reconcile
