import MachineKeeper.Proofs.Calm
import MachineKeeper.Proofs.Coupling

/-! Worlds that cannot be told apart over connections. Their hosts may differ in the connections that were
opened so far, and their stores in anything. -/
namespace MachineKeeper

/-- The hosts hold the same and behave alike, and the same faults wait for calls to them. -/
structure World.Matches (w v : World) : Prop where
  objects : v.host.objects = w.host.objects
  hostFaults : v.hostFaults = w.hostFaults

namespace Session

open MachineKeeper.Action

variable {w v : World}

theorem steady_meetFaults (site : HostSite) : Steady World.Matches (meetFaults site) := by
  intro w v alike
  obtain ⟨same, objects⟩ := Fault.fire_of_objects alike.objects (Fault.due site w.hostFaults)
  rw [meetFaults_run, meetFaults_run, alike.hostFaults, same]
  exact paired_same _ ⟨objects, rfl⟩

theorem matches_note (alike : w.Matches v) (event event' : Event) : (note event w).Matches (note event' v) :=
  ⟨alike.objects, alike.hostFaults⟩

/-- Connections are opened and closed alike, and requests answered alike, where hosts hold the same. -/
theorem mirrored_matches (machine : String) : Mirrored machine World.Matches where
  connect := by
    intro w v alike
    have met := steady_meetFaults .connect alike
    unfold connect
    revert met
    generalize meetFaults .connect w = x, meetFaults .connect v = y
    rintro (⟨-, both⟩ | ⟨e, both⟩ | both)
    next w₁ v₁ =>
      have refuses := Host.refusesConnections_of_behaviour (Host.behaviour_of_objects both.objects)
      dsimp only
      by_cases refused : w₁.host.refusesConnections = true
      · rw [if_pos refused, if_pos (refuses.trans refused)]
        exact .failed _ (matches_note both _ _)
      · rw [if_neg refused, if_neg (mt refuses.symm.trans refused)]
        exact .done ⟨rfl, both.objects, both.hostFaults⟩
    · exact .failed _ (matches_note both _ _)
    · exact .overflow (matches_note both _ _)
  disconnect := by
    intro w v alike
    have met := steady_meetFaults .disconnect alike
    unfold disconnect
    revert met
    generalize meetFaults .disconnect w = x, meetFaults .disconnect v = y
    rintro (⟨-, both⟩ | ⟨e, both⟩ | both)
    · exact .done ⟨rfl, both.objects, both.hostFaults⟩
    · exact .failed _ (matches_note both _ _)
    · exact .overflow (matches_note both _ _)
  send := by
    intro r _ w v alike
    have met := steady_meetFaults (.call r.call) alike
    unfold send
    revert met
    generalize meetFaults (.call r.call) w = x, meetFaults (.call r.call) v = y
    rintro (⟨-, both⟩ | ⟨e, both⟩ | both)
    next w₁ v₁ =>
      have failing := Host.failing_of_behaviour (Host.behaviour_of_objects both.objects)
      obtain ⟨same, objects⟩ := Host.answer_of_objects both.objects r
      dsimp only
      simp only [Host.serve, failing]
      split
      · exact .failed _ (matches_note both _ _)
      · rw [same]
        exact paired_same _ ⟨objects, both.hostFaults⟩
    · exact .failed _ (matches_note both _ _)
    · exact .overflow (matches_note both _ _)

end Session

namespace World

/-- What waits for the store cannot be told over connections. -/
theorem matches_storeFaults (w : World) (faults : List (Fault StoreSite String)) :
    w.Matches { w with storeFaults := faults } := ⟨rfl, rfl⟩

end World

namespace Lifecycle

open Session MachineKeeper.Action

variable {w v : World}

theorem create_matches (spec : Spec) (alike : w.Matches v) :
    (create spec v).1 = (create spec w).1 ∧ (create spec w).2.Matches (create spec v).2 :=
  (steady_create (mirrored_matches spec.name) rfl alike).same

theorem destroy_matches (name pool : String) (alike : w.Matches v) :
    (destroy name pool v).1 = (destroy name pool w).1 ∧ (destroy name pool w).2.Matches (destroy name pool v).2 :=
  (steady_destroy (mirrored_matches name) alike).same

end Lifecycle

end MachineKeeper
