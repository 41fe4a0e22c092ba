import MachineKeeper.Proofs.DurationText
import MachineKeeper.Proofs.JsonRecord
import MachineKeeper.Settings

/-! The written form of settings reads back as the settings, but for the file that they came from. -/
namespace MachineKeeper.Settings

open Document Json

theorem recovers_duration (d : Duration) : Recovers duration (.string d.text) d := by
  refine ⟨trivial, fun ctx => ?_⟩
  rw [duration, (recovers_text d.text).reads]
  simp only [bind, Except.bind, Duration.ofText_text]
  rfl

theorem recovers_intervals (i : Intervals) :
    Recovers (intervalsReader.node "struct RequeueConfig") (intervalsJson i) i := by
  apply Assembles.recovers
  · refine Assembles.seq (.seq (.seq (.seq (.map _ ?paused) ?drift) ?poll) ?periodic) ?error
    all_goals exact assembles_field (by simp [List.lookup_cons]) (recovers_duration _)
  · decide
  · exact List.Sublist.refl _

theorem recovers_defaults (d : Defaults) :
    Recovers (defaultsReader.node "struct DefaultsConfig") (defaultsJson d) d := by
  apply Assembles.recovers
  · refine Assembles.seq (.seq (.map _ ?network) ?pool) ?format
    all_goals exact assembles_field (by simp [List.lookup_cons]) (recovers_text _)
  · decide
  · exact List.Sublist.refl _

theorem recovers (intervals : Intervals) (defaults : Defaults) (source? : Option String) :
    Recovers reader (json ⟨intervals, defaults, source?⟩) ⟨intervals, defaults, none⟩ := by
  apply Assembles.recovers
  · refine Assembles.seq (.map _ ?intervals) ?defaults
    case intervals => exact assembles_field (by simp) (recovers_intervals intervals)
    case defaults => exact assembles_field (by simp [List.lookup_cons]) (recovers_defaults defaults)
  · decide
  · exact List.Sublist.refl _

/-- Whatever the intervals and the defaults are, the text that is written of settings reads back as
the settings without a file that they came from. -/
theorem written_settings_read_back (intervals : Intervals) (defaults : Defaults)
    (source? : Option String) :
    Json.read reader (json ⟨intervals, defaults, source?⟩).compact = .ok ⟨intervals, defaults, none⟩ :=
  (recovers intervals defaults source?).read

end MachineKeeper.Settings
