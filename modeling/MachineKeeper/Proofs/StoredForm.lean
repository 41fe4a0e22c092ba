import MachineKeeper.Proofs.JsonRecord

/-! What is stored of machines reads back as it was. -/
namespace MachineKeeper

open Document Json

theorem Spec.recovers (s : Spec) : Recovers Spec.reader s.json s := by
  apply Assembles.recovers
  · refine Assembles.seq (.seq (.seq (.seq (.seq (.seq (.seq (.seq (.map _ ?name) ?network) ?pool)
      ?cpu) ?memory) ?disk) ?image) ?format) ?userData
    case name | network | pool | image | format =>
      exact assembles_field (by simp [List.lookup_cons]) (recovers_text _)
    case cpu => exact assembles_field (by simp [List.lookup_cons]) (recovers_word32 _)
    case memory | disk => exact assembles_field (by simp [List.lookup_cons]) (recovers_word64 _)
    case userData =>
      exact assembles_unless (by simp [List.lookup_cons]) (recovers_text _) Eq.symm
  · decide
  · rw [List.map_append]
    exact (List.Sublist.refl _).append (member?_ordered _ _)

theorem Phase.recovers (p : Phase) : Recovers Phase.reader p.json p := by
  refine ⟨trivial, fun ctx => ?_⟩
  simp only [Phase.reader, variant, Phase.json, node, Leaf.ofText, Phase.ofText?_text]

theorem Address.recovers_kind : Recovers Address.kindReader (.string Address.kind) () :=
  ⟨trivial, fun _ => rfl⟩

theorem Address.recovers (a : Address) : Recovers Address.reader a.json a := by
  apply Assembles.recovers
  · refine Assembles.seq (.map _ (assembles_field ?kind Address.recovers_kind)) ?address
    case kind => simp
    case address => exact assembles_field (by simp [List.lookup_cons]) (recovers_text _)
  · decide
  · exact List.Sublist.refl _

theorem Status.recovers (s : Status) : Recovers Status.reader s.json s := by
  apply Assembles.recovers
  · refine Assembles.seq (.seq (.seq (.seq (.seq (.map _ ?phase) ?ready) ?provisioned) ?addresses)
      ?providerId) ?failureMessage
    case phase => exact assembles_field (by simp) s.phase.recovers
    case ready | provisioned =>
      exact assembles_field (by simp [List.lookup_cons]) (recovers_flag _)
    case addresses =>
      exact assembles_unless (by simp [List.lookup_append, List.lookup_cons])
        (recovers_list Address.recovers _) Eq.symm
    case providerId | failureMessage =>
      exact assembles_optional (by simp [List.lookup_append, List.lookup_cons]) recovers_text nofun
  · decide
  · simp only [List.map_append]
    exact (((List.Sublist.refl _).append (member?_ordered _ _)).append (member?_ordered _ _)).append
      (member?_ordered _ _)

theorem Prerequisites.recovers (p : Prerequisites) : Recovers Prerequisites.reader p.json p := by
  apply Assembles.recovers
  · refine Assembles.seq (.seq (.map _ ?owner) ?cluster) ?provisioned
    all_goals exact assembles_field (by simp [List.lookup_cons]) (recovers_flag _)
  · decide
  · exact List.Sublist.refl _

theorem Record.recovers (r : Record) : Recovers Record.reader r.json r := by
  apply Assembles.recovers
  · refine Assembles.seq (.seq (.seq (.seq (.seq (.seq (.seq (.map _ ?spec) ?status) ?version)
      ?deletion) ?paused) ?finalizer) ?prerequisites) ?secret
    case spec => exact assembles_field (by simp) r.spec.recovers
    case status => exact assembles_field (by simp [List.lookup_cons]) r.status.recovers
    case version => exact assembles_field (by simp [List.lookup_cons]) (recovers_word64 _)
    case deletion | paused | finalizer =>
      exact assembles_field (by simp [List.lookup_cons]) (recovers_flag _)
    case prerequisites => exact assembles_field (by simp [List.lookup_cons]) r.prerequisites.recovers
    case secret => exact assembles_optional (by simp [List.lookup_cons]) recovers_text nofun
  · decide
  · rw [List.map_append]
    exact (List.Sublist.refl _).append (member?_ordered _ _)

theorem BootstrapEntry.recovers (b : BootstrapEntry) : Recovers BootstrapEntry.reader b.json b := by
  apply Assembles.recovers
  · refine Assembles.seq (.map _ ?value) ?format
    case value => exact assembles_field (by simp) (recovers_text _)
    case format =>
      exact assembles_field (by simp [List.lookup_cons]) (recovers_ofOption recovers_text nofun _)
  · decide
  · exact List.Sublist.refl _

theorem Manifest.recovers (m : Manifest) : Recovers Manifest.reader m.json m := by
  apply Assembles.recovers
  · refine Assembles.seq (.seq (.seq (.seq (.seq (.seq (.seq (.seq (.map _ ?name) ?network) ?pool)
      ?cpu) ?memory) ?disk) ?image) ?format) ?bootstrap
    case name | image => exact assembles_field (by simp [List.lookup_cons]) (recovers_text _)
    case network | pool | format =>
      exact assembles_field (by simp [List.lookup_cons]) (recovers_ofOption recovers_text nofun _)
    case cpu => exact assembles_field (by simp [List.lookup_cons]) (recovers_word32 _)
    case memory | disk => exact assembles_field (by simp [List.lookup_cons]) (recovers_word64 _)
    case bootstrap =>
      exact assembles_field (by simp [List.lookup_cons])
        (recovers_ofOption BootstrapEntry.recovers nofun _)
  · decide
  · exact List.Sublist.refl _

/-- The text that is written of a specification, a status, a record or a manifest reads back as
what it was written of. -/
theorem stored_form_reads_back :
    (∀ s : Spec, Json.read Spec.reader s.json.compact = .ok s) ∧
    (∀ s : Status, Json.read Status.reader s.json.compact = .ok s) ∧
    (∀ r : Record, Json.read Record.reader r.json.compact = .ok r) ∧
    (∀ m : Manifest, Json.read Manifest.reader m.json.compact = .ok m) :=
  ⟨fun s => s.recovers.read, fun s => s.recovers.read, fun r => r.recovers.read,
    fun m => m.recovers.read⟩

end MachineKeeper
