import MachineKeeper.CloudInit
import MachineKeeper.Proofs.IsoReader
import MachineKeeper.Proofs.Precedence
import MachineKeeper.Text.Split

/-! What a machine is told of itself. A creation checks no more of a name than its length, and the meta-data has the
name in it as it is, so that a name with a break in it adds lines of its own. A machine is told its name, and nothing
else, exactly if there is no break in the name. -/
namespace MachineKeeper

namespace Lifecycle

open Session

/-- No creation turns a machine down for this name. -/
def Accepts (name : String) : Prop :=
  ∀ (spec : Spec) (w : World) (length limit : Nat), spec.name = name →
    (create spec w).1 ≠ .failed (.invalidName name length limit)

/-- All that is checked of a name is its length. -/
theorem accepts_iff {name : String} : Accepts name ↔ name.length ≤ maxNameLength := by
  constructor
  · intro accepted
    refine Nat.not_lt.mp fun long => accepted (.ofName name) default name.length maxNameLength rfl ?_
    have refused : create (.ofName name) = .fail (.invalidName name name.length maxNameLength) := if_pos long
    rw [refused, Action.fail]
  · rintro short spec w length limit rfl refused
    obtain ⟨o, w', run⟩ : ∃ o w', create spec w = (o, w') := ⟨_, _, rfl⟩
    rw [run] at refused
    subst refused
    cases built : CloudInit.image spec.name spec.userData with
    | error e =>
      rw [create, if_neg (Nat.not_lt.mpr short), built] at run
      cases (Prod.mk.inj run).1
    | ok image =>
      have fit : ¬ Unfit spec := not_or.mpr ⟨Nat.not_lt.mpr short, by simp [built]⟩
      obtain ⟨_, _, same⟩ := create_fit fit
      rw [same] at run
      rcases connected_failed run with ⟨reason, same⟩ | ⟨_, _, ran⟩
      · cases same
      · obtain ⟨o, _, failed⟩ := Action.mapError_cases ran
        cases o <;> cases failed

end Lifecycle

namespace CloudInit

variable {name userData : String} {image : Bytes}

theorem metaData?_image (built : CloudInit.image name userData = .ok image) :
    metaData? image = some (metaData name) := by
  rw [metaData?, image_files built]
  exact ofUtf8?_utf8 _

theorem keyed?_line {key : String} (plain : ':' ∉ key.toList) (value : String) :
    keyed? (key ++ ": " ++ value) = some (key, value) := by
  have parts : (key ++ ": " ++ value).toList = key.toList ++ ':' :: ' ' :: value.toList := by
    simp
  have before : ∀ c ∈ key.toList, decide (c = ':') = false := by
    rintro c member
    exact decide_eq_false fun same => plain (same ▸ member)
  rw [keyed?, parts, splitFirst_append before (decide_eq_true rfl)]
  simp

theorem idKey_plain : ':' ∉ "instance-id".toList := by decide

theorem hostKey_plain : ':' ∉ "local-hostname".toList := by decide

theorem linesOf_metaData (name : String) : linesOf (metaData name) =
    (splitAll '\n' ("instance-id: " ++ name).toList ++ splitAll '\n' ("local-hostname: " ++ name).toList).map
      String.ofList := by
  have joined : ("instance-id: " ++ name ++ "\nlocal-hostname: " ++ name).toList =
      ("instance-id: " ++ name).toList ++ '\n' :: ("local-hostname: " ++ name).toList := by
    simp
  -- The lemma is applied as a term, since unfolding the meta-data by its equation evaluates the texts in it.
  refine (linesOf_broken _).trans ?_
  rw [joined, splitAll_between]

theorem linesOf_unbroken (unbroken : '\n' ∉ name.toList) :
    linesOf (metaData name) = ["instance-id: " ++ name, "local-hostname: " ++ name] := by
  rw [linesOf_metaData, splitAll_unmarked (by simpa using unbroken), splitAll_unmarked (by simpa using unbroken)]
  simp only [List.cons_append, List.nil_append, List.map_cons, List.map_nil, String.ofList_toList]

/-- The first key has the name's first line for its value. -/
theorem entries_broken {front back : List Char} (unbroken : '\n' ∉ front)
    (broken : name.toList = front ++ '\n' :: back) :
    ∃ rest, entries (metaData name) = ("instance-id", .ofList front) :: rest := by
  have cut : splitAll '\n' ("instance-id: " ++ name).toList =
      ("instance-id: ".toList ++ front) :: splitAll '\n' back := by
    rw [String.toList_append, broken, ← List.append_assoc]
    exact splitAll_append (by simpa using unbroken) back
  have first : keyed? (String.ofList ("instance-id: ".toList ++ front)) = some ("instance-id", .ofList front) := by
    rw [String.ofList_append, String.ofList_toList]
    exact keyed?_line idKey_plain _
  rw [entries, linesOf_metaData, cut, List.cons_append, List.map_cons, List.filterMap_cons_some first]
  exact ⟨_, rfl⟩

theorem unbroken_of_entries (read : entries (metaData name) = [("instance-id", name), ("local-hostname", name)]) :
    '\n' ∉ name.toList := by
  intro member
  obtain ⟨front, back, broken, unbroken⟩ := List.eq_append_cons_of_mem member
  obtain ⟨rest, cut⟩ := entries_broken unbroken broken
  have same : String.ofList front = name := congrArg Prod.snd (List.cons.inj (cut.symm.trans read)).1
  have lengths := congrArg List.length broken
  rw [← same, String.toList_ofList, List.length_append, List.length_cons] at lengths
  omega

theorem entries_of_lines (lines : linesOf (metaData name) = ["instance-id: " ++ name, "local-hostname: " ++ name]) :
    entries (metaData name) = [("instance-id", name), ("local-hostname", name)] := by
  have first : keyed? ("instance-id: " ++ name) = some ("instance-id", name) :=
    keyed?_line idKey_plain name
  have second : keyed? ("local-hostname: " ++ name) = some ("local-hostname", name) :=
    keyed?_line hostKey_plain name
  rw [entries, lines]
  simp [first, second]

/-- A machine whose name a creation accepts has an image that tells it its name, once as its identity and once as its
host name, exactly if there is no break in the name. -/
theorem metaData_told_iff (accepted : Lifecycle.Accepts name) (fits : userData.utf8ByteSize < UInt32.size) :
    ∃ image text, CloudInit.image name userData = .ok image ∧ metaData? image = some text ∧
      (linesOf text = ["instance-id: " ++ name, "local-hostname: " ++ name] ↔ '\n' ∉ name.toList) ∧
      (entries text = [("instance-id", name), ("local-hostname", name)] ↔ '\n' ∉ name.toList) := by
  obtain ⟨image, built⟩ := Lifecycle.image_built_of_short (Lifecycle.accepts_iff.mp accepted) fits
  refine ⟨image, metaData name, built, metaData?_image built, ⟨?_, linesOf_unbroken⟩, ⟨unbroken_of_entries, ?_⟩⟩
  · exact fun lines => unbroken_of_entries (entries_of_lines lines)
  · exact fun unbroken => entries_of_lines (linesOf_unbroken unbroken)

theorem metaData_told_iff_plain : ∃ image text, CloudInit.image "m" "" = .ok image ∧ metaData? image = some text ∧
    linesOf text = ["instance-id: m", "local-hostname: m"] ∧
    entries text = [("instance-id", "m"), ("local-hostname", "m")] := by
  have accepted : Lifecycle.Accepts "m" := Lifecycle.accepts_iff.mpr (by decide)
  obtain ⟨image, text, built, read, lines, entries⟩ :=
    metaData_told_iff accepted (show "".utf8ByteSize < UInt32.size by decide)
  exact ⟨image, text, built, read, lines.mpr (by decide), entries.mpr (by decide)⟩

/-- A name that is accepted, and that gives its machine another host name. -/
theorem metaData_forged : ∃ image text, Lifecycle.Accepts "a\nlocal-hostname: b" ∧
    CloudInit.image "a\nlocal-hostname: b" "#cloud-config\n" = .ok image ∧ metaData? image = some text ∧
    linesOf text ≠ ["instance-id: a\nlocal-hostname: b", "local-hostname: a\nlocal-hostname: b"] ∧
    entries text =
      [("instance-id", "a"), ("local-hostname", "b"), ("local-hostname", "a"), ("local-hostname", "b")] := by
  have accepted : Lifecycle.Accepts "a\nlocal-hostname: b" := Lifecycle.accepts_iff.mpr (by decide)
  obtain ⟨image, built⟩ := Lifecycle.image_built_of_short (Lifecycle.accepts_iff.mp accepted)
    (show "#cloud-config\n".utf8ByteSize < UInt32.size by decide)
  exact ⟨image, _, accepted, built, metaData?_image built, by decide, by decide⟩

end CloudInit

end MachineKeeper
