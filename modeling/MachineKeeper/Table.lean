import Std.Data.ExtTreeMap

/-! Values under names. The representation is extensional: two tables with the same look-ups
are equal, so statements about states can be plain equations. -/
namespace MachineKeeper

/-- Values under distinct names, listed in the order of the names' characters. -/
abbrev Table (α : Type) := Std.ExtTreeMap String α

namespace Table

/-- Changes the value under `name`; a name that is not in the table stays out of it. -/
def update {α : Type} (t : Table α) (name : String) (f : α → α) : Table α :=
  match t[name]? with
  | some a => t.insert name (f a)
  | none => t

theorem getElem?_update {α : Type} (t : Table α) (name : String) (f : α → α) (key : String) :
    (t.update name f)[key]? = if name = key then t[name]?.map f else t[key]? := by
  unfold update
  split <;> rename_i h
  · simp only [Std.ExtTreeMap.getElem?_insert, Std.LawfulEqCmp.compare_eq_iff_eq, h,
      Option.map_some]
  · by_cases same : name = key
    · subst same; simp [h]
    · simp [same]

section
variable {α : Type} {t : Table α} {key : String} {a : α}

theorem found_of_mem (member : key ∈ t) : ∃ a, t[key]? = some a :=
  Option.isSome_iff_exists.mp (Std.ExtTreeMap.mem_iff_isSome_getElem?.mp member)

theorem mem_of_found (found : t[key]? = some a) : key ∈ t := by
  rw [Std.ExtTreeMap.mem_iff_isSome_getElem?, found]
  rfl

theorem not_mem_of_missing (missing : t[key]? = none) : key ∉ t := by
  simp [Std.ExtTreeMap.mem_iff_isSome_getElem?, missing]

end

end Table

end MachineKeeper
