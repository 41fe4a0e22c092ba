import MachineKeeper.Proofs.IsoReader
import Mathlib.Data.List.Nodup
import Mathlib.Tactic.SplitIfs

/-! The order of the files in an image. It is that of the bytes of their names, whatever the order in which
the files are given; so the image does not depend on the latter, and neither does the reason why there is none. -/
namespace MachineKeeper

theorem utf8_eq_flatMap (text : String) : utf8 text = text.toList.flatMap String.utf8EncodeChar := by
  rw [utf8, String.toUTF8, ← String.utf8Encode_toList, List.utf8Encode]
  simp

theorem codePoint_lt (c : Char) : c.val.toNat < 0x110000 := by
  rcases c.valid with low | high <;> omega

/-- The bytes of two characters differ, and first of all as the characters do. -/
theorem encodeChar_lt {c d : Char} (less : c < d) (behind behind' : Bytes) :
    String.utf8EncodeChar c ++ behind < String.utf8EncodeChar d ++ behind' := by
  have less : c.val.toNat < d.val.toNat := less
  have bound := codePoint_lt d
  simp only [String.utf8EncodeChar]
  -- More bytes begin with a larger one; as many bytes are digits in base 64, the highest first.
  split_ifs <;>
    simp only [List.cons_append, List.nil_append, List.cons_lt_cons_iff, UInt8.lt_iff_toNat_lt,
      UInt8.toNat_ofNat', ← UInt8.toNat_inj] <;>
    simp (disch := omega) only [Nat.mod_eq_of_lt] <;>
    omega

theorem flatMap_encodeChar_lt {cs ds : List Char} (less : cs < ds) :
    cs.flatMap String.utf8EncodeChar < ds.flatMap String.utf8EncodeChar := by
  induction less with
  | @nil d ds =>
    rw [List.flatMap_cons, List.flatMap_nil]
    cases bytes : String.utf8EncodeChar d with
    | nil => exact absurd bytes String.utf8EncodeChar_ne_nil
    | cons byte rest => exact List.Lex.nil
  | rel less => exact encodeChar_lt less _ _
  | cons _ ih =>
    rw [List.flatMap_cons, List.flatMap_cons]
    exact List.append_left_lt ih

/-- Texts come in the order of their bytes. -/
theorem utf8_lt_iff {a b : String} : utf8 a < utf8 b ↔ a < b := by
  have forward {a b : String} (less : a < b) : utf8 a < utf8 b := by
    rw [utf8_eq_flatMap, utf8_eq_flatMap]
    exact flatMap_encodeChar_lt (String.lt_iff.mp less)
  refine ⟨fun less => ?_, forward⟩
  by_cases same : a = b
  · exact absurd (same ▸ less) (List.lt_irrefl _)
  · refine String.not_le.mp fun greater => ?_
    have above : b < a := String.not_le.mp fun le => same (String.le_antisymm le greater)
    exact List.lt_asymm less (forward above)

namespace Iso

variable {label : String} {files files' : List File}

/-- What is made of files that stand in order, with all names different. -/
def layOut (label : String) (sorted : List File) : Except Error Bytes := do
  let (extents, total) ← allocate firstFileSector sorted
  if (rootDirectory extents).length > sectorSize then throw .directoryFull
  return header label total extents ++ extents.flatMap fun e => toSectors e.file.data

theorem layOut_refused {sorted : List File} {e : Error} (refused : allocate firstFileSector sorted = .error e) :
    layOut label sorted = .error e := by
  simp only [layOut, refused]
  rfl

theorem layOut_allocated {sorted : List File} {extents : List Extent} {total : Nat}
    (allocated : allocate firstFileSector sorted = .ok (extents, total)) : layOut label sorted =
      if (rootDirectory extents).length > sectorSize then .error .directoryFull
      else .ok (header label total extents ++ extents.flatMap fun e => toSectors e.file.data) := by
  simp only [layOut, allocated, bind, Except.bind]
  split <;> rfl

theorem build_eq (label : String) (files : List File) : build label files =
    if validLabel label then
      match firstRepeated? (inOrder files) with
      | some name => .error (.duplicateFile name)
      | none => layOut label (inOrder files)
    else .error (.invalidLabel label) := by
  cases labelled : validLabel label with
  | false => simp only [build, labelled]; rfl
  | true =>
    cases repeated : firstRepeated? (inOrder files) with
    | some name => unfold inOrder at repeated; simp only [build, labelled, repeated]; rfl
    | none => unfold inOrder at repeated; simp only [build, labelled, repeated]; rfl

theorem inOrder_names_nodup (unrepeated : firstRepeated? (inOrder files) = none) :
    ((inOrder files).map File.name).Nodup :=
  names_distinct unrepeated (inOrder_sorted files)

/-- Files whose names are all different stand in ascending order of the bytes of their names. -/
theorem inOrder_ascending (unrepeated : firstRepeated? (inOrder files) = none) :
    (inOrder files).Pairwise fun a b => utf8 a.name < utf8 b.name := by
  have differ : (inOrder files).Pairwise fun a b => a.name ≠ b.name :=
    List.pairwise_map.mp (inOrder_names_nodup unrepeated)
  refine (inOrder_sorted files).imp₂ (fun a b le differ => utf8_lt_iff.mpr ?_) differ
  exact String.not_le.mp fun ge => differ (String.le_antisymm le ge)

theorem inOrder_names_eq (same : files.Perm files') :
    (inOrder files).map File.name = (inOrder files').map File.name := by
  have perm : (inOrder files).Perm (inOrder files') :=
    (inOrder_perm files).trans (same.trans (inOrder_perm files').symm)
  exact (perm.map File.name).eq_of_pairwise (fun _ _ _ _ => String.le_antisymm)
    (List.pairwise_map.mpr (inOrder_sorted files)) (List.pairwise_map.mpr (inOrder_sorted files'))

/-- Where no name stands twice, there is one order. -/
theorem inOrder_eq (same : files.Perm files') (unrepeated : firstRepeated? (inOrder files) = none) :
    inOrder files = inOrder files' := by
  have perm : (inOrder files).Perm (inOrder files') :=
    (inOrder_perm files).trans (same.trans (inOrder_perm files').symm)
  refine perm.eq_of_pairwise (fun a b member member' le ge => ?_) (inOrder_sorted files)
    (inOrder_sorted files')
  exact List.inj_on_of_nodup_map (inOrder_names_nodup unrepeated) member (perm.mem_iff.mpr member')
    (String.le_antisymm le ge)

theorem firstRepeated?_congr (same : files.map File.name = files'.map File.name) :
    firstRepeated? files = firstRepeated? files' := by
  induction files using firstRepeated?.induct generalizing files' with
  | case1 a b rest repeated =>
    obtain ⟨a', _, rfl, first, same⟩ := List.map_eq_cons_iff.mp same.symm
    obtain ⟨b', _, rfl, second, -⟩ := List.map_eq_cons_iff.mp same
    rw [firstRepeated?, firstRepeated?, first, second]
    simp only [repeated, if_true]
  | case2 a b rest differs ih =>
    obtain ⟨a', later, rfl, first, same⟩ := List.map_eq_cons_iff.mp same.symm
    have further := ih same.symm
    obtain ⟨b', rest', rfl, second, -⟩ := List.map_eq_cons_iff.mp same
    rw [firstRepeated?, firstRepeated?, first, second, if_neg differs, if_neg differs, further]
  | case3 files short =>
    cases files with
    | nil => rw [List.map_eq_nil_iff.mp same.symm]
    | cons a rest =>
      cases rest with
      | nil =>
        obtain ⟨a', _, rfl, -, none⟩ := List.map_eq_cons_iff.mp same.symm
        rw [List.map_eq_nil_iff.mp none]
        rfl
      | cons b rest => exact absurd rfl (short a b rest)

/-- Neither an image nor the reason why there is none depends on the order in which the files are given. -/
theorem build_perm (label : String) (same : files.Perm files') : build label files = build label files' := by
  rw [build_eq, build_eq, ← firstRepeated?_congr (inOrder_names_eq same)]
  cases unrepeated : firstRepeated? (inOrder files) with
  | some name => rfl
  | none => rw [inOrder_eq same unrepeated]

theorem inOrder_of_sorted (sorted : files.Pairwise fun a b => a.name ≤ b.name) : inOrder files = files :=
  List.mergeSort_of_pairwise (sorted.imp decide_eq_true)

/-- Two files have one name and a third one has none: in any order it is the former that is refused. -/
theorem build_perm_repeated :
    [File.mk "" [], ⟨"b", [1]⟩, ⟨"b", [2]⟩].Perm [⟨"b", [2]⟩, ⟨"b", [1]⟩, ⟨"", []⟩] ∧
      build "cidata" [⟨"", []⟩, ⟨"b", [1]⟩, ⟨"b", [2]⟩] = .error (.duplicateFile "b") ∧
      build "cidata" [⟨"b", [2]⟩, ⟨"b", [1]⟩, ⟨"", []⟩] = .error (.duplicateFile "b") := by
  have same : [File.mk "" [], ⟨"b", [1]⟩, ⟨"b", [2]⟩].Perm [⟨"b", [2]⟩, ⟨"b", [1]⟩, ⟨"", []⟩] := by decide
  have refused : build "cidata" [⟨"", []⟩, ⟨"b", [1]⟩, ⟨"b", [2]⟩] = .error (.duplicateFile "b") := by
    rw [build_eq, inOrder_of_sorted (by decide)]
    decide
  exact ⟨same, refused, (build_perm "cidata" same).symm.trans refused⟩

end Iso

end MachineKeeper
