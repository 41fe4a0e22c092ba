import MachineKeeper.Error
import MachineKeeper.Proofs.IsoReader

/-! What an image for cloud-init carries. It is made unless one of its files does not fit in 32 bits, a reader gets
back just what it was made of, and from that the machine and its cloud-config can be told. -/
namespace MachineKeeper

theorem utf8_injective {a b : String} (same : utf8 a = utf8 b) : a = b := by
  have read := ofUtf8?_utf8 a
  rw [same, ofUtf8?_utf8] at read
  exact (Option.some.inj read).symm

namespace Iso

variable {label : String} {files sorted : List File} {image : Bytes} {next : Nat} {e : Error}

def unpadded (field : Bytes) : Bytes := (field.reverse.dropWhile (· = 0x20)).reverse

def label? (image : Bytes) : Option String := do
  let field ← volumeName? image
  ofUtf8? (unpadded field)

theorem unpadded_field {width : Nat} {text : String} (bare : (utf8 text).getLast? ≠ some 0x20) :
    unpadded (field width text) = utf8 text := by
  have head : ∀ byte, (utf8 text).reverse.head? = some byte → byte ≠ 0x20 := by
    rintro byte first rfl
    exact bare (List.head?_reverse ▸ first)
  have blanks (count : Nat) : ∀ byte ∈ List.replicate count (0x20 : UInt8), decide (byte = 0x20) = true := by
    intro byte member
    simp [List.eq_of_mem_replicate member]
  have kept : (utf8 text).reverse.dropWhile (· = 0x20) = (utf8 text).reverse := by
    cases reversed : (utf8 text).reverse with
    | nil => rfl
    | cons byte rest => exact List.dropWhile_cons_of_neg (by simpa using head byte (by rw [reversed]; rfl))
  rw [unpadded, field, Bytes.padTo, List.reverse_append, List.reverse_replicate,
    List.dropWhile_append_of_pos (blanks _), kept, List.reverse_reverse]

/-- A label that does not end with a blank is read as it was given. -/
theorem label?_build (built : build label files = .ok image) (bare : (utf8 label).getLast? ≠ some 0x20) :
    label? image = some label := by
  rw [label?, volumeName?_build built, Option.bind_eq_bind, Option.bind_some, unpadded_field bare, ofUtf8?_utf8]

theorem allocate_cons_error {file : File} {rest : List File} (valid : validFileName file.name = true)
    (small : file.data.length < UInt32.size) (near : next + sectorsFor file.data.length < UInt32.size)
    (refused : allocate (next + sectorsFor file.data.length) rest = .error e) :
    allocate next (file :: rest) = .error e := by
  rw [allocate_cons_eq rest valid small near, refused]
  rfl

theorem build_error (valid : validLabel label = true) (order : inOrder files = sorted)
    (distinct : firstRepeated? sorted = none) (refused : allocate firstFileSector sorted = .error e) :
    build label files = .error e := by
  unfold inOrder at order
  simp only [build, valid, order, distinct, refused, bind, Except.bind, Bool.not_true, Bool.false_eq_true,
    ↓reduceIte]

end Iso

namespace CloudInit

open Iso

variable {machine machine' userData userData' : String}

/-- The meta-data tells which machine it is for, though it has the name in two places. -/
theorem metaData_injective (same : metaData machine = metaData machine') : machine = machine' := by
  have lengths := congrArg String.length same
  simp only [metaData, String.length_append] at lengths
  have texts := congrArg String.toList same
  simp only [metaData, String.toList_append, List.append_assoc, List.append_cancel_left_eq] at texts
  have equal : machine.toList.length = machine'.toList.length := by
    simp only [String.length_toList]
    omega
  exact String.toList_injective (List.append_inj_left texts equal)

/-- An image is refused if one of its files does not fit in 32 bits, the meta-data being looked at first. -/
theorem image_refused (large : ¬ (userData.utf8ByteSize < UInt32.size ∧
      (metaData machine).utf8ByteSize < UInt32.size)) : image machine userData = .error (.fileTooLarge
      (if (metaData machine).utf8ByteSize < UInt32.size then "user-data" else "meta-data")) := by
  have order : inOrder [⟨"user-data", utf8 userData⟩, ⟨"meta-data", utf8 (metaData machine)⟩] =
      [⟨"meta-data", utf8 (metaData machine)⟩, ⟨"user-data", utf8 userData⟩] := by
    rw [inOrder, mergeSort_pair, if_neg (by simp)]
  have labelled : validLabel label = true := by decide
  have metaFile : validFileName "meta-data" = true := by decide
  have userFile : validFileName "user-data" = true := by decide
  refine build_error labelled order (by simp [firstRepeated?]) ?_
  rw [← length_utf8, ← length_utf8] at large
  rw [← length_utf8]
  by_cases small : (utf8 (metaData machine)).length < UInt32.size
  · have long : UInt32.size ≤ (utf8 userData).length := by omega
    rw [if_pos small]
    exact allocate_cons_error metaFile small (sectors_near (by decide) small) (allocate_large [] userFile (.inl long))
  · rw [if_neg small]
    exact allocate_large _ metaFile (.inl (Nat.le_of_not_lt small))

theorem image_built_iff : (∃ bytes, image machine userData = .ok bytes) ↔
    userData.utf8ByteSize < UInt32.size ∧ (metaData machine).utf8ByteSize < UInt32.size := by
  constructor
  · rintro ⟨bytes, built⟩
    apply Classical.byContradiction
    intro large
    cases built.symm.trans (image_refused large)
  · rintro ⟨text, data⟩
    exact image_built text data

/-- What an image was made of can be read off it. -/
theorem image_injective {bytes : Bytes} (built : image machine userData = .ok bytes)
    (built' : image machine' userData' = .ok bytes) : machine' = machine ∧ userData' = userData := by
  have same := Option.some.inj ((image_files built').symm.trans (image_files built))
  simp only [List.cons.injEq, File.mk.injEq, true_and, and_true] at same
  exact ⟨metaData_injective (utf8_injective same.1), utf8_injective same.2⟩

/-- An image for cloud-init is made exactly if its two files fit in 32 bits each, and it carries what it was made of:
a reader finds the label and those two files, and images of other machines or other texts are others. -/
theorem image_carries (machine userData : String) :
    ((∃ bytes, image machine userData = .ok bytes) ↔
      userData.utf8ByteSize < UInt32.size ∧ (metaData machine).utf8ByteSize < UInt32.size) ∧
    (¬ (userData.utf8ByteSize < UInt32.size ∧ (metaData machine).utf8ByteSize < UInt32.size) →
      (image machine userData).mapError Error.seedImage = .error (.seedImage (.fileTooLarge
        (if (metaData machine).utf8ByteSize < UInt32.size then "user-data" else "meta-data")))) ∧
    ∀ bytes, image machine userData = .ok bytes →
      label? bytes = some "cidata" ∧
      files? bytes = some [⟨"meta-data", utf8 (metaData machine)⟩, ⟨"user-data", utf8 userData⟩] ∧
      ∀ machine' userData', image machine' userData' = .ok bytes → machine' = machine ∧ userData' = userData := by
  refine ⟨image_built_iff, fun large => ?_, fun bytes built => ⟨?_, image_files built, ?_⟩⟩
  · rw [image_refused large]
    rfl
  · exact label?_build built (by decide)
  · exact fun _ _ built' => image_injective built built'

/-- A machine without a cloud-config has an image that is not that of another machine. -/
theorem image_carries_empty : ∃ bytes, image "m" "" = .ok bytes ∧ label? bytes = some "cidata" ∧
    files? bytes = some [⟨"meta-data", utf8 "instance-id: m\nlocal-hostname: m\n"⟩, ⟨"user-data", []⟩] ∧
    image "n" "" ≠ .ok bytes := by
  obtain ⟨made, -, carries⟩ := image_carries "m" ""
  obtain ⟨bytes, built⟩ := made.mpr (by decide)
  obtain ⟨named, found, told⟩ := carries bytes built
  refine ⟨bytes, built, named, found, fun other => ?_⟩
  exact absurd (told "n" "" other).1 (by decide)

end CloudInit

end MachineKeeper
