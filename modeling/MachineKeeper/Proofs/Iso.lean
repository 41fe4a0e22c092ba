import MachineKeeper.CloudInit

/-! Which images there are, and how long they are: a whole number of sectors, no more than their
numbers can count. -/
namespace MachineKeeper.Iso

variable {label : String} {files : List File} {extents : List Extent} {image : Bytes}
  {next total : Nat}

@[simp] theorem length_zeros (count : Nat) : (Bytes.zeros count).length = count := by
  simp [Bytes.zeros]

theorem le_sectorsFor (length : Nat) : length ≤ sectorsFor length * sectorSize := by
  simp only [sectorsFor, sectorSize]
  omega

theorem length_toSectors (bytes : Bytes) :
    (toSectors bytes).length = sectorsFor bytes.length * sectorSize :=
  Bytes.length_padTo (le_sectorsFor bytes.length)

theorem sectorsFor_one {length : Nat} (positive : 0 < length) (small : length ≤ sectorSize) :
    sectorsFor length = 1 := by
  simp only [sectorsFor, sectorSize] at *
  omega

theorem allocate_cons {file : File} {rest : List File}
    (allocated : allocate next (file :: rest) = .ok (extents, total)) :
    validFileName file.name = true ∧
      file.data.length < UInt32.size ∧ next + sectorsFor file.data.length < UInt32.size ∧
      ∃ later, allocate (next + sectorsFor file.data.length) rest = .ok (later, total) ∧
        extents = ⟨file, next⟩ :: later := by
  simp only [allocate, bind, Except.bind, pure, Except.pure, throw, throwThe,
    MonadExceptOf.throw] at allocated
  split at allocated
  · cases allocated
  next valid =>
  split at allocated
  · cases allocated
  split at allocated
  · cases allocated
  next size following =>
    split at allocated
    · cases allocated
    next later allocated' =>
      cases allocated
      exact ⟨by simpa using valid, by omega, by omega, _, allocated', rfl⟩

/-- The files of an image follow one another, and their sectors have numbers of 32 bits. -/
theorem allocate_length (allocated : allocate next files = .ok (extents, total))
    (start : next < UInt32.size) :
    next ≤ total ∧ total < UInt32.size ∧
      (extents.flatMap fun e => toSectors e.file.data).length = (total - next) * sectorSize := by
  induction files generalizing next extents with
  | nil =>
    cases allocated
    exact ⟨Nat.le_refl _, start, by simp⟩
  | cons file rest ih =>
    obtain ⟨_, size, following, rest', allocated', rfl⟩ := allocate_cons allocated
    obtain ⟨after, bounded, length⟩ := ih allocated' following
    refine ⟨by omega, bounded, ?_⟩
    rw [List.flatMap_cons, List.length_append, length, length_toSectors, ← Nat.add_mul]
    congr 1
    dsimp only
    omega

/-- The files in the order in which they stand in an image. -/
def inOrder (files : List File) : List File := files.mergeSort fun a b => a.name ≤ b.name

/-- The sectors before the first file. -/
def header (label : String) (total : Nat) (extents : List Extent) : Bytes :=
  Bytes.zeros (systemSectors * sectorSize) ++ toSectors (primaryDescriptor label total.toUInt32) ++
    toSectors terminator ++ toSectors lowPathTable ++ toSectors highPathTable ++
    toSectors (rootDirectory extents)

theorem build_cases (built : build label files = .ok image) : ∃ extents total,
    validLabel label = true ∧ firstRepeated? (inOrder files) = none ∧
    allocate firstFileSector (inOrder files) = .ok (extents, total) ∧
    (rootDirectory extents).length ≤ sectorSize ∧
    image = header label total extents ++ extents.flatMap fun e => toSectors e.file.data := by
  simp only [build, bind, Except.bind, pure, Except.pure, throw, throwThe,
    MonadExceptOf.throw] at built
  split at built
  · cases built
  next labelled =>
  split at built
  · cases built
  next unrepeated =>
  split at built
  · cases built
  next extents allocated =>
    split at built
    · cases built
    next fitting =>
      cases built
      refine ⟨_, _, by simpa using labelled, ?_, allocated, by omega, rfl⟩
      exact Option.eq_none_iff_forall_ne_some.mpr unrepeated

theorem length_utf8 (text : String) : (utf8 text).length = text.utf8ByteSize := by
  simp [utf8]

theorem length_field {width : Nat} {text : String} (fits : text.utf8ByteSize ≤ width) :
    (field width text).length = width :=
  Bytes.length_padTo (by rwa [length_utf8])

@[simp] theorem length_both32 (n : UInt32) : (Bytes.both32 n).length = 8 := rfl
@[simp] theorem length_both16 (n : UInt16) : (Bytes.both16 n).length = 4 := rfl
@[simp] theorem length_little32 (n : UInt32) : (Bytes.little32 n).length = 4 := rfl
@[simp] theorem length_big32 (n : UInt32) : (Bytes.big32 n).length = 4 := rfl

/-- What makes a record end at an even offset. -/
def recordPadding (identifier : Bytes) : Bytes := if identifier.length % 2 = 0 then [0] else []

def recordLength (identifier : Bytes) : Nat :=
  33 + identifier.length + (recordPadding identifier).length

theorem directoryRecord_append (identifier rest : Bytes) (location size : UInt32) (flags : UInt8) :
    directoryRecord identifier location size flags ++ rest =
    [(recordLength identifier).toUInt8, 0] ++ (Bytes.both32 location ++ (Bytes.both32 size ++
      (recordingDate ++ ([flags, 0, 0] ++ (Bytes.both16 1 ++ ([identifier.length.toUInt8] ++
        (identifier ++ (recordPadding identifier ++ rest)))))))) := by
  simp only [directoryRecord, List.append_assoc]
  rfl

theorem length_directoryRecord (identifier : Bytes) (location size : UInt32) (flags : UInt8) :
    (directoryRecord identifier location size flags).length = recordLength identifier := by
  have layout := directoryRecord_append identifier [] location size flags
  rw [List.append_nil] at layout
  rw [layout]
  simp only [List.length_append, length_both32, length_both16, recordingDate, List.length_cons,
    List.length_nil, recordLength]
  omega

@[simp] theorem length_rootRecord (identifier : UInt8) : (rootRecord identifier).length = 34 :=
  length_directoryRecord [identifier] _ _ _

theorem recordLength_le (identifier : Bytes) : recordLength identifier ≤ identifier.length + 34 := by
  unfold recordLength recordPadding
  split <;> simp only [List.length_cons, List.length_nil] <;> omega

theorem length_identifier (name : String) :
    (utf8 (name ++ ";1")).length = name.utf8ByteSize + 2 := by
  rw [length_utf8, String.utf8ByteSize_append]
  rfl

theorem length_record_le (file : File) (start : Nat) :
    (Extent.record ⟨file, start⟩).length ≤ file.name.utf8ByteSize + 36 := by
  have record := recordLength_le (utf8 (file.name ++ ";1"))
  rw [length_identifier] at record
  rw [Extent.record, length_directoryRecord]
  omega

theorem label_fits (valid : validLabel label = true) : label.utf8ByteSize ≤ 32 := by
  simp only [validLabel, Bool.and_eq_true, decide_eq_true_eq] at valid
  exact valid.1

theorem length_label (valid : validLabel label = true) : (field 32 label).length = 32 :=
  length_field (label_fits valid)

theorem length_blank : (field 32 "").length = 32 := length_field (by decide)

theorem length_standard : (utf8 "CD001").length = 5 := by decide

theorem length_blank37 : (field 37 "").length = 37 := length_field (by decide)

theorem length_blank128 : (field 128 "").length = 128 := length_field (by decide)

theorem length_application : (field 128 "PROVISIONER").length = 128 := length_field (by decide)

theorem length_epoch : (volumeDate "1970010100000000").length = 17 := by decide

theorem length_never : (volumeDate "0000000000000000").length = 17 := by decide

theorem length_primaryDescriptor {label : String} (sectors : UInt32)
    (valid : validLabel label = true) : (primaryDescriptor label sectors).length = 882 := by
  unfold primaryDescriptor
  simp only [List.length_append, length_label valid, length_standard, length_blank, length_blank37,
    length_blank128, length_application, length_epoch, length_never, length_zeros, length_both32,
    length_both16, length_little32, length_big32, length_rootRecord, List.length_cons, List.length_nil]

theorem length_oneSector {bytes : Bytes} (positive : 0 < bytes.length)
    (small : bytes.length ≤ sectorSize) : (toSectors bytes).length = sectorSize := by
  rw [length_toSectors, sectorsFor_one positive small, Nat.one_mul]

theorem length_toSectors_root (small : (rootDirectory extents).length ≤ sectorSize) :
    (toSectors (rootDirectory extents)).length = sectorSize := by
  apply length_oneSector _ small
  simp only [rootDirectory, List.length_append, length_rootRecord]
  omega

theorem length_toSectors_primary (total : Nat) (valid : validLabel label = true) :
    (toSectors (primaryDescriptor label total.toUInt32)).length = sectorSize := by
  have primary := length_primaryDescriptor total.toUInt32 valid
  exact length_oneSector (by omega) (by rw [primary]; decide)

theorem length_header (total : Nat) (valid : validLabel label = true)
    (small : (rootDirectory extents).length ≤ sectorSize) :
    (header label total extents).length = firstFileSector * sectorSize := by
  simp only [header, List.length_append, length_zeros, length_toSectors_root small,
    length_toSectors_primary total valid]
  rw [length_oneSector (by decide) (by decide), length_oneSector (by decide) (by decide),
    length_oneSector (by decide) (by decide)]
  rfl

/-- An image is a whole number of sectors, which start with those before the first file. -/
theorem build_length (built : build label files = .ok image) :
    ∃ sectors, firstFileSector ≤ sectors ∧ sectors < UInt32.size ∧
      image.length = sectors * sectorSize := by
  obtain ⟨extents, total, valid, _, allocated, small, rfl⟩ := build_cases built
  obtain ⟨start, bounded, files⟩ := allocate_length allocated (by decide)
  refine ⟨total, start, bounded, ?_⟩
  rw [List.length_append, files, length_header total valid small]
  simp only [firstFileSector, sectorSize] at *
  omega

/-- What starts in the lower half of the sectors there can be and is shorter than 4 GiB ends among them. -/
theorem sectors_near {next length : Nat} (low : next < UInt32.size / 2) (short : length < UInt32.size) :
    next + sectorsFor length < UInt32.size := by
  simp only [sectorsFor, sectorSize, UInt32.size] at *
  omega

theorem allocate_cons_eq {file : File} (rest : List File) (valid : validFileName file.name = true)
    (small : file.data.length < UInt32.size) (near : next + sectorsFor file.data.length < UInt32.size) :
    allocate next (file :: rest) = (allocate (next + sectorsFor file.data.length) rest).map
      fun (extents, total) => (⟨file, next⟩ :: extents, total) := by
  have small : ¬ file.data.length ≥ UInt32.size := by omega
  have near : ¬ next + sectorsFor file.data.length ≥ UInt32.size := by omega
  simp only [allocate, valid, small, near, bind, Except.bind, Bool.not_true, Bool.false_eq_true, ↓reduceIte]
  cases allocate (next + sectorsFor file.data.length) rest <;> rfl

theorem allocate_cons_ok {file : File} {rest : List File} {later : List Extent}
    (valid : validFileName file.name = true) (small : file.data.length < UInt32.size)
    (near : next + sectorsFor file.data.length < UInt32.size)
    (allocated : allocate (next + sectorsFor file.data.length) rest = .ok (later, total)) :
    allocate next (file :: rest) = .ok (⟨file, next⟩ :: later, total) := by
  rw [allocate_cons_eq rest valid small near, allocated]
  rfl

/-- A file is refused if it is too large itself or too large for the sectors that are left. -/
theorem allocate_large {file : File} (rest : List File) (valid : validFileName file.name = true)
    (large : UInt32.size ≤ file.data.length ∨ UInt32.size ≤ next + sectorsFor file.data.length) :
    allocate next (file :: rest) = .error (.fileTooLarge file.name) := by
  by_cases long : UInt32.size ≤ file.data.length
  · simp only [allocate, valid, long, bind, Except.bind, throw, throwThe, MonadExceptOf.throw, Bool.not_true,
      Bool.false_eq_true, ↓reduceIte]
  · have far := large.resolve_left long
    simp only [allocate, valid, long, far, bind, Except.bind, throw, throwThe, MonadExceptOf.throw, Bool.not_true,
      Bool.false_eq_true, ↓reduceIte]

theorem build_ok {sorted : List File} (valid : validLabel label = true)
    (order : (files.mergeSort fun a b => a.name ≤ b.name) = sorted)
    (distinct : firstRepeated? sorted = none)
    (allocated : allocate firstFileSector sorted = .ok (extents, total))
    (fits : (rootDirectory extents).length ≤ sectorSize) : ∃ image, build label files = .ok image := by
  have fits : ¬ (rootDirectory extents).length > sectorSize := by omega
  simp only [build, valid, order, distinct, allocated, fits, bind, Except.bind, pure, Except.pure,
    Bool.not_true, Bool.false_eq_true, ↓reduceIte, Except.ok.injEq, exists_eq']

/-- Two files always fit in the directory. -/
theorem rootDirectory_pair {a b : File} {start start' : Nat}
    (short : a.name.utf8ByteSize + b.name.utf8ByteSize ≤ 440) :
    (rootDirectory [⟨a, start⟩, ⟨b, start'⟩]).length ≤ sectorSize := by
  have first := length_record_le a start
  have second := length_record_le b start'
  simp only [rootDirectory, List.flatMap_cons, List.flatMap_nil, List.length_append,
    length_rootRecord, List.length_nil, sectorSize]
  omega

theorem mergeSort_pair {α : Type} (le : α → α → Bool) (a b : α) :
    [a, b].mergeSort le = if le a b then [a, b] else [b, a] := by
  simp [List.mergeSort, List.MergeSort.Internal.splitInTwo, List.merge]

end MachineKeeper.Iso

namespace MachineKeeper.CloudInit

open Iso

/-- There is an image for every machine, as long as its two files are shorter than 4 GiB. -/
theorem image_built {machine userData : String} (text : userData.utf8ByteSize < UInt32.size)
    (data : (metaData machine).utf8ByteSize < UInt32.size) :
    ∃ bytes, image machine userData = .ok bytes := by
  rw [← length_utf8] at text data
  have low : firstFileSector + sectorsFor (utf8 (metaData machine)).length < UInt32.size / 2 := by
    simp only [firstFileSector, sectorsFor, sectorSize, UInt32.size] at *
    omega
  have metaFile : validFileName "meta-data" = true := by decide
  have userFile : validFileName "user-data" = true := by decide
  have allocated : allocate firstFileSector
      [⟨"meta-data", utf8 (metaData machine)⟩, ⟨"user-data", utf8 userData⟩] = .ok _ :=
    allocate_cons_ok metaFile data (sectors_near (by decide) data)
      (allocate_cons_ok userFile text (sectors_near low text) rfl)
  refine build_ok (by decide) ?_ (by simp [firstRepeated?]) allocated ?_
  · rw [mergeSort_pair, if_neg (by simp)]
  · have short : "meta-data".utf8ByteSize + "user-data".utf8ByteSize ≤ 440 := by decide
    exact rootDirectory_pair short

end MachineKeeper.CloudInit
