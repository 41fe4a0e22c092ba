import MachineKeeper.Iso.Buffer
import MachineKeeper.Proofs.IsoOrder

/-! Making an image in place comes to the same as putting its parts one behind another, and it never stops: each
part is written behind the one before it, and within what it is written into. -/
namespace MachineKeeper.Iso

variable {size position : Nat} {parts : List Part} {label : String} {files : List File}
  {extents : List Extent} {next total : Nat}

/-- The parts from `position` on, with zeros before, between and behind them. -/
def spread (size : Nat) : Nat → List Part → Bytes
  | position, [] => Bytes.zeros (size - position)
  | position, part :: rest => Bytes.zeros (part.offset - position) ++
      (part.data ++ spread size (part.offset + part.data.length) rest)

/-- Each part begins where the one before it ends or behind that, and the last one ends within `size`. -/
def Apart (size : Nat) : Nat → List Part → Prop
  | position, [] => position ≤ size
  | position, part :: rest => position ≤ part.offset ∧ Apart size (part.offset + part.data.length) rest

theorem Apart.le (apart : Apart size position parts) : position ≤ size := by
  induction parts generalizing position with
  | nil => exact apart
  | cons part rest ih =>
    obtain ⟨behind, apart⟩ := apart
    have := ih apart
    omega

theorem write?_zeros {front : Bytes} {part : Part} (behind : front.length ≤ part.offset)
    (fits : part.offset + part.data.length ≤ size) :
    Part.write? (front ++ Bytes.zeros (size - front.length)) part =
      some ((front ++ (Bytes.zeros (part.offset - front.length) ++ part.data)) ++
        Bytes.zeros (size - (part.offset + part.data.length))) := by
  have inside : part.offset + part.data.length ≤ (front ++ Bytes.zeros (size - front.length)).length := by
    rw [List.length_append, length_zeros]
    omega
  rw [Part.write?, if_pos inside]
  simp only [Bytes.zeros, List.take_append, List.take_replicate, List.drop_append, List.drop_replicate,
    List.take_of_length_le behind, List.append_assoc]
  rw [List.drop_eq_nil_of_le (by omega), List.nil_append]
  congr 5 <;> omega

theorem foldlM_write? {front : Bytes} (apart : Apart size front.length parts) :
    parts.foldlM Part.write? (front ++ Bytes.zeros (size - front.length)) =
      some (front ++ spread size front.length parts) := by
  induction parts generalizing front with
  | nil => rfl
  | cons part rest ih =>
    obtain ⟨behind, apart⟩ := apart
    have length : (front ++ (Bytes.zeros (part.offset - front.length) ++ part.data)).length =
        part.offset + part.data.length := by
      simp only [List.length_append, length_zeros]
      omega
    rw [List.foldlM_cons, write?_zeros behind apart.le, Option.bind_eq_bind, Option.bind_some, ← length,
      ih (by rwa [length]), length, spread]
    simp only [List.append_assoc]

/-- Parts that lie apart are written without a stop, and all of them stand there afterwards. -/
theorem assemble?_apart (apart : Apart size 0 parts) : assemble? size parts = some (spread size 0 parts) := by
  have filled := @foldlM_write? size parts [] apart
  rwa [List.nil_append, List.nil_append] at filled

theorem zeros_none : Bytes.zeros 0 = [] := rfl

theorem zeros_one : Bytes.zeros 1 = [0] := rfl

/-- What stands at the beginning of a sector of its own. -/
theorem toSectors_short {bytes : Bytes} (positive : 0 < bytes.length) (small : bytes.length ≤ sectorSize) :
    toSectors bytes = bytes ++ Bytes.zeros (sectorSize - bytes.length) := by
  rw [toSectors, sectorsFor_one positive small, Nat.one_mul]
  rfl

theorem fieldInPlace?_eq {offset width : Nat} {text : String} (fits : text.utf8ByteSize ≤ width) :
    fieldInPlace? offset width text = some ⟨offset, field width text⟩ := by
  rw [← length_utf8] at fits
  simp only [fieldInPlace?, Part.write?, List.length_replicate, Nat.zero_add, if_pos fits, List.take_zero,
    List.nil_append, List.drop_replicate, Option.bind_eq_bind, Option.bind_some]
  rfl

theorem recordInPlace?_eq (identifier : Bytes) (location size : UInt32) (flags : UInt8) :
    recordInPlace? identifier location size flags = some (directoryRecord identifier location size flags) := by
  have length : 33 + identifier.length + (if identifier.length % 2 = 0 then 1 else 0) = recordLength identifier := by
    unfold recordLength recordPadding
    split <;> rfl
  have padding : Bytes.zeros (recordLength identifier - (33 + identifier.length)) = recordPadding identifier := by
    unfold recordLength recordPadding
    split <;> simp [Bytes.zeros]
  have written := directoryRecord_append identifier [] location size flags
  rw [List.append_nil] at written
  rw [recordInPlace?, length, assemble?_apart, written]
  · simp only [spread, length_both32, length_both16, recordingDate, List.length_cons, List.length_nil]
    rw [padding]
    simp [Bytes.zeros]
  · simp only [Apart, length_both32, length_both16, recordingDate, List.length_cons, List.length_nil,
      recordLength]
    omega

theorem rootRecordInPlace?_eq (identifier : UInt8) :
    rootRecordInPlace? identifier = some (rootRecord identifier) := recordInPlace?_eq ..

theorem primaryInPlace?_eq (sectors : UInt32) (valid : validLabel label = true) :
    primaryInPlace? label sectors = some (toSectors (primaryDescriptor label sectors)) := by
  have narrow : "".utf8ByteSize ≤ 37 := by decide
  have wide : "".utf8ByteSize ≤ 128 := by decide
  have length := length_primaryDescriptor sectors valid
  have room : toSectors (primaryDescriptor label sectors) =
      primaryDescriptor label sectors ++ Bytes.zeros (sectorSize - 882) := by
    rw [toSectors_short (by omega) (by rw [length]; decide), length]
  rw [primaryInPlace?, fieldInPlace?_eq (by decide), fieldInPlace?_eq (label_fits valid), rootRecordInPlace?_eq,
    fieldInPlace?_eq wide, fieldInPlace?_eq wide, fieldInPlace?_eq wide, fieldInPlace?_eq (by decide),
    fieldInPlace?_eq narrow, fieldInPlace?_eq narrow, fieldInPlace?_eq narrow]
  simp only [Option.bind_eq_bind]
  iterate 10 rw [Option.bind_some]
  rw [assemble?_apart, room]
  · simp only [spread, length_label valid, length_standard, length_blank, length_blank37, length_blank128,
      length_application, length_epoch, length_never, length_both32, length_both16, length_little32,
      length_big32, length_rootRecord, List.length_cons, List.length_nil, Nat.reduceAdd, Nat.reduceSub,
      zeros_none, zeros_one]
    generalize Bytes.zeros (sectorSize - 882) = rest
    unfold primaryDescriptor
    simp only [List.append_assoc, List.cons_append, List.nil_append]
  · simp only [Apart, length_label valid, length_standard, length_blank, length_blank37, length_blank128,
      length_application, length_epoch, length_never, length_both32, length_both16, length_little32,
      length_big32, length_rootRecord, List.length_cons, List.length_nil]
    decide

theorem length_terminator : terminator.length = 7 := by decide

theorem terminatorInPlace?_eq : terminatorInPlace? = some (toSectors terminator) := by
  rw [terminatorInPlace?, assemble?_apart, toSectors_short (by decide) (by decide), length_terminator]
  · simp only [spread, length_standard, List.length_cons, List.length_nil, Nat.reduceAdd, Nat.reduceSub,
      zeros_none]
    generalize Bytes.zeros (sectorSize - 7) = rest
    simp only [terminator, List.append_assoc, List.cons_append, List.nil_append]
  · simp only [Apart, length_standard, List.length_cons, List.length_nil]
    decide

theorem pathTablesInPlace?_eq :
    pathTableInPlace? (Bytes.little32 rootDirectorySector) (Bytes.little16 1) = some lowPathTable ∧
      pathTableInPlace? (Bytes.big32 rootDirectorySector) (Bytes.big16 1) = some highPathTable := by
  decide

theorem mapM_recordInPlace? (extents : List Extent) :
    extents.mapM Extent.recordInPlace? = some (extents.map Extent.record) := by
  induction extents with
  | nil => rfl
  | cons e rest ih =>
    rw [List.mapM_cons, ih, Extent.recordInPlace?, recordInPlace?_eq]
    rfl

theorem rootDirectoryInPlace?_eq (extents : List Extent) :
    rootDirectoryInPlace? extents = some (rootDirectory extents) := by
  rw [rootDirectoryInPlace?, rootRecordInPlace?_eq, rootRecordInPlace?_eq, mapM_recordInPlace?, rootDirectory,
    List.flatMap]
  rfl

theorem zeros_append (count more : Nat) : Bytes.zeros count ++ Bytes.zeros more = Bytes.zeros (count + more) :=
  List.replicate_append_replicate

/-- Where the first part begins at `middle` or behind it, there are zeros up to `middle`. -/
theorem spread_from {middle : Nat} (before : position ≤ middle) (apart : Apart size middle parts) :
    spread size position parts = Bytes.zeros (middle - position) ++ spread size middle parts := by
  cases parts with
  | nil =>
    have le : middle ≤ size := apart
    rw [spread, spread, zeros_append]
    congr 1
    omega
  | cons part rest =>
    have le : middle ≤ part.offset := apart.1
    have gap : part.offset - position = (middle - position) + (part.offset - middle) := by omega
    rw [spread, spread, gap, ← zeros_append, List.append_assoc]

/-- A part that has whole sectors for itself. -/
theorem atSector_apart {sector : Nat} {data : Bytes} (before : position ≤ sector * sectorSize)
    (apart : Apart size ((sector + sectorsFor data.length) * sectorSize) parts) :
    Apart size position (atSector sector data :: parts) ∧
      spread size position (atSector sector data :: parts) = Bytes.zeros (sector * sectorSize - position) ++
        (toSectors data ++ spread size ((sector + sectorsFor data.length) * sectorSize) parts) := by
  have room := le_sectorsFor data.length
  have inside : sector * sectorSize + data.length ≤ (sector + sectorsFor data.length) * sectorSize := by
    rw [Nat.add_mul]
    omega
  constructor
  · refine ⟨before, ?_⟩
    cases parts with
    | nil => exact Nat.le_trans inside apart
    | cons part rest => exact ⟨Nat.le_trans inside apart.1, apart.2⟩
  · have gap : (sector + sectorsFor data.length) * sectorSize - (sector * sectorSize + data.length) =
        sectorsFor data.length * sectorSize - data.length := by
      rw [Nat.add_mul]
      omega
    rw [spread, atSector, spread_from inside apart, gap, toSectors, Bytes.padTo, ← Bytes.zeros]
    simp only [List.append_assoc]

theorem oneSector_apart {sector : Nat} {data : Bytes} (positive : 0 < data.length)
    (small : data.length ≤ sectorSize) (before : position ≤ sector * sectorSize)
    (apart : Apart size ((sector + 1) * sectorSize) parts) :
    Apart size position (atSector sector data :: parts) ∧
      spread size position (atSector sector data :: parts) = Bytes.zeros (sector * sectorSize - position) ++
        (toSectors data ++ spread size ((sector + 1) * sectorSize) parts) := by
  rw [← sectorsFor_one positive small] at apart ⊢
  exact atSector_apart before apart

/-- The files of an image have whole sectors for themselves, from the first one's up to the end of the last one's. -/
theorem allocate_apart (allocated : allocate next files = .ok (extents, total)) :
    Apart (total * sectorSize) (next * sectorSize) (extents.map fun e => atSector e.start e.file.data) ∧
      spread (total * sectorSize) (next * sectorSize) (extents.map fun e => atSector e.start e.file.data) =
        extents.flatMap fun e => toSectors e.file.data := by
  induction files generalizing next extents with
  | nil =>
    cases allocated
    exact ⟨Nat.le_refl _, by simp [spread, zeros_none]⟩
  | cons file rest ih =>
    obtain ⟨-, -, -, later, allocated', rfl⟩ := allocate_cons allocated
    obtain ⟨apart, placed⟩ := ih allocated'
    obtain ⟨apart', placed'⟩ := atSector_apart (Nat.le_refl (next * sectorSize)) apart
    refine ⟨apart', ?_⟩
    rw [List.map_cons, placed', placed, Nat.sub_self, zeros_none, List.nil_append, List.flatMap_cons]

theorem toSectors_full {bytes : Bytes} (full : bytes.length = sectorSize) : toSectors bytes = bytes := by
  rw [toSectors_short (by rw [full]; decide) (Nat.le_of_eq full), full, Nat.sub_self, zeros_none, List.append_nil]

theorem imageInPlace?_eq (valid : validLabel label = true)
    (allocated : allocate firstFileSector files = .ok (extents, total))
    (small : (rootDirectory extents).length ≤ sectorSize) :
    imageInPlace? label (rootDirectory extents) extents total =
      some (header label total extents ++ extents.flatMap fun e => toSectors e.file.data) := by
  obtain ⟨-, bounded, -⟩ := allocate_length allocated (by decide)
  have memory : ¬ total * sectorSize ≥ memoryBound := by
    simp only [memoryBound, sectorSize, UInt64.size, UInt32.size] at *
    omega
  have positive : 0 < (rootDirectory extents).length := by
    simp only [rootDirectory, List.length_append, length_rootRecord]
    omega
  have described := length_toSectors_primary total valid
  have terminated : (toSectors terminator).length = sectorSize := length_oneSector (by decide) (by decide)
  obtain ⟨apart, files⟩ := allocate_apart allocated
  obtain ⟨apart, root⟩ := oneSector_apart positive small (Nat.le_refl (20 * sectorSize)) apart
  obtain ⟨apart, highPaths⟩ :=
    oneSector_apart (by decide : 0 < highPathTable.length) (by decide) (Nat.le_refl (19 * sectorSize)) apart
  obtain ⟨apart, lowPaths⟩ :=
    oneSector_apart (by decide : 0 < lowPathTable.length) (by decide) (Nat.le_refl (18 * sectorSize)) apart
  obtain ⟨apart, terminating⟩ := oneSector_apart (terminated ▸ Nat.zero_lt_succ _) (Nat.le_of_eq terminated)
    (Nat.le_refl (17 * sectorSize)) apart
  obtain ⟨apart, primary⟩ := oneSector_apart (described ▸ Nat.zero_lt_succ _) (Nat.le_of_eq described)
    (Nat.zero_le (16 * sectorSize)) apart
  rw [imageInPlace?, if_neg memory, primaryInPlace?_eq _ valid, terminatorInPlace?_eq, pathTablesInPlace?_eq.1,
    pathTablesInPlace?_eq.2]
  simp only [Option.bind_eq_bind]
  iterate 4 rw [Option.bind_some]
  refine (assemble?_apart apart).trans (congrArg some ?_)
  rw [firstFileSector] at files
  rw [primary, terminating, lowPaths, highPaths, root]
  simp only [Nat.reduceAdd, files, Nat.sub_self, zeros_none, List.nil_append, toSectors_full described,
    toSectors_full terminated, header, List.append_assoc]
  rfl

theorem layInPlace_eq (valid : validLabel label = true) (files : List File) :
    layInPlace label files = .ofExcept (layOut label files) := by
  unfold layInPlace
  cases allocated : allocate firstFileSector files with
  | error e =>
    rw [layOut_refused allocated]
    rfl
  | ok r =>
    rw [layOut_allocated allocated]
    simp only [Outcome.ofExcept, Outcome.done_bind, rootDirectoryInPlace?_eq, orStop]
    by_cases full : (rootDirectory r.1).length > sectorSize
    · rw [if_pos full, if_pos full]
    · rw [if_neg full, if_neg full, imageInPlace?_eq valid allocated (Nat.le_of_not_lt full)]

/-- Making an image in place never stops, and comes to the same image or the same refusal. -/
theorem buildInPlace_eq (label : String) (files : List File) :
    buildInPlace label files = .ofExcept (build label files) := by
  rw [build_eq]
  cases labelled : validLabel label with
  | false => simp only [buildInPlace, labelled]; rfl
  | true =>
    cases repeated : firstRepeated? (inOrder files) with
    | some name => unfold inOrder at repeated; simp only [buildInPlace, labelled, repeated]; rfl
    | none =>
      have laid := layInPlace_eq labelled (inOrder files)
      unfold inOrder at repeated laid
      simp only [buildInPlace, labelled, repeated]
      exact laid

end MachineKeeper.Iso
