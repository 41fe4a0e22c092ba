import MachineKeeper.Proofs.IsoOrder
import Mathlib.Algebra.GroupWithZero.Nat

/-! Where everything stands in an image. The files follow one another in whole sectors from the first free one on,
the directory records where each of them starts, and what is between the parts of an image is zero. -/
namespace MachineKeeper.Iso

variable {label : String} {files sorted : List File} {extents : List Extent} {image : Bytes}
  {next total : Nat}

def sectorsOf (files : List File) : Nat := (files.map fun file => sectorsFor file.data.length).sum

/-- The sector behind files that follow one another from the first free sector on. -/
def endSector (files : List File) : Nat := firstFileSector + sectorsOf files

/-- The length of a file's record: 33 bytes and the identifier, up to an even number. -/
def recordSize (file : File) : Nat :=
  let length := 33 + (file.name.utf8ByteSize + 2)
  length + length % 2

/-- The length of a directory: the records of itself and of its parent, and those of the files. -/
def directoryLength (files : List File) : Nat := 68 + (files.map recordSize).sum

theorem length_record (e : Extent) : e.record.length = recordSize e.file := by
  rw [Extent.record, length_directoryRecord, recordLength, recordPadding, length_identifier, recordSize]
  split <;> simp only [List.length_cons, List.length_nil] <;> omega

theorem length_records (extents : List Extent) :
    (extents.flatMap Extent.record).length = ((extents.map Extent.file).map recordSize).sum := by
  simp only [List.length_flatMap, List.map_map, Function.comp_def, length_record]

theorem length_rootDirectory (extents : List Extent) :
    (rootDirectory extents).length = directoryLength (extents.map Extent.file) := by
  simp only [rootDirectory, List.length_append, length_rootRecord, length_records, directoryLength]

theorem allocate_split {front back : List File}
    (allocated : allocate next (front ++ back) = .ok (extents, total)) : ∃ earlier later,
      extents = earlier ++ later ∧ allocate next front = .ok (earlier, next + sectorsOf front) ∧
        allocate (next + sectorsOf front) back = .ok (later, total) := by
  induction front generalizing next extents with
  | nil => exact ⟨[], extents, rfl, rfl, allocated⟩
  | cons file front ih =>
    obtain ⟨valid, size, following, rest, allocated', rfl⟩ := allocate_cons allocated
    obtain ⟨earlier, later, rfl, first, second⟩ := ih allocated'
    have sum : next + sectorsOf (file :: front) = next + sectorsFor file.data.length + sectorsOf front := by
      rw [sectorsOf, List.map_cons, List.sum_cons, Nat.add_assoc]
      rfl
    rw [sum]
    exact ⟨⟨file, next⟩ :: earlier, later, rfl, allocate_cons_ok valid size following first, second⟩

theorem allocate_total (allocated : allocate next files = .ok (extents, total)) :
    total = next + sectorsOf files := by
  rw [← List.append_nil files] at allocated
  obtain ⟨_, _, _, _, last⟩ := allocate_split allocated
  cases last
  rfl

/-- The number that bytes stand for, the highest one first. -/
def ofBig (bytes : Bytes) : Nat := ofLittle bytes.reverse

/-- The number that stands at `offset` with its lowest byte first and behind that with its highest byte first, if
the two are the same. -/
def twoWay? (width offset : Nat) (bytes : Bytes) : Option Nat := do
  let low ← slice? offset width bytes
  let high ← slice? (offset + width) width bytes
  if ofLittle low = ofBig high then some (ofLittle low) else none

theorem twoWay?_reversed {width offset : Nat} {before low rest : Bytes} (place : before.length = offset)
    (length : low.length = width) :
    twoWay? width offset (before ++ (low ++ low.reverse ++ rest)) = some (ofLittle low) := by
  have first : slice? offset width (before ++ (low ++ low.reverse ++ rest)) = some low := by
    rw [List.append_assoc]
    exact slice?_field place length
  have second : slice? (offset + width) width (before ++ (low ++ low.reverse ++ rest)) = some low.reverse := by
    rw [List.append_assoc, ← List.append_assoc before]
    exact slice?_field (by rw [List.length_append, place, length]) (by rwa [List.length_reverse])
  simp only [twoWay?, first, second, ofBig, List.reverse_reverse, Option.bind_eq_bind, Option.bind_some, if_true]

theorem twoWay?_both32 {offset : Nat} {before rest : Bytes} (place : before.length = offset) (n : UInt32) :
    twoWay? 4 offset (before ++ (Bytes.both32 n ++ rest)) = some n.toNat := by
  rw [← ofLittle_little32 n]
  exact twoWay?_reversed place (length_little32 n)

theorem ofLittle_little16 (n : UInt16) : ofLittle (Bytes.little16 n) = n.toNat := by
  have bound := n.toNat_lt
  simp only [ofLittle, Bytes.little16, UInt16.toNat_toUInt8, UInt16.toNat_shiftRight,
    Nat.shiftRight_eq_div_pow, UInt16.reduceToNat, Nat.reduceMod, Nat.reducePow]
  omega

theorem twoWay?_both16 {offset : Nat} {before rest : Bytes} (place : before.length = offset) (n : UInt16) :
    twoWay? 2 offset (before ++ (Bytes.both16 n ++ rest)) = some n.toNat := by
  rw [← ofLittle_little16 n]
  exact twoWay?_reversed place rfl

/-- At `offset` there is the record of an entry, each of whose numbers is the same in both byte orders. -/
structure Recorded (bytes : Bytes) (offset : Nat) (entry : Entry) : Prop where
  told : Entry.ofRecord? (bytes.drop offset) = some entry
  sector : twoWay? 4 2 (bytes.drop offset) = some entry.sector
  size : twoWay? 4 10 (bytes.drop offset) = some entry.size
  volume : twoWay? 2 28 (bytes.drop offset) = some 1

theorem recorded_directoryRecord {before identifier rest : Bytes} {offset : Nat} {location size : UInt32}
    {flags : UInt8} (place : before.length = offset) (short : identifier.length < 256) :
    Recorded (before ++ (directoryRecord identifier location size flags ++ rest)) offset
      ⟨identifier, location.toNat, size.toNat, flags &&& directoryFlag ≠ 0⟩ := by
  have behind : (before ++ (directoryRecord identifier location size flags ++ rest)).drop offset =
      directoryRecord identifier location size flags ++ rest := List.drop_left' place
  constructor <;> rw [behind]
  · exact ofRecord?_directoryRecord short rest
  · rw [directoryRecord_append]
    exact twoWay?_both32 (by rfl) location
  · rw [directoryRecord_append, ← List.append_assoc]
    exact twoWay?_both32 (by rfl) size
  · rw [directoryRecord_append]
    iterate 4 rw [← List.append_assoc]
    exact twoWay?_both16 (by rfl) 1

/-- The numbers of a volume descriptor that stand in both byte orders. -/
structure Numbered (descriptor : Bytes) (sectors : Nat) : Prop where
  sectors : twoWay? 4 80 descriptor = some sectors
  volumes : twoWay? 2 120 descriptor = some 1
  volume : twoWay? 2 124 descriptor = some 1
  sectorSize : twoWay? 2 128 descriptor = some sectorSize
  pathTable : twoWay? 4 132 descriptor = some pathTableSize.toNat
  root : Recorded descriptor 156 ⟨[0], rootDirectorySector.toNat, directorySize.toNat, true⟩

theorem numbered_primaryDescriptor (sectors : UInt32) (valid : validLabel label = true) :
    Numbered (primaryDescriptor label sectors) sectors.toNat := by
  unfold primaryDescriptor
  simp only [List.append_assoc]
  -- Each number stands behind the fields in front of it, whose lengths come to its offset.
  refine ⟨?sectors, ?volumes, ?volume, ?sectorSize, ?pathTable, ?root⟩
  case' sectors =>
    iterate 5 rw [← List.append_assoc]
    refine twoWay?_both32 ?_ sectors
  case' volumes =>
    iterate 7 rw [← List.append_assoc]
    refine twoWay?_both16 ?_ 1
  case' volume =>
    iterate 8 rw [← List.append_assoc]
    refine twoWay?_both16 ?_ 1
  case' sectorSize =>
    iterate 9 rw [← List.append_assoc]
    refine twoWay?_both16 ?_ 2048
  case' pathTable =>
    iterate 10 rw [← List.append_assoc]
    refine twoWay?_both32 ?_ pathTableSize
  case' root =>
    iterate 15 rw [← List.append_assoc]
    refine recorded_directoryRecord ?_ (by decide)
  all_goals
    simp only [List.length_append, length_label valid, length_blank, length_standard, length_zeros,
      length_both32, length_both16, length_little32, length_big32, List.length_cons, List.length_nil]

/-- A directory has records of itself, of itself as its own parent, and of files that follow one another, each
right behind the one before it. -/
structure Lists (directory : Bytes) (files : List File) : Prop where
  length : directory.length = directoryLength files
  self : Recorded directory 0 ⟨[0], rootDirectorySector.toNat, directorySize.toNat, true⟩
  parent : Recorded directory 34 ⟨[1], rootDirectorySector.toNat, directorySize.toNat, true⟩
  files : ∀ before file after, files = before ++ file :: after → Recorded directory (directoryLength before)
    ⟨utf8 (file.name ++ ";1"), endSector before, file.data.length, false⟩

theorem lists_rootDirectory (allocated : allocate firstFileSector files = .ok (extents, total)) :
    Lists (rootDirectory extents) files := by
  obtain ⟨same, placed⟩ := allocate_placed allocated (by decide)
  constructor
  case length => rw [length_rootDirectory, same]
  case self =>
    rw [rootDirectory, List.append_assoc]
    exact recorded_directoryRecord List.length_nil (by decide)
  case parent =>
    rw [rootDirectory, List.append_assoc]
    exact recorded_directoryRecord (length_rootRecord 0) (by decide)
  case files =>
    rintro before file after rfl
    obtain ⟨earlier, later, rfl, front, back⟩ := allocate_split allocated
    obtain ⟨valid, size, following, later, -, rfl⟩ := allocate_cons back
    obtain ⟨same, -⟩ := allocate_placed front (by decide)
    have name := (placed ⟨file, endSector before⟩ (by simp [endSector])).name
    have start : endSector before < UInt32.size := by
      have : endSector before = firstFileSector + sectorsOf before := rfl
      omega
    have place : (rootRecord 0 ++ rootRecord 1 ++ earlier.flatMap Extent.record).length =
        directoryLength before := by
      rw [← same, ← length_rootDirectory, rootDirectory]
    have short : (utf8 (file.name ++ ";1")).length < 256 := by
      rw [length_identifier]
      dsimp only at name
      omega
    have record := @recorded_directoryRecord _ _ (later.flatMap Extent.record) _ (endSector before).toUInt32
      file.data.length.toUInt32 0 place short
    rw [UInt32.toNat_ofNat_of_lt' start, UInt32.toNat_ofNat_of_lt' size] at record
    rw [rootDirectory, List.flatMap_append, List.flatMap_cons, ← List.append_assoc]
    exact record

/-- `count` sectors of an image, from `sector` on, hold `part` and zeros behind it. -/
def Holds (image : Bytes) (sector count : Nat) (part : Bytes) : Prop :=
  part.length ≤ count * sectorSize ∧ slice? (sector * sectorSize) (count * sectorSize) image =
    some (part ++ Bytes.zeros (count * sectorSize - part.length))

theorem slice?_front {part rest : Bytes} {length : Nat} (width : part.length = length) :
    slice? 0 length (part ++ rest) = some part := by
  subst width
  simp [slice?]

theorem holds_toSectors {before part rest : Bytes} {sector : Nat} (place : before.length = sector * sectorSize) :
    Holds (before ++ (toSectors part ++ rest)) sector (sectorsFor part.length) part :=
  ⟨le_sectorsFor part.length, slice?_field place (length_toSectors part)⟩

theorem holds_oneSector {before part rest : Bytes} {sector : Nat} (positive : 0 < part.length)
    (small : part.length ≤ sectorSize) (place : before.length = sector * sectorSize) :
    Holds (before ++ (toSectors part ++ rest)) sector 1 part :=
  sectorsFor_one positive small ▸ holds_toSectors place

/-- What an image with the files `sorted`, in this order, looks like. -/
structure LaidOut (sorted : List File) (image : Bytes) : Prop where
  length : image.length = endSector sorted * sectorSize
  system : Holds image 0 systemSectors []
  primary : ∃ descriptor, descriptor.length = 882 ∧ Numbered descriptor (endSector sorted) ∧
    Holds image 16 1 descriptor
  terminator : Holds image 17 1 terminator
  lowPaths : Holds image 18 1 lowPathTable
  highPaths : Holds image 19 1 highPathTable
  directory : ∃ directory, Lists directory sorted ∧ Holds image 20 1 directory
  data : ∀ before file after, sorted = before ++ file :: after →
    Holds image (endSector before) (sectorsFor file.data.length) file.data

theorem laidOut_header (valid : validLabel label = true)
    (allocated : allocate firstFileSector files = .ok (extents, total))
    (small : (rootDirectory extents).length ≤ sectorSize) :
    LaidOut files (header label total extents ++ extents.flatMap fun e => toSectors e.file.data) := by
  obtain ⟨first, bounded, length⟩ := allocate_length allocated (by decide)
  have sectors : total = endSector files := allocate_total allocated
  have described := length_primaryDescriptor total.toUInt32 valid
  have primary := length_toSectors_primary total valid
  have terminated : (toSectors terminator).length = sectorSize := length_oneSector (by decide) (by decide)
  have lowPaths : (toSectors lowPathTable).length = sectorSize := length_oneSector (by decide) (by decide)
  have highPaths : (toSectors highPathTable).length = sectorSize := length_oneSector (by decide) (by decide)
  have positive : 0 < (rootDirectory extents).length := by
    simp only [rootDirectory, List.length_append, length_rootRecord]
    omega
  refine ⟨?length, ?system, ⟨primaryDescriptor label total.toUInt32, described, ?numbered, ?primary⟩, ?terminator,
    ?lowPaths, ?highPaths, ⟨rootDirectory extents, lists_rootDirectory allocated, ?directory⟩, ?data⟩
  case length =>
    rw [List.length_append, length_header total valid small, length, ← Nat.add_mul, ← sectors,
      Nat.add_sub_cancel' first]
  case numbered =>
    have numbered := numbered_primaryDescriptor total.toUInt32 valid
    rw [UInt32.toNat_ofNat_of_lt' bounded] at numbered
    exact sectors ▸ numbered
  case data =>
    rintro before file after rfl
    obtain ⟨earlier, later, rfl, front, back⟩ := allocate_split allocated
    obtain ⟨-, -, -, later, -, rfl⟩ := allocate_cons back
    obtain ⟨_, _, between⟩ := allocate_length front (by decide)
    rw [List.flatMap_append, List.flatMap_cons, ← List.append_assoc]
    refine holds_toSectors ?_
    rw [List.length_append, length_header total valid small, between, ← Nat.add_mul, endSector,
      Nat.add_sub_cancel_left]
  all_goals
    rw [header]
    simp only [List.append_assoc]
  case system =>
    refine ⟨Nat.zero_le _, ?_⟩
    rw [Nat.zero_mul, List.nil_append, List.length_nil, Nat.sub_zero]
    exact slice?_front (length_zeros _)
  case' primary => refine holds_oneSector (by omega) (by rw [described]; decide) ?_
  case' terminator =>
    iterate 1 rw [← List.append_assoc]
    refine holds_oneSector (by decide) (by decide) ?_
  case' lowPaths =>
    iterate 2 rw [← List.append_assoc]
    refine holds_oneSector (by decide) (by decide) ?_
  case' highPaths =>
    iterate 3 rw [← List.append_assoc]
    refine holds_oneSector (by decide) (by decide) ?_
  case' directory =>
    iterate 4 rw [← List.append_assoc]
    refine holds_oneSector positive small ?_
  all_goals
    simp only [List.length_append, length_zeros, primary, terminated, lowPaths, highPaths]
    try rfl

/-- An image holds its files in ascending order of the bytes of their names. From the first free sector on each of them
stands where its record says, in whole sectors right behind the one before it, and the image ends with the last one. -/
theorem build_laid_out (built : build label files = .ok image) : (inOrder files).Perm files ∧
    ((inOrder files).Pairwise fun a b => utf8 a.name < utf8 b.name) ∧ LaidOut (inOrder files) image := by
  obtain ⟨extents, total, valid, unrepeated, allocated, small, rfl⟩ := build_cases built
  exact ⟨inOrder_perm files, inOrder_ascending unrepeated, laidOut_header valid allocated small⟩

/-- A file without any bytes takes no sector, and the next one starts where it does. -/
theorem build_laid_out_pair : ∃ image,
    build "cidata" [⟨"b", 1 :: Bytes.zeros 2048⟩, ⟨"a", []⟩] = .ok image ∧
      LaidOut [⟨"a", []⟩, ⟨"b", 1 :: Bytes.zeros 2048⟩] image ∧ image.length = 23 * sectorSize := by
  have order : inOrder [⟨"b", 1 :: Bytes.zeros 2048⟩, ⟨"a", []⟩] = [⟨"a", []⟩, ⟨"b", 1 :: Bytes.zeros 2048⟩] := by
    rw [inOrder, mergeSort_pair, if_neg (by decide)]
  have long : (1 :: Bytes.zeros 2048).length = 2049 := by rw [List.length_cons, length_zeros]
  have labelled : validLabel "cidata" = true := by decide
  obtain ⟨image, built⟩ := build_ok labelled order (by decide)
    (allocate_cons_ok (by decide) (by decide) (by decide)
      (allocate_cons_ok (by decide) (by rw [long]; decide) (by rw [long]; decide) rfl))
    (rootDirectory_pair (by decide))
  obtain ⟨-, -, laid⟩ := build_laid_out built
  rw [order] at laid
  refine ⟨image, built, laid, laid.length.trans (congrArg (· * sectorSize) ?_)⟩
  simp only [endSector, sectorsOf, List.map_cons, List.map_nil, long]
  decide

end MachineKeeper.Iso
