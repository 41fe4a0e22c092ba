import MachineKeeper.Proofs.Iso
import MachineKeeper.Iso.Reader

/-! What a reader finds in an image. The length of a directory record has one byte, so a record of 256
bytes says that it has none; it is that of a file whose name has 220 bytes, the most that are allowed. A
reader stops there. -/
namespace MachineKeeper

theorem ofUtf8?_utf8 (text : String) : ofUtf8? (utf8 text) = some text := by
  have valid : (⟨(utf8 text).toArray⟩ : ByteArray).IsValidUTF8 := by
    simpa [utf8] using text.isValidUTF8
  rw [ofUtf8?, String.fromUTF8?, dif_pos valid]
  simp [String.fromUTF8, utf8]

theorem utf8_append (a b : String) : utf8 (a ++ b) = utf8 a ++ utf8 b := by
  simp [utf8]

namespace Iso

theorem slice?_field {before field rest : Bytes} {offset length : Nat}
    (place : before.length = offset) (width : field.length = length) :
    slice? offset length (before ++ (field ++ rest)) = some field := by
  subst place width
  simp [slice?]

theorem ofLittle_little32 (n : UInt32) : ofLittle (Bytes.little32 n) = n.toNat := by
  have bound := n.toNat_lt
  simp only [ofLittle, Bytes.little32, UInt32.toNat_toUInt8, UInt32.toNat_shiftRight,
    Nat.shiftRight_eq_div_pow, UInt32.reduceToNat, Nat.reduceMod, Nat.reducePow]
  omega

theorem number32?_both32 {before rest : Bytes} {offset : Nat} (place : before.length = offset)
    (n : UInt32) : number32? offset (before ++ (Bytes.both32 n ++ rest)) = some n.toNat := by
  rw [number32?, Bytes.both32, List.append_assoc, slice?_field place (length_little32 n)]
  exact congrArg some (ofLittle_little32 n)

section
variable {identifier : Bytes} {location size : UInt32} {flags : UInt8}

/-- A record tells what it was made of. -/
theorem ofRecord?_directoryRecord (short : identifier.length < 256) (rest : Bytes) :
    Entry.ofRecord? (directoryRecord identifier location size flags ++ rest) =
      some ⟨identifier, location.toNat, size.toNat, flags &&& directoryFlag ≠ 0⟩ := by
  generalize layout : directoryRecord identifier location size flags ++ rest = record
  rw [directoryRecord_append] at layout
  have place : number32? 2 record = some location.toNat := by
    rw [← layout]
    exact number32?_both32 (by rfl) location
  have extent : number32? 10 record = some size.toNat := by
    rw [← layout, ← List.append_assoc]
    exact number32?_both32 (by rfl) size
  have flagged : record[25]? = some flags := by rw [← layout]; rfl
  have width : record[32]? = some identifier.length.toUInt8 := by rw [← layout]; rfl
  have name : slice? 33 identifier.length record = some identifier := by
    rw [← layout]
    simp only [← List.append_assoc]
    rw [List.append_assoc, List.append_assoc]
    exact slice?_field (by rfl) rfl
  have fits : identifier.length.toUInt8.toNat = identifier.length := Nat.mod_eq_of_lt short
  simp only [Entry.ofRecord?, place, extent, flagged, width, Option.bind_eq_bind, Option.bind_some,
    fits, name]
  rfl

theorem recordLength_lt (short : identifier.length < 222) : recordLength identifier < 256 :=
  Nat.lt_of_le_of_lt (recordLength_le identifier) (by omega)

theorem directoryRecord_cons (identifier rest : Bytes) (location size : UInt32) (flags : UInt8) :
    ∃ tail, directoryRecord identifier location size flags ++ rest =
      (recordLength identifier).toUInt8 :: tail :=
  ⟨_, directoryRecord_append ..⟩

/-- A directory that begins with a record of fewer than 256 bytes is read on behind it. -/
theorem entries?_record (short : identifier.length < 222) (rest : Bytes) :
    entries? (directoryRecord identifier location size flags ++ rest) =
      (entries? rest).map
        (⟨identifier, location.toNat, size.toNat, flags &&& directoryFlag ≠ 0⟩ :: ·) := by
  have fits : (recordLength identifier).toUInt8.toNat = recordLength identifier :=
    Nat.mod_eq_of_lt (recordLength_lt short)
  have positive : (recordLength identifier).toUInt8 ≠ 0 := by
    intro zero
    rw [zero] at fits
    simp only [recordLength, UInt8.toNat_zero] at fits
    omega
  have length := length_directoryRecord identifier location size flags
  have read : Entry.ofRecord? (directoryRecord identifier location size flags) =
      some ⟨identifier, location.toNat, size.toNat, flags &&& directoryFlag ≠ 0⟩ := by
    simpa only [List.append_nil] using ofRecord?_directoryRecord (by omega) []
  obtain ⟨tail, layout⟩ := directoryRecord_cons identifier rest location size flags
  have first : slice? 0 (recordLength identifier)
      (directoryRecord identifier location size flags ++ rest) = some _ :=
    slice?_field List.length_nil length
  rw [layout, entries?, dif_neg positive, ← layout, fits, first, ← length, List.drop_left]
  simp only [Option.bind_eq_bind, Option.bind_some, read]
  cases entries? rest <;> rfl

/-- At a record of 256 bytes a reader stops. -/
theorem entries?_overlong (long : identifier.length = 222) (rest : Bytes) :
    entries? (directoryRecord identifier location size flags ++ rest) = some [] := by
  have zero : (recordLength identifier).toUInt8 = 0 := by
    simp [recordLength, recordPadding, long]
  obtain ⟨tail, layout⟩ := directoryRecord_cons identifier rest location size flags
  rw [layout, entries?, dif_pos zero]

theorem entries?_zeros (count : Nat) : entries? (Bytes.zeros count) = some [] := by
  cases count with
  | zero => simp [Bytes.zeros, entries?]
  | succ count => rw [Bytes.zeros, List.replicate_succ, entries?, dif_pos rfl]

end

/-- A name that is short enough for a record of fewer than 256 bytes. -/
def Recordable (file : File) : Prop := file.name.utf8ByteSize < 220

instance (file : File) : Decidable (Recordable file) := inferInstanceAs (Decidable (_ < _))

/-- The entry of a file in the root directory. -/
def Extent.entry (e : Extent) : Entry :=
  ⟨utf8 (e.file.name ++ ";1"), e.start, e.file.data.length, false⟩

/-- A file with a valid name that has its place in `sectors` of an image, counted from `first` on. -/
structure Placed (first : Nat) (sectors : Bytes) (e : Extent) : Prop where
  name : e.file.name.utf8ByteSize ≤ 220
  size : e.file.data.length < UInt32.size
  start : e.start < UInt32.size
  data : ∃ before rest, sectors = before ++ (e.file.data ++ rest) ∧
    first * sectorSize + before.length = e.start * sectorSize

variable {label : String} {files : List File} {extents : List Extent} {image : Bytes}
  {next total : Nat}

theorem allocate_placed (allocated : allocate next files = .ok (extents, total))
    (low : next < UInt32.size) :
    extents.map Extent.file = files ∧
      ∀ e ∈ extents, Placed next (extents.flatMap fun e => toSectors e.file.data) e := by
  induction files generalizing next extents with
  | nil =>
    cases allocated
    exact ⟨rfl, by simp⟩
  | cons file rest ih =>
    obtain ⟨valid, size, following, later, allocated', rfl⟩ := allocate_cons allocated
    obtain ⟨same, placed⟩ := ih allocated' following
    refine ⟨by rw [List.map_cons, same], fun e member => ?_⟩
    rw [List.flatMap_cons]
    rcases List.mem_cons.mp member with rfl | member
    · refine ⟨?_, size, low, [], _, List.append_assoc .., by simp⟩
      simp only [validFileName, Bool.and_eq_true, decide_eq_true_eq] at valid
      dsimp only
      omega
    · obtain ⟨name, size', start, before, tail, found, distance⟩ := placed e member
      refine ⟨name, size', start, toSectors file.data ++ before, tail, ?_, ?_⟩
      · rw [found, List.append_assoc]
      · rw [List.length_append, length_toSectors, ← distance, Nat.add_mul, Nat.add_assoc]

theorem entries?_extents {first : Nat} {sectors : Bytes}
    (placed : ∀ e ∈ extents, Placed first sectors e) (count : Nat) :
    entries? (extents.flatMap Extent.record ++ Bytes.zeros count) =
      some ((extents.takeWhile fun e => Recordable e.file).map Extent.entry) := by
  induction extents with
  | nil => exact entries?_zeros count
  | cons e rest ih =>
    obtain ⟨name, size, start, _⟩ := placed e List.mem_cons_self
    have later := ih fun e member => placed e (List.mem_cons_of_mem _ member)
    have length := length_identifier e.file.name
    rw [List.flatMap_cons, List.append_assoc, Extent.record]
    by_cases short : Recordable e.file
    · have short' : e.file.name.utf8ByteSize < 220 := short
      rw [entries?_record (by omega), later, UInt32.toNat_ofNat_of_lt' start,
        UInt32.toNat_ofNat_of_lt' size, List.takeWhile_cons_of_pos (by simpa using short)]
      rfl
    · have long : ¬ e.file.name.utf8ByteSize < 220 := short
      rw [entries?_overlong (by omega), List.takeWhile_cons_of_neg (by simpa using short)]
      rfl

theorem toSectors_eq (bytes : Bytes) : ∃ count, toSectors bytes = bytes ++ Bytes.zeros count := ⟨_, rfl⟩

/-- What stands in an image before the root directory and behind it. -/
theorem header_directory (total : Nat) (valid : validLabel label = true) (extents : List Extent) :
    ∃ before, before.length = 20 * sectorSize ∧
      header label total extents = before ++ toSectors (rootDirectory extents) := by
  refine ⟨_, ?_, rfl⟩
  simp only [List.length_append, length_zeros, length_toSectors_primary total valid]
  rw [length_oneSector (by decide) (by decide), length_oneSector (by decide) (by decide),
    length_oneSector (by decide) (by decide)]
  rfl

theorem descriptor?_header (total : Nat) (valid : validLabel label = true) (rest : Bytes) :
    descriptor? (header label total extents ++ rest) =
      some (toSectors (primaryDescriptor label total.toUInt32)) := by
  simp only [header, List.append_assoc]
  rw [descriptor?, slice?_field (length_zeros _) (length_toSectors_primary total valid)]

theorem directory?_header (total : Nat) (valid : validLabel label = true)
    (small : (rootDirectory extents).length ≤ sectorSize) (rest : Bytes) :
    slice? (20 * sectorSize) sectorSize (header label total extents ++ rest) =
      some (toSectors (rootDirectory extents)) := by
  obtain ⟨before, place, same⟩ := header_directory total valid extents
  rw [same, List.append_assoc, slice?_field place (length_toSectors_root small)]

/-- The volume descriptor has the label where it is looked for. -/
theorem slice?_label (sectors : UInt32) (valid : validLabel label = true) :
    slice? 40 32 (toSectors (primaryDescriptor label sectors)) = some (field 32 label) := by
  obtain ⟨count, padded⟩ := toSectors_eq (primaryDescriptor label sectors)
  rw [padded]
  unfold primaryDescriptor
  simp only [List.append_assoc]
  -- Four fields stand before the label.
  iterate 3 rw [← List.append_assoc]
  refine slice?_field ?_ (length_label valid)
  simp only [List.length_append, length_blank, length_standard, List.length_cons, List.length_nil]

theorem ofRecord?_root (identifier : UInt8) (rest : Bytes) :
    Entry.ofRecord? (rootRecord identifier ++ rest) = some ⟨[identifier], 20, sectorSize, true⟩ :=
  ofRecord?_directoryRecord (by simp) rest

/-- It has the root directory's record where that is looked for. -/
theorem ofRecord?_descriptor (sectors : UInt32) (valid : validLabel label = true) :
    Entry.ofRecord? ((toSectors (primaryDescriptor label sectors)).drop 156) =
      some ⟨[0], 20, sectorSize, true⟩ := by
  obtain ⟨count, padded⟩ := toSectors_eq (primaryDescriptor label sectors)
  rw [padded]
  unfold primaryDescriptor
  simp only [List.append_assoc]
  -- Sixteen fields stand before the record of the root directory.
  iterate 15 rw [← List.append_assoc]
  rw [List.drop_left', ofRecord?_root]
  simp only [List.length_append, length_blank, length_standard, length_label valid, length_zeros,
    length_both32, length_both16, length_little32, length_big32, List.length_cons, List.length_nil]

theorem volumeName?_build (built : build label files = .ok image) :
    volumeName? image = some (field 32 label) := by
  obtain ⟨extents, total, valid, _, _, _, rfl⟩ := build_cases built
  rw [volumeName?, descriptor?_header total valid, Option.bind_eq_bind, Option.bind_some,
    slice?_label _ valid]

theorem entries?_root (identifier : UInt8) (rest : Bytes) :
    entries? (rootRecord identifier ++ rest) =
      (entries? rest).map (⟨[identifier], 20, sectorSize, true⟩ :: ·) :=
  entries?_record (by simp) rest

theorem withoutVersion_identifier (name : String) :
    withoutVersion (utf8 (name ++ ";1")) = utf8 name := by
  have two : (utf8 name ++ utf8 ";1").length - 2 = (utf8 name).length := by
    rw [List.length_append]
    rfl
  rw [utf8_append, withoutVersion, if_pos (List.isSuffixOf_iff_suffix.mpr ⟨_, rfl⟩), two,
    List.take_left]

theorem read?_entry {before sectors : Bytes} {e : Extent} {first : Nat}
    (place : before.length = first * sectorSize) (placed : Placed first sectors e) :
    e.entry.read? (before ++ sectors) = some e.file := by
  obtain ⟨-, -, -, before', rest, rfl, distance⟩ := placed
  have data : slice? (e.start * sectorSize) e.file.data.length
      (before ++ (before' ++ (e.file.data ++ rest))) = some e.file.data := by
    rw [← List.append_assoc]
    exact slice?_field (by rw [List.length_append, place, distance]) rfl
  simp only [Entry.read?, Extent.entry, withoutVersion_identifier, ofUtf8?_utf8, data,
    Option.bind_eq_bind, Option.bind_some]
  rfl

theorem mapM_entry (read : ∀ e ∈ extents, e.entry.read? image = some e.file) :
    (extents.map Extent.entry).mapM (Entry.read? image) = some (extents.map Extent.file) := by
  induction extents with
  | nil => rfl
  | cons e rest ih =>
    simp only [List.map_cons, List.mapM_cons, read e List.mem_cons_self,
      ih fun e member => read e (List.mem_cons_of_mem _ member)]
    rfl

theorem filter_entry (extents : List Extent) :
    (extents.map Extent.entry).filter (fun entry => !entry.isDirectory) =
      extents.map Extent.entry := by
  refine List.filter_eq_self.mpr fun entry member => ?_
  obtain ⟨e, -, rfl⟩ := List.mem_map.mp member
  rfl

theorem entries?_directory {first : Nat} {sectors : Bytes}
    (placed : ∀ e ∈ extents, Placed first sectors e) : entries? (toSectors (rootDirectory extents)) =
      some (⟨[0], 20, sectorSize, true⟩ :: ⟨[1], 20, sectorSize, true⟩ ::
        (extents.takeWhile fun e => Recordable e.file).map Extent.entry) := by
  obtain ⟨count, padded⟩ := toSectors_eq (rootDirectory extents)
  rw [padded]
  simp only [rootDirectory, List.append_assoc, entries?_root, entries?_extents placed,
    Option.map_some]

theorem files?_eq {descriptor directory : Bytes} {root : Entry} {entries : List Entry}
    (described : descriptor? image = some descriptor)
    (rooted : Entry.ofRecord? (descriptor.drop 156) = some root)
    (found : slice? (root.sector * sectorSize) root.size image = some directory)
    (listed : entries? directory = some entries) :
    files? image = (entries.filter fun entry => !entry.isDirectory).mapM (Entry.read? image) := by
  simp only [files?, described, rooted, found, listed, Option.bind_eq_bind, Option.bind_some]

/-- The files that a reader finds: those before the first one whose record has 256 bytes. -/
theorem files?_build (built : build label files = .ok image) :
    files? image = some ((inOrder files).takeWhile fun file => Recordable file) := by
  obtain ⟨extents, total, valid, -, allocated, small, rfl⟩ := build_cases built
  obtain ⟨same, placed⟩ := allocate_placed allocated (by decide)
  have rooted := ofRecord?_descriptor total.toUInt32 valid
  have cut : ((inOrder files).takeWhile fun file => Recordable file) =
      (extents.takeWhile fun e => Recordable e.file).map Extent.file := by
    rw [← same, List.takeWhile_map]
    rfl
  rw [files?_eq (descriptor?_header total valid _) rooted (directory?_header total valid small _)
    (entries?_directory placed), List.filter_cons_of_neg (by simp), List.filter_cons_of_neg (by simp),
    filter_entry, cut]
  exact mapM_entry fun e member => read?_entry (length_header total valid small)
    (placed e (List.takeWhile_subset _ member))

theorem names_distinct (unrepeated : firstRepeated? files = none)
    (sorted : files.Pairwise fun a b => a.name ≤ b.name) : (files.map File.name).Nodup := by
  induction files using firstRepeated?.induct with
  | case1 a b rest repeated => simp [firstRepeated?, repeated] at unrepeated
  | case2 a b rest differs ih =>
    rw [firstRepeated?, if_neg differs] at unrepeated
    obtain ⟨below, sorted⟩ := List.pairwise_cons.mp sorted
    refine List.nodup_cons.mpr ⟨fun member => differs ?_, ih unrepeated sorted⟩
    obtain ⟨c, member, same⟩ := List.mem_map.mp member
    rcases List.mem_cons.mp member with rfl | member
    · exact same.symm
    · have above : b.name ≤ c.name := (List.pairwise_cons.mp sorted).1 c member
      exact String.le_antisymm (below b List.mem_cons_self) (same ▸ above)
  | case3 files short =>
    cases files with
    | nil => exact List.nodup_nil
    | cons a rest =>
      cases rest with
      | nil => exact List.nodup_cons.mpr ⟨List.not_mem_nil, List.nodup_nil⟩
      | cons b rest => exact absurd rfl (short a b rest)

theorem takeWhile_perm_iff {α : Type} {p : α → Bool} {xs ys : List α} (same : xs.Perm ys) :
    (xs.takeWhile p).Perm ys ↔ ∀ a ∈ ys, p a := by
  constructor
  · intro all a member
    exact List.all_eq_true.mp List.all_takeWhile a (all.mem_iff.mpr member)
  · intro all
    have whole : (xs ++ []).takeWhile p = xs ++ [].takeWhile p :=
      List.takeWhile_append_of_pos fun a member => all a (same.mem_iff.mp member)
    rw [List.takeWhile_nil, List.append_nil] at whole
    rwa [whole]

theorem inOrder_perm (files : List File) : (inOrder files).Perm files := List.mergeSort_perm ..

theorem inOrder_sorted (files : List File) :
    (inOrder files).Pairwise fun a b => a.name ≤ b.name := by
  have sorted : (inOrder files).Pairwise fun a b => decide (a.name ≤ b.name) = true :=
    List.pairwise_mergeSort (fun a b c => by simpa using String.le_trans)
      (fun a b => by simpa using String.le_total ..) files
  exact sorted.imp of_decide_eq_true

/-- Whoever mounts an image finds its label, padded with blanks, and each of its files once, byte for
byte, exactly if no name has 220 bytes. Where one has, the files from it on are missing. -/
theorem build_readable (built : build label files = .ok image) :
    volumeName? image = some (field 32 label) ∧ (files.map File.name).Nodup ∧
      files? image = some ((inOrder files).takeWhile fun file => file.name.utf8ByteSize < 220) ∧
      ((∃ found, files? image = some found ∧ found.Perm files) ↔
        ∀ file ∈ files, file.name.utf8ByteSize < 220) := by
  have found := files?_build built
  obtain ⟨-, -, -, unrepeated, -⟩ := build_cases built
  refine ⟨volumeName?_build built, ?_, found, ?_⟩
  · exact ((inOrder_perm files).map File.name).nodup_iff.mp
      (names_distinct unrepeated (inOrder_sorted files))
  · simp only [found, Option.some.injEq, exists_eq_left', takeWhile_perm_iff (inOrder_perm files),
      Recordable]
    exact forall₂_congr fun file _ => decide_eq_true_iff

theorem build_readable_pair : ∃ image,
    build "cidata" [⟨"user-data", [104, 105]⟩, ⟨"meta-data", []⟩] = .ok image ∧
      volumeName? image = some (field 32 "cidata") ∧
      files? image = some [⟨"meta-data", []⟩, ⟨"user-data", [104, 105]⟩] := by
  have order : inOrder [⟨"user-data", [104, 105]⟩, ⟨"meta-data", []⟩] =
      [⟨"meta-data", []⟩, ⟨"user-data", [104, 105]⟩] := by
    rw [inOrder, mergeSort_pair, if_neg (by decide)]
  have labelled : validLabel "cidata" = true := by decide
  obtain ⟨image, built⟩ := build_ok labelled order (by decide)
    (allocate_cons_ok (by decide) (by decide) (by decide)
      (allocate_cons_ok (by decide) (by decide) (by decide) rfl)) (rootDirectory_pair (by decide))
  obtain ⟨named, -, found, -⟩ := build_readable built
  refine ⟨image, built, named, found.trans (congrArg some ?_)⟩
  rw [order]
  decide

/-- A name of as many letters as `count` says. -/
def letters (count : Nat) : String := String.ofList (List.replicate count 'a')

theorem utf8ByteSize_letters (count : Nat) : (letters count).utf8ByteSize = count := by
  induction count with
  | zero => rfl
  | succ count ih =>
    rw [letters, List.replicate_succ', String.ofList_append, String.utf8ByteSize_append]
    exact congrArg (· + 1) ih

theorem validFileName_letters {count : Nat} (positive : 0 < count) (short : count ≤ 220) :
    validFileName (letters count) = true := by
  simp only [validFileName, isAscii, utf8ByteSize_letters]
  simp [letters, short]
  omega

theorem longest_unread : ∃ image, build "cidata" [⟨letters 220, [120]⟩] = .ok image ∧
    files? image = some [] := by
  have labelled : validLabel "cidata" = true := by decide
  have order : inOrder [⟨letters 220, [120]⟩] = [⟨letters 220, [120]⟩] := List.mergeSort_singleton _
  have allocated : allocate firstFileSector [⟨letters 220, [120]⟩] = .ok _ :=
    allocate_cons_ok (validFileName_letters (by decide) (by decide)) (by decide) (by decide) rfl
  have size := utf8ByteSize_letters 220
  have record := length_record_le ⟨letters 220, [120]⟩ firstFileSector
  obtain ⟨image, built⟩ := build_ok labelled order rfl allocated (by
    simp only [rootDirectory, List.flatMap_cons, List.flatMap_nil, List.length_append,
      length_rootRecord, List.length_nil, sectorSize]
    dsimp only at record
    omega)
  refine ⟨image, built, (files?_build built).trans (congrArg some ?_)⟩
  rw [order, List.takeWhile_cons_of_neg]
  simp [Recordable, size]

end Iso

/-- The files that a guest finds on its image. -/
theorem CloudInit.image_files {machine userData : String} {image : Bytes}
    (built : CloudInit.image machine userData = .ok image) : Iso.files? image =
      some [⟨"meta-data", utf8 (CloudInit.metaData machine)⟩, ⟨"user-data", utf8 userData⟩] := by
  have order : ¬ decide ("user-data" ≤ "meta-data") = true := by decide
  rw [Iso.files?_build built, Iso.inOrder, Iso.mergeSort_pair, if_neg order]
  have first : "meta-data".utf8ByteSize < 220 := by decide
  have second : "user-data".utf8ByteSize < 220 := by decide
  simp [List.takeWhile, Iso.Recordable, first, second]

end MachineKeeper
