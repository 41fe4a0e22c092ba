import MachineKeeper.Proofs.IsoBuffer
import MachineKeeper.Proofs.IsoLayout

/-! Which labels and files there is an image for, and what is said about the others: the first thing that is wrong, of
files the one of the first file in the order of their names. -/
namespace MachineKeeper.Iso

variable {label name : String} {files files' rest : List File} {file : File} {next : Nat} {e : Error}

structure PlainLabel (label : String) : Prop where
  ascii : ∀ c ∈ label.toList, c.toNat < 128
  short : label.utf8ByteSize ≤ 32

structure PlainName (name : String) : Prop where
  nonempty : name ≠ ""
  ascii : ∀ c ∈ name.toList, c.toNat < 128
  short : name.utf8ByteSize ≤ 220
  unmarked : ∀ c ∈ name.toList, c ∉ ['/', ';', '\x00']

/-- Each file has a name and a size that can be recorded, and the last sector has a number of 32 bits. -/
structure Placeable (files : List File) : Prop where
  names : ∀ file ∈ files, PlainName file.name
  sizes : ∀ file ∈ files, file.data.length < UInt32.size
  sectors : endSector files < UInt32.size

structure Acceptable (label : String) (files : List File) : Prop where
  label : PlainLabel label
  distinct : (files.map File.name).Nodup
  places : Placeable files
  directory : directoryLength files ≤ sectorSize

def Repeated (files : List File) (name : String) : Prop := 2 ≤ (files.map File.name).count name

/-- What is wrong with a file that would start at a sector. -/
inductive Objection (start : Nat) (file : File) : Error → Prop
  | name (improper : ¬ PlainName file.name) : Objection start file (.invalidFileName file.name)
  | large (proper : PlainName file.name)
      (large : UInt32.size ≤ file.data.length ∨ UInt32.size ≤ start + sectorsFor file.data.length) :
      Objection start file (.fileTooLarge file.name)

/-- The files that stand before a given one in the order of their names. -/
def inFront (files : List File) (file : File) : List File :=
  files.filter fun other => utf8 other.name < utf8 file.name

/-- Why there is no image. Each reason is given only if those above it do not hold. -/
inductive Refusal (label : String) (files : List File) : Error → Prop
  | label (improper : ¬ PlainLabel label) : Refusal label files (.invalidLabel label)
  | repeated {name : String} (proper : PlainLabel label) (repeated : Repeated files name)
      (first : ∀ other, Repeated files other → utf8 name ≤ utf8 other) : Refusal label files (.duplicateFile name)
  | file {file : File} {e : Error} (proper : PlainLabel label) (distinct : (files.map File.name).Nodup)
      (member : file ∈ files) (objection : Objection (endSector (inFront files file)) file e)
      (first : ∀ other ∈ inFront files file, ∀ e, ¬ Objection (endSector (inFront files other)) other e) :
      Refusal label files e
  | full (proper : PlainLabel label) (distinct : (files.map File.name).Nodup) (places : Placeable files)
      (full : sectorSize < directoryLength files) : Refusal label files .directoryFull

theorem isAscii_iff {text : String} : isAscii text = true ↔ ∀ c ∈ text.toList, c.toNat < 128 := by
  simp only [isAscii, List.all_eq_true, decide_eq_true_eq]

theorem validLabel_iff : validLabel label = true ↔ PlainLabel label := by
  rw [validLabel, Bool.and_eq_true, decide_eq_true_eq, isAscii_iff]
  exact ⟨fun valid => ⟨valid.2, valid.1⟩, fun plain => ⟨plain.short, plain.ascii⟩⟩

theorem validFileName_iff : validFileName name = true ↔ PlainName name := by
  simp only [validFileName, Bool.and_eq_true, decide_eq_true_eq, isAscii_iff, List.all_eq_true]
  constructor
  · rintro ⟨⟨⟨nonempty, short⟩, ascii⟩, unmarked⟩
    refine ⟨nonempty, ascii, by omega, fun c member => ?_⟩
    simpa only [List.mem_cons, List.not_mem_nil, or_false, not_or, and_assoc] using unmarked c member
  · rintro ⟨nonempty, ascii, short, unmarked⟩
    refine ⟨⟨⟨nonempty, by omega⟩, ascii⟩, fun c member => ?_⟩
    simpa only [List.mem_cons, List.not_mem_nil, or_false, not_or, and_assoc] using unmarked c member

theorem Repeated.not_nodup (twice : Repeated files name) : ¬ (files.map File.name).Nodup := fun distinct =>
  absurd (List.nodup_iff_count_le_one.mp distinct name) (Nat.not_le.mpr twice)

theorem firstRepeated?_some (sorted : files.Pairwise fun a b => a.name ≤ b.name)
    (found : firstRepeated? files = some name) :
    Repeated files name ∧ ∀ other, Repeated files other → name ≤ other := by
  induction files using firstRepeated?.induct with
  | case1 a b rest repeated =>
    rw [firstRepeated?, if_pos repeated] at found
    obtain rfl := Option.some.inj found
    refine ⟨by simp [Repeated, repeated], fun other twice => ?_⟩
    have member : other ∈ (a :: b :: rest).map File.name := by
      apply List.count_pos_iff.mp
      have : 2 ≤ ((a :: b :: rest).map File.name).count other := twice
      omega
    obtain ⟨c, inside, rfl⟩ := List.mem_map.mp member
    rcases List.mem_cons.mp inside with rfl | behind
    · exact String.le_refl _
    · exact List.rel_of_pairwise_cons sorted behind
  | case2 a b rest differs ih =>
    rw [firstRepeated?, if_neg differs] at found
    obtain ⟨below, sorted'⟩ := List.pairwise_cons.mp sorted
    obtain ⟨twice, first⟩ := ih sorted' found
    -- In sorted files a name that the next one does not have stands nowhere behind.
    have unseen : a.name ∉ (b :: rest).map File.name := by
      intro member
      obtain ⟨c, member, same⟩ := List.mem_map.mp member
      rcases List.mem_cons.mp member with rfl | member
      · exact differs same.symm
      · have above : b.name ≤ c.name := List.rel_of_pairwise_cons sorted' member
        exact differs (String.le_antisymm (below b List.mem_cons_self) (same ▸ above))
    refine ⟨Nat.le_trans twice (List.count_le_count_cons ..), fun other again => first other ?_⟩
    by_cases same : a.name = other
    · subst same
      have once : ((a :: b :: rest).map File.name).count a.name = 1 := by
        rw [List.map_cons, List.count_cons_self, List.count_eq_zero.mpr unseen]
      rw [Repeated, once] at again
      omega
    · rwa [Repeated, List.map_cons, List.count_cons_of_ne same] at again
  | case3 files short =>
    cases files with
    | nil => cases found
    | cons a rest =>
      cases rest with
      | nil => cases found
      | cons b rest => exact absurd rfl (short a b rest)

theorem repeated_perm (same : files.Perm files') : Repeated files name ↔ Repeated files' name := by
  rw [Repeated, Repeated, (same.map File.name).count_eq]

theorem firstRepeated?_none_iff :
    firstRepeated? (inOrder files) = none ↔ (files.map File.name).Nodup := by
  rw [← ((inOrder_perm files).map File.name).nodup_iff]
  constructor
  · exact inOrder_names_nodup
  · intro distinct
    refine Option.eq_none_iff_forall_ne_some.mpr fun name found => ?_
    exact (firstRepeated?_some (inOrder_sorted files) found).1.not_nodup distinct

theorem firstRepeated?_some_iff : firstRepeated? (inOrder files) = some name ↔
    Repeated files name ∧ ∀ other, Repeated files other → utf8 name ≤ utf8 other := by
  have order (a b : String) : utf8 a ≤ utf8 b ↔ a ≤ b := by
    rw [← List.not_lt, utf8_lt_iff, String.not_lt]
  have same (name : String) : Repeated (inOrder files) name ↔ Repeated files name :=
    repeated_perm (inOrder_perm files)
  simp only [order, ← same]
  constructor
  · exact firstRepeated?_some (inOrder_sorted files)
  · rintro ⟨twice, first⟩
    cases found : firstRepeated? (inOrder files) with
    | none => exact absurd (inOrder_names_nodup found) twice.not_nodup
    | some other =>
      obtain ⟨twice', first'⟩ := firstRepeated?_some (inOrder_sorted files) found
      exact congrArg some (String.le_antisymm (first' name twice) (first other twice'))

theorem unobjected_iff : (∀ e, ¬ Objection next file e) ↔ PlainName file.name ∧
    file.data.length < UInt32.size ∧ next + sectorsFor file.data.length < UInt32.size := by
  constructor
  · intro free
    have plain : PlainName file.name := Classical.byContradiction fun improper => free _ (.name improper)
    exact ⟨plain, Nat.not_le.mp fun large => free _ (.large plain (.inl large)),
      Nat.not_le.mp fun large => free _ (.large plain (.inr large))⟩
  · rintro ⟨plain, small, near⟩ e (improper | ⟨-, large | large⟩)
    · exact improper plain
    · omega
    · omega

theorem Objection.unique {e' : Error} (a : Objection next file e) (b : Objection next file e') : e = e' := by
  cases a with
  | name improper =>
    cases b with
    | name _ => rfl
    | large plain _ => exact absurd plain improper
  | large plain _ =>
    cases b with
    | name improper => exact absurd plain improper
    | large _ _ => rfl

theorem allocate_objected (objection : Objection next file e) : allocate next (file :: rest) = .error e := by
  cases objection with
  | name improper =>
    have invalid : validFileName file.name = false := Bool.eq_false_iff.mpr fun valid =>
      improper (validFileName_iff.mp valid)
    rw [allocate, invalid]
    rfl
  | large plain large => exact allocate_large rest (validFileName_iff.mpr plain) large

theorem allocate_unobjected (free : ∀ e, ¬ Objection next file e) : allocate next (file :: rest) =
    (allocate (next + sectorsFor file.data.length) rest).map fun (extents, total) =>
      (⟨file, next⟩ :: extents, total) := by
  obtain ⟨plain, small, near⟩ := unobjected_iff.mp free
  exact allocate_cons_eq rest (validFileName_iff.mpr plain) small near

theorem allocate_cons_error_iff : allocate next (file :: rest) = .error e ↔ Objection next file e ∨
    (∀ e, ¬ Objection next file e) ∧ allocate (next + sectorsFor file.data.length) rest = .error e := by
  by_cases free : ∀ e, ¬ Objection next file e
  · rw [allocate_unobjected free]
    cases allocate (next + sectorsFor file.data.length) rest <;> simp [Except.map, free e, free]
  · obtain ⟨e', objection⟩ := Classical.not_forall_not.mp free
    rw [allocate_objected objection]
    constructor
    · rintro ⟨⟩
      exact .inl objection
    · rintro (objection' | ⟨free', -⟩)
      · rw [objection.unique objection']
      · exact absurd free' free

theorem sectorsOf_cons (file : File) (rest : List File) :
    next + sectorsOf (file :: rest) = next + sectorsFor file.data.length + sectorsOf rest := by
  rw [sectorsOf, List.map_cons, List.sum_cons, Nat.add_assoc]
  rfl

/-- What is said about files is what is said about one of them, and nothing is to be said about those in front. -/
theorem allocate_error_iff : allocate next files = .error e ↔ ∃ before file after,
    files = before ++ file :: after ∧ Objection (next + sectorsOf before) file e ∧
      ∀ front other back, before = front ++ other :: back → ∀ e, ¬ Objection (next + sectorsOf front) other e := by
  induction files generalizing next with
  | nil => simp [allocate]
  | cons first rest ih =>
    rw [allocate_cons_error_iff, ih]
    constructor
    · rintro (objection | ⟨free, before, file, after, rfl, objection, earlier⟩)
      · exact ⟨[], first, rest, rfl, objection, fun front other back none => by simp at none⟩
      · refine ⟨first :: before, file, after, rfl, by rwa [sectorsOf_cons], fun front other back split => ?_⟩
        cases front with
        | nil =>
          cases split
          exact free
        | cons _ front =>
          obtain ⟨rfl, split'⟩ := List.cons.inj split
          rw [sectorsOf_cons]
          exact earlier front other back split'
    · rintro ⟨before, file, after, split, objection, earlier⟩
      cases before with
      | nil =>
        cases split
        exact .inl objection
      | cons _ before =>
        obtain ⟨rfl, rfl⟩ := List.cons.inj split
        refine .inr ⟨earlier [] first before rfl, before, file, after, rfl, by rwa [← sectorsOf_cons], ?_⟩
        intro front other back split
        rw [← sectorsOf_cons]
        exact earlier (first :: front) other back (by rw [split, List.cons_append])

theorem allocate_ok_iff (low : next < UInt32.size) : (∃ placed, allocate next files = .ok placed) ↔
    (∀ file ∈ files, PlainName file.name) ∧ (∀ file ∈ files, file.data.length < UInt32.size) ∧
      next + sectorsOf files < UInt32.size := by
  induction files generalizing next with
  | nil => simpa [allocate, sectorsOf] using low
  | cons file rest ih =>
    rw [List.forall_mem_cons, List.forall_mem_cons, sectorsOf_cons]
    by_cases free : ∀ e, ¬ Objection next file e
    · obtain ⟨plain, small, near⟩ := unobjected_iff.mp free
      rw [allocate_unobjected free]
      simp only [plain, small, true_and, ← ih near]
      cases allocate (next + sectorsFor file.data.length) rest <;> simp [Except.map]
    · obtain ⟨e, objection⟩ := Classical.not_forall_not.mp free
      rw [allocate_objected objection]
      constructor
      · rintro ⟨placed, ⟨⟩⟩
      · rintro ⟨⟨plain, -⟩, ⟨small, -⟩, near⟩
        exact absurd (unobjected_iff.mpr ⟨plain, small, by omega⟩) free

theorem endSector_perm (same : files.Perm files') : endSector files = endSector files' := by
  rw [endSector, endSector, sectorsOf, sectorsOf, (same.map _).sum_nat]

theorem directoryLength_perm (same : files.Perm files') : directoryLength files = directoryLength files' := by
  rw [directoryLength, directoryLength, (same.map _).sum_nat]

theorem placeable_perm (same : files.Perm files') (placeable : Placeable files) : Placeable files' where
  names file member := placeable.names file (same.mem_iff.mpr member)
  sizes file member := placeable.sizes file (same.mem_iff.mpr member)
  sectors := endSector_perm same ▸ placeable.sectors

/-- The files in front of one are those that stand before it, where files stand in order. -/
theorem inFront_ascending {before after : List File}
    (ascending : (before ++ file :: after).Pairwise fun a b => utf8 a.name < utf8 b.name) :
    inFront (before ++ file :: after) file = before := by
  obtain ⟨-, behind, across⟩ := List.pairwise_append.mp ascending
  have kept : before.filter (fun other => utf8 other.name < utf8 file.name) = before :=
    List.filter_eq_self.mpr fun other member => decide_eq_true (across other member file List.mem_cons_self)
  have dropped : (file :: after).filter (fun other => utf8 other.name < utf8 file.name) = [] := by
    refine List.filter_eq_nil_iff.mpr fun other member => ?_
    rw [decide_eq_true_eq]
    rcases List.mem_cons.mp member with rfl | member
    · exact List.lt_irrefl _
    · exact List.lt_asymm (List.rel_of_pairwise_cons behind member)
  rw [inFront, List.filter_append, kept, dropped, List.append_nil]

theorem inFront_perm (same : files.Perm files') : (inFront files file).Perm (inFront files' file) :=
  same.filter _

/-- Of files in order the first one that is objected to is refused. -/
theorem allocate_ascending_error_iff (ascending : files.Pairwise fun a b => utf8 a.name < utf8 b.name) :
    allocate firstFileSector files = .error e ↔ ∃ file ∈ files,
      Objection (endSector (inFront files file)) file e ∧
        ∀ other ∈ inFront files file, ∀ e, ¬ Objection (endSector (inFront files other)) other e := by
  rw [allocate_error_iff]
  constructor
  · rintro ⟨before, file, after, rfl, objection, earlier⟩
    refine ⟨file, by simp, ?_⟩
    rw [inFront_ascending ascending]
    refine ⟨objection, fun other member => ?_⟩
    obtain ⟨front, back, rfl⟩ := List.append_of_mem member
    rw [List.append_assoc, List.cons_append] at ascending ⊢
    rw [inFront_ascending ascending]
    exact earlier front other back rfl
  · rintro ⟨file, member, objection, earlier⟩
    obtain ⟨before, after, rfl⟩ := List.append_of_mem member
    rw [inFront_ascending ascending] at objection earlier
    refine ⟨before, file, after, rfl, objection, ?_⟩
    rintro front other back rfl
    have free := earlier other (by simp)
    rw [List.append_assoc, List.cons_append] at ascending free
    rwa [inFront_ascending ascending] at free

theorem length_rootDirectory_allocated {extents : List Extent} {total : Nat}
    (allocated : allocate firstFileSector files = .ok (extents, total)) :
    (rootDirectory extents).length = directoryLength files := by
  rw [length_rootDirectory, (allocate_placed allocated (by decide)).1]

theorem placeable_iff : Placeable files ↔ ∃ placed, allocate firstFileSector files = .ok placed := by
  rw [allocate_ok_iff (by decide)]
  exact ⟨fun places => ⟨places.names, places.sizes, places.sectors⟩,
    fun placed => ⟨placed.1, placed.2.1, placed.2.2⟩⟩

theorem layOut_ok_iff : (∃ image, layOut label files = .ok image) ↔
    Placeable files ∧ directoryLength files ≤ sectorSize := by
  rw [placeable_iff]
  cases allocated : allocate firstFileSector files with
  | error e => simp [layOut_refused allocated]
  | ok placed =>
    obtain ⟨extents, total⟩ := placed
    rw [layOut_allocated allocated, length_rootDirectory_allocated allocated]
    split <;> simp <;> omega

theorem layOut_error_iff : layOut label files = .error e ↔ allocate firstFileSector files = .error e ∨
    Placeable files ∧ sectorSize < directoryLength files ∧ e = .directoryFull := by
  rw [placeable_iff]
  cases allocated : allocate firstFileSector files with
  | error e' => simp [layOut_refused allocated]
  | ok placed =>
    obtain ⟨extents, total⟩ := placed
    rw [layOut_allocated allocated, length_rootDirectory_allocated allocated]
    split <;> simp [*, eq_comm]

theorem build_ok_iff : (∃ image, build label files = .ok image) ↔ Acceptable label files := by
  have order := inOrder_perm files
  rw [build_eq]
  constructor
  · intro built
    split at built
    next valid =>
      split at built
      · obtain ⟨image, built⟩ := built
        cases built
      next distinct =>
        obtain ⟨places, directory⟩ := layOut_ok_iff.mp built
        exact ⟨validLabel_iff.mp valid, firstRepeated?_none_iff.mp distinct, placeable_perm order places,
          directoryLength_perm order ▸ directory⟩
    · obtain ⟨image, built⟩ := built
      cases built
  · rintro ⟨plain, distinct, places, directory⟩
    rw [if_pos (validLabel_iff.mpr plain), firstRepeated?_none_iff.mpr distinct]
    exact layOut_ok_iff.mpr ⟨placeable_perm order.symm places, directoryLength_perm order.symm ▸ directory⟩

theorem layOut_inOrder_error_iff (plain : PlainLabel label) (distinct : (files.map File.name).Nodup) :
    layOut label (inOrder files) = .error e ↔ Refusal label files e := by
  have order := inOrder_perm files
  have ascending := inOrder_ascending (firstRepeated?_none_iff.mpr distinct)
  have front (file : File) : endSector (inFront (inOrder files) file) = endSector (inFront files file) :=
    endSector_perm (inFront_perm order)
  simp only [layOut_error_iff, allocate_ascending_error_iff ascending, front, (inFront_perm order).mem_iff,
    order.mem_iff]
  constructor
  · rintro (⟨file, member, objection, earlier⟩ | ⟨places, full, rfl⟩)
    · exact .file plain distinct member objection earlier
    · exact .full plain distinct (placeable_perm order places) (directoryLength_perm order ▸ full)
  · rintro (improper | ⟨-, twice, -⟩ | ⟨-, -, member, objection, earlier⟩ | ⟨-, -, places, full⟩)
    · exact absurd plain improper
    · exact absurd distinct twice.not_nodup
    · exact .inl ⟨_, member, objection, earlier⟩
    · exact .inr ⟨placeable_perm order.symm places, directoryLength_perm order.symm ▸ full, rfl⟩

theorem build_error_iff : build label files = .error e ↔ Refusal label files e := by
  rw [build_eq]
  by_cases plain : PlainLabel label
  · rw [if_pos (validLabel_iff.mpr plain)]
    cases repeated : firstRepeated? (inOrder files) with
    | none => exact layOut_inOrder_error_iff plain (firstRepeated?_none_iff.mp repeated)
    | some name =>
      obtain ⟨twice, first⟩ := firstRepeated?_some_iff.mp repeated
      constructor
      · rintro ⟨⟩
        exact .repeated plain twice first
      · rintro (improper | ⟨-, twice', first'⟩ | ⟨-, distinct⟩ | ⟨-, distinct⟩)
        · exact absurd plain improper
        · rw [Option.some.inj (repeated.symm.trans (firstRepeated?_some_iff.mpr ⟨twice', first'⟩))]
        · exact absurd distinct twice.not_nodup
        · exact absurd distinct twice.not_nodup
  · rw [if_neg (mt validLabel_iff.mp plain)]
    constructor
    · rintro ⟨⟩
      exact .label plain
    · rintro (_ | ⟨plain'⟩ | ⟨plain'⟩ | ⟨plain'⟩)
      · rfl
      all_goals exact absurd plain' plain

/-- Whatever the label and the files, an image written in place over zeros is written without a write that goes
beyond it, and there is one exactly if the label and the files are acceptable. Otherwise there is a reason why not, and
it is the first one that holds. -/
theorem build_decides (label : String) (files : List File) :
    buildInPlace label files = .ofExcept (build label files) ∧
      ((∃ image, build label files = .ok image) ↔ Acceptable label files) ∧
      ∀ e, build label files = .error e ↔ Refusal label files e :=
  ⟨buildInPlace_eq label files, build_ok_iff, fun _ => build_error_iff⟩

end MachineKeeper.Iso
