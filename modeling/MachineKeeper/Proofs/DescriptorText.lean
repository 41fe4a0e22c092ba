import MachineKeeper.Proofs.XmlText

/-! The XML of descriptors. It has one form for all domains and one for all volumes with or without a backing store,
and the fields of a descriptor are the texts and the values in it that differ. -/
namespace MachineKeeper

open Xml

theorem flatMap_xmlEntity {cs : List Char} (plain : ∀ c ∈ cs, xmlEntity c = [c]) : cs.flatMap xmlEntity = cs := by
  induction cs with
  | nil => rfl
  | cons c rest ih =>
    obtain ⟨first, others⟩ := List.forall_mem_cons.mp plain
    rw [List.flatMap_cons, first, ih others, List.singleton_append]

theorem escaped_plain {text : String} (plain : (text.toList.all fun c => xmlEntity c = [c]) = true) :
    escaped text = text.toList :=
  flatMap_xmlEntity fun c member => of_decide_eq_true (List.all_eq_true.mp plain c member)

theorem toList_toString (n : Nat) : (toString n).toList = Nat.toDigits 10 n := Nat.toList_repr

theorem isDigit_toString {n : Nat} {c : Char} (member : c ∈ (toString n).toList) : c.isDigit = true :=
  Nat.isDigit_of_mem_toDigits (by decide) (by decide) (toList_toString n ▸ member)

theorem escaped_toString (n : Nat) : escaped (toString n) = (toString n).toList := by
  refine flatMap_xmlEntity fun c member => ?_
  have digit : c.isDigit = true := isDigit_toString member
  unfold xmlEntity
  split <;> first | rfl | exact absurd digit (by decide)

theorem natural?_toString {bound n : Nat} (below : n < bound) : natural? bound (toString n) = some n := by
  have all : (toString n).toList.all Char.isDigit = true := List.all_eq_true.mpr fun c => isDigit_toString
  have read : Nat.ofDigitChars 10 (toString n).toList 0 = n := by
    rw [toList_toString]
    exact Nat.ofDigitChars_toDigits (by decide) (by decide)
  have digits : (toString n).toList ≠ [] := by
    rw [toList_toString]
    exact Nat.toDigits_ne_nil
  simp only [natural?, read, all, below, digits, ne_eq, not_false_eq_true, and_self, if_true]

/-- The tags of a domain's XML with the texts behind them. -/
def DomainDescriptor.pieces (d : DomainDescriptor) : List Piece := [
  ⟨.opening "domain" [⟨"type", "kvm"⟩], "\n  "⟩,
  ⟨.opening "name" [], d.name⟩, ⟨.closing "name", "\n  "⟩,
  ⟨.opening "memory" [⟨"unit", "MiB"⟩], toString d.memoryMib.toNat⟩, ⟨.closing "memory", "\n  "⟩,
  ⟨.opening "vcpu" [], toString d.vcpus.toNat⟩, ⟨.closing "vcpu", "\n  "⟩,
  ⟨.opening "os" [], "\n    "⟩,
  ⟨.opening "type" [⟨"arch", "x86_64"⟩], "hvm"⟩, ⟨.closing "type", "\n    "⟩,
  ⟨.empty "boot" [⟨"dev", "hd"⟩], "\n  "⟩,
  ⟨.closing "os", "\n  "⟩,
  ⟨.opening "devices" [], "\n    "⟩,
  ⟨.opening "disk" [⟨"type", "file"⟩, ⟨"device", "disk"⟩], "\n      "⟩,
  ⟨.empty "driver" [⟨"name", "qemu"⟩, ⟨"type", "qcow2"⟩], "\n      "⟩,
  ⟨.empty "source" [⟨"file", d.diskPath⟩], "\n      "⟩,
  ⟨.empty "target" [⟨"dev", "vda"⟩, ⟨"bus", "virtio"⟩], "\n    "⟩,
  ⟨.closing "disk", "\n    "⟩,
  ⟨.opening "disk" [⟨"type", "file"⟩, ⟨"device", "cdrom"⟩], "\n      "⟩,
  ⟨.empty "driver" [⟨"name", "qemu"⟩, ⟨"type", "raw"⟩], "\n      "⟩,
  ⟨.empty "source" [⟨"file", d.seedPath⟩], "\n      "⟩,
  ⟨.empty "target" [⟨"dev", "hda"⟩, ⟨"bus", "ide"⟩], "\n      "⟩,
  ⟨.empty "readonly" [], "\n    "⟩,
  ⟨.closing "disk", "\n    "⟩,
  ⟨.opening "interface" [⟨"type", "network"⟩], "\n      "⟩,
  ⟨.empty "source" [⟨"network", d.network⟩], "\n      "⟩,
  ⟨.empty "model" [⟨"type", "virtio"⟩], "\n    "⟩,
  ⟨.closing "interface", "\n    "⟩,
  ⟨.opening "serial" [⟨"type", "pty"⟩], "\n      "⟩,
  ⟨.opening "target" [⟨"type", "isa-serial"⟩, ⟨"port", "0"⟩], "\n        "⟩,
  ⟨.empty "model" [⟨"name", "isa-serial"⟩], "\n      "⟩,
  ⟨.closing "target", "\n    "⟩,
  ⟨.closing "serial", "\n    "⟩,
  ⟨.opening "console" [⟨"type", "pty"⟩], "\n      "⟩,
  ⟨.empty "target" [⟨"type", "serial"⟩, ⟨"port", "0"⟩], "\n    "⟩,
  ⟨.closing "console", "\n  "⟩,
  ⟨.closing "devices", "\n"⟩,
  ⟨.closing "domain", "\n"⟩]

set_option maxRecDepth 4000 in
theorem DomainDescriptor.xml_written (d : DomainDescriptor) : d.xml.toList = written d.pieces := by
  -- Both sides come to the same characters, with the escaped fields between them.
  unfold xml
  simp only [String.append_assoc]
  simp only [String.toList_append, toList_xmlEscape, ← escaped_toString, pieces, written, Piece.written, Tag.written,
    Attribute.written, Attribute.key, List.flatMap_cons, List.flatMap_nil]
  simp (disch := decide) only [escaped_plain]
  simp only [String.reduceToList, List.cons_append, List.nil_append, List.append_assoc]

/-- The outline of any domain's XML. -/
def DomainDescriptor.outline : List Tag := Xml.outline (pieces ⟨"", 0, 0, "", "", ""⟩)

theorem DomainDescriptor.outline_pieces (d : DomainDescriptor) : Xml.outline d.pieces = outline := rfl

theorem DomainDescriptor.read?_xml (d : DomainDescriptor) : read? d.xml = some d.pieces := by
  have named : ∀ tag ∈ outline, tag.Named := by decide
  exact read?_written (named_of_outline named) d.xml_written

theorem DomainDescriptor.ofXml?_xml (d : DomainDescriptor) : ofXml? d.xml = some d := by
  have name : texts "name" d.pieces = [d.name] := rfl
  have memory : texts "memory" d.pieces = [toString d.memoryMib.toNat] := rfl
  have vcpus : texts "vcpu" d.pieces = [toString d.vcpus.toNat] := rfl
  have sources : Xml.attributes "source" d.pieces =
    [[⟨"file", d.diskPath⟩], [⟨"file", d.seedPath⟩], [⟨"network", d.network⟩]] := rfl
  simp only [ofXml?, d.read?_xml, name, memory, vcpus, sources, natural?_toString d.memoryMib.toNat_lt,
    natural?_toString d.vcpus.toNat_lt, Option.bind_eq_bind, Option.bind_some]
  simp

/-- The tags of a volume's XML with the texts behind them. -/
def VolumeDescriptor.pieces (v : VolumeDescriptor) : List Piece := [
  ⟨.opening "volume" [], "\n  "⟩,
  ⟨.opening "name" [], v.name⟩, ⟨.closing "name", "\n  "⟩,
  ⟨.opening "capacity" [⟨"unit", v.capacity.unit⟩], toString v.capacity.count.toNat⟩, ⟨.closing "capacity", "\n  "⟩,
  ⟨.opening "target" [], "\n    "⟩,
  ⟨.empty "format" [⟨"type", v.format⟩], "\n  "⟩] ++
  (match v.backing? with
  | none => [⟨.closing "target", "\n"⟩]
  | some b => [
    ⟨.closing "target", "\n  "⟩,
    ⟨.opening "backingStore" [], "\n    "⟩,
    ⟨.opening "path" [], b.path⟩, ⟨.closing "path", "\n    "⟩,
    ⟨.empty "format" [⟨"type", b.format⟩], "\n  "⟩,
    ⟨.closing "backingStore", "\n"⟩]) ++
  [⟨.closing "volume", "\n"⟩]

/-- The outline of any volume's XML, which depends on whether there is a backing store. -/
def VolumeDescriptor.outline (backed : Bool) : List Tag :=
  Xml.outline (pieces ⟨"", .bytes 0, "", if backed then some ⟨"", ""⟩ else none⟩)

theorem VolumeDescriptor.outline_pieces (v : VolumeDescriptor) : Xml.outline v.pieces = outline v.backing?.isSome := by
  obtain ⟨_, _, _, _ | _⟩ := v <;> rfl

theorem escaped_unit (c : Capacity) : escaped c.unit = c.unit.toList := by
  cases c
  · exact @escaped_plain "bytes" (by decide)
  · exact @escaped_plain "GiB" (by decide)

set_option maxRecDepth 1000 in
theorem VolumeDescriptor.xml_written (v : VolumeDescriptor) : v.xml.toList = written v.pieces := by
  obtain ⟨name, capacity, format, _ | b⟩ := v
  all_goals
    unfold xml backingXml
    simp only [Option.elim_none, Option.elim_some, String.append_assoc]
    simp only [String.toList_append, toList_xmlEscape, ← escaped_toString, ← escaped_unit, pieces, written,
      Piece.written, Tag.written, Attribute.written, Attribute.key, List.flatMap_cons, List.flatMap_nil,
      List.flatMap_append]
    simp (disch := decide) only [escaped_plain]
    simp only [String.reduceToList, List.cons_append, List.nil_append, List.append_assoc]

theorem VolumeDescriptor.read?_xml (v : VolumeDescriptor) : read? v.xml = some v.pieces := by
  have named : ∀ backed, ∀ tag ∈ outline backed, tag.Named := by decide
  exact read?_written (named_of_outline (v.outline_pieces ▸ named _)) v.xml_written

theorem Capacity.ofUnit?_unit (c : Capacity) : ofUnit? c.count c.unit = some c := by
  cases c <;> rfl

theorem VolumeDescriptor.ofXml?_xml (v : VolumeDescriptor) : ofXml? v.xml = some v := by
  have name : texts "name" v.pieces = [v.name] := by
    obtain ⟨_, _, _, _ | _⟩ := v <;> rfl
  have unit : Xml.attributes "capacity" v.pieces = [[⟨"unit", v.capacity.unit⟩]] := by
    obtain ⟨_, _, _, _ | _⟩ := v <;> rfl
  have count : texts "capacity" v.pieces = [toString v.capacity.count.toNat] := by
    obtain ⟨_, _, _, _ | _⟩ := v <;> rfl
  have capacity : natural? UInt64.size (toString v.capacity.count.toNat) = some v.capacity.count.toNat :=
    natural?_toString v.capacity.count.toNat_lt
  have formats : Xml.attributes "format" v.pieces =
      [⟨"type", v.format⟩] :: v.backing?.toList.map fun b => [⟨"type", b.format⟩] := by
    obtain ⟨_, _, _, _ | _⟩ := v <;> rfl
  have paths : texts "path" v.pieces = v.backing?.toList.map BackingStore.path := by
    obtain ⟨_, _, _, _ | _⟩ := v <;> rfl
  simp only [ofXml?, v.read?_xml, name, unit, count, capacity, formats, paths, Option.bind_eq_bind, Option.bind_some,
    Nat.toUInt64, UInt64.ofNat_toNat, Capacity.ofUnit?_unit]
  obtain ⟨_, _, _, _ | _⟩ := v <;> rfl

/-- Descriptors of a kind can be told from their XML, in which they have no say but for some texts and values. -/
structure Told {α : Type} (xml : α → String) (pieces : α → List Piece) (ofXml? : String → Option α) : Prop where
  read : ∀ a, read? (xml a) = some (pieces a)
  told : ∀ a, ofXml? (xml a) = some a
  differ : ∀ a b, xml a = xml b → a = b

theorem told_of_read {α : Type} {xml : α → String} {pieces : α → List Piece} {ofXml? : String → Option α}
    (read : ∀ a, read? (xml a) = some (pieces a)) (told : ∀ a, ofXml? (xml a) = some a) : Told xml pieces ofXml? where
  read := read
  told := told
  differ a b same := Option.some.inj ((told a).symm.trans ((congrArg ofXml? same).trans (told b)))

/-- Whatever the texts in a descriptor, a reader of XML finds the tags that are written for any of its kind, and in
their places the fields as they were; so no two descriptors of a kind have the same XML. The tags and the names of their
attributes are the same for all domains, and for all volumes that have a backing store or that have none. -/
theorem descriptors_told :
    Told DomainDescriptor.xml DomainDescriptor.pieces DomainDescriptor.ofXml? ∧
    Told VolumeDescriptor.xml VolumeDescriptor.pieces VolumeDescriptor.ofXml? ∧
    (∀ d : DomainDescriptor, outline <$> read? d.xml = some DomainDescriptor.outline) ∧
    ∀ v : VolumeDescriptor, outline <$> read? v.xml = some (VolumeDescriptor.outline v.backing?.isSome) := by
  refine ⟨told_of_read DomainDescriptor.read?_xml DomainDescriptor.ofXml?_xml,
    told_of_read VolumeDescriptor.read?_xml VolumeDescriptor.ofXml?_xml, fun d => ?_, fun v => ?_⟩
  · rw [d.read?_xml]
    exact congrArg some d.outline_pieces
  · rw [v.read?_xml]
    exact congrArg some v.outline_pieces

end MachineKeeper
