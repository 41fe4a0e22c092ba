import MachineKeeper.Machine.Json
import MachineKeeper.Proofs.JsonText

/-! Reading back what was written for a value of a known type. A record's description reads an
object whose members are some of its fields in their order; each field finds its own member, or is
left out where its value is the one that is taken instead. -/
namespace MachineKeeper.Json

open Document

variable {α β : Type}

/-- What is written as `j` is read as `a`. -/
structure Recovers (reader : NodeReader α) (j : Json) (a : α) : Prop where
  fits : j.Fits
  reads : ∀ ctx, reader ctx j.node = .ok a

/-- The text of a value of a known type is read back as that value. -/
theorem Recovers.read {reader : NodeReader α} {j : Json} {a : α} (recovers : Recovers reader j a) :
    Json.read reader j.compact = .ok a := by
  rw [Json.read, document_compact recovers.fits, Document.read, recovers.reads]
  rfl

theorem recovers_text (s : String) : Recovers text (.string s) s := ⟨trivial, fun _ => rfl⟩

theorem recovers_flag (b : Bool) : Recovers flag (.bool b) b := ⟨trivial, fun _ => rfl⟩

theorem natural_number {expected : String} {limit n : Nat} (within : n ≤ limit) (ctx : Context) :
    natural expected limit ctx (Json.number n).node = .ok n := by
  have read : leafReader expected Leaf.integer? ctx (Json.number n).node = .ok (n : Int) := rfl
  have inside : 0 ≤ (n : Int) ∧ (n : Int) ≤ (limit : Int) := by omega
  simp only [natural, read, bind, Except.bind, if_pos inside]
  rfl

theorem recovers_word32 (n : UInt32) : Recovers word32 (number32 n) n := by
  have bound := n.toNat_lt
  refine ⟨?_, fun ctx => ?_⟩
  · show n.toNat < UInt64.size
    simp only [UInt64.size]
    omega
  · rw [word32, number32, natural_number (by simp only [UInt32.size]; omega)]
    exact congrArg Except.ok UInt32.ofNat_toNat

theorem recovers_word64 (n : UInt64) : Recovers word64 (number64 n) n := by
  have bound := n.toNat_lt
  refine ⟨bound, fun ctx => ?_⟩
  rw [word64, number64, natural_number (by simp only [UInt64.size]; omega)]
  exact congrArg Except.ok UInt64.ofNat_toNat

/-- A value is there unless it is written as nothing. -/
theorem Recovers.optional {reader : NodeReader α} {j : Json} {a : α} (recovers : Recovers reader j a)
    (there : j ≠ .null) : Recovers (optional reader) j (some a) := by
  refine ⟨recovers.fits, fun ctx => ?_⟩
  have read := congrArg (Except.map some) (recovers.reads ctx)
  cases j with
  | null => exact absurd rfl there
  | _ => exact read

theorem recovers_none (reader : NodeReader α) : Recovers (optional reader) .null none :=
  ⟨trivial, fun _ => rfl⟩

theorem recovers_ofOption {reader : NodeReader α} {write : α → Json}
    (each : ∀ a, Recovers reader (write a) a) (there : ∀ a, write a ≠ .null) (a? : Option α) :
    Recovers (optional reader) (ofOption (a?.map write)) a? := by
  cases a? with
  | none => exact recovers_none reader
  | some a => exact (each a).optional (there a)

theorem itemsFit_map {write : α → Json} (each : ∀ a, (write a).Fits) (as : List α) :
    ItemsFit (as.map write) := by
  induction as with
  | nil => trivial
  | cons a as ih => exact ⟨each a, ih⟩

theorem itemNodes_eq_map (items : List Json) : itemNodes items = items.map node := by
  induction items with
  | nil => rfl
  | cons item items ih => rw [itemNodes, ih, List.map_cons]

theorem recovers_list {reader : NodeReader α} {write : α → Json}
    (each : ∀ a, Recovers reader (write a) a) (as : List α) :
    Recovers (list reader) (.array (as.map write)) as := by
  refine ⟨itemsFit_map (fun a => (each a).fits) as, fun ctx => ?_⟩
  have values : ((as.map write).map node).mapM (reader ctx) = .ok as := by
    induction as with
    | nil => rfl
    | cons a as ih =>
      rw [List.map_cons, List.map_cons, List.mapM_cons, (each a).reads, ih]
      rfl
  simp only [list, node, Context.resolve, itemNodes_eq_map, values]
  rfl

/-- A record's description finds in the members of an object what makes up `a`. -/
structure Assembles (r : RecordReader α) (members : List (String × Json)) (a : α) : Prop where
  checks : ∀ f ∈ r.fields, ∀ value, members.lookup f.name = some value →
    value.Fits ∧ ∀ ctx, f.check ctx value.node = .ok ()
  builds : ∀ ctx missing,
    r.build ctx ⟨fun name => (members.lookup name).map node, missing⟩ = .ok a

section Assembling

variable {members : List (String × Json)}

theorem assembles_pure (a : α) : Assembles (pure a) members a :=
  ⟨fun _ member => absurd member List.not_mem_nil, fun _ _ => rfl⟩

theorem Assembles.seq {rg : RecordReader (α → β)} {r : RecordReader α} {g : α → β} {a : α}
    (first : Assembles rg members g) (second : Assembles r members a) :
    Assembles (rg <*> r) members (g a) := by
  constructor
  · intro f member
    rcases List.mem_append.mp member with early | late
    · exact first.checks f early
    · exact second.checks f late
  · intro ctx missing
    show (do
      let g ← rg.build ctx ⟨fun name => (members.lookup name).map node, missing⟩
      let a ← r.build ctx ⟨fun name => (members.lookup name).map node, missing⟩
      return g a) = Except.ok (g a)
    rw [first.builds, second.builds]
    rfl

theorem Assembles.map {r : RecordReader α} {a : α} (g : α → β) (assembles : Assembles r members a) :
    Assembles (g <$> r) members (g a) :=
  (assembles_pure g).seq assembles

/-- A field has its value from its member, or from nowhere if it may be left out. -/
theorem assembles_fieldOr {name : String} {reader : NodeReader α} {instead? : Option α} {a : α}
    {value? : Option Json} (found : members.lookup name = value?)
    (written : ∀ value, value? = some value → Recovers reader value a)
    (leftOut : value? = none → instead? = some a) :
    Assembles (fieldOr instead? name reader) members a := by
  constructor
  · intro f member value same
    rw [List.mem_singleton.mp member] at same ⊢
    have recovers := written value (found.symm.trans same)
    refine ⟨recovers.fits, fun ctx => ?_⟩
    show Except.map _ (reader ctx value.node) = _
    rw [recovers.reads]
    rfl
  · intro ctx missing
    cases value? with
    | none => simp only [fieldOr, found, Option.map_none, leftOut rfl]
    | some value =>
      simp only [fieldOr, found, Option.map_some, (written value rfl).reads]
      rfl

theorem assembles_field {name : String} {reader : NodeReader α} {instead? : Option α} {value : Json}
    {a : α} (found : members.lookup name = some value) (recovers : Recovers reader value a) :
    Assembles (fieldOr instead? name reader) members a :=
  assembles_fieldOr found (fun _ same => Option.some.inj same ▸ recovers) nofun

/-- A field that is written unless it holds what stands for it when it is left out. -/
theorem assembles_unless {name : String} {reader : NodeReader α} {value : Json} {a instead : α}
    {plain : Prop} [Decidable plain]
    (found : members.lookup name = if plain then none else some value)
    (recovers : Recovers reader value a) (same : plain → instead = a) :
    Assembles (fieldD name reader instead) members a := by
  by_cases holds : plain
  · rw [if_pos holds] at found
    exact assembles_fieldOr found nofun fun _ => congrArg some (same holds)
  · rw [if_neg holds] at found
    exact assembles_field found recovers

/-- A field that holds nothing unless it is written. -/
theorem assembles_optional {name : String} {reader : NodeReader α} {write : α → Json} {a? : Option α}
    (found : members.lookup name = a?.map write) (each : ∀ a, Recovers reader (write a) a)
    (there : ∀ a, write a ≠ .null) : Assembles (fieldD name (optional reader) none) members a? := by
  apply assembles_fieldOr found
  · intro value written
    obtain ⟨a, rfl, rfl⟩ := Option.map_eq_some_iff.mp written
    exact (each a).optional (there a)
  · intro leftOut
    rw [Option.map_eq_none_iff.mp leftOut]

end Assembling

theorem lookup_of_mem {members : List (String × Json)} (apart : (members.map Prod.fst).Nodup)
    {name : String} {value : Json} (member : (name, value) ∈ members) :
    members.lookup name = some value := by
  induction members with
  | nil => cases member
  | cons first rest ih =>
    obtain ⟨fresh, apart⟩ := List.nodup_cons.mp apart
    rcases List.mem_cons.mp member with same | later
    · rw [← same, List.lookup_cons_self]
    · have other : (name == first.1) = false := by
        rw [beq_eq_false_iff_ne]
        rintro rfl
        exact fresh (List.mem_map.mpr ⟨_, later, rfl⟩)
      rw [List.lookup_cons, other]
      exact ih apart later

theorem lookup_map_node (members : List (String × Json)) (name : String) :
    (members.map fun m => (m.1, m.2.node)).lookup name = (members.lookup name).map node := by
  induction members with
  | nil => rfl
  | cons first rest ih =>
    rw [List.map_cons, List.lookup_cons, List.lookup_cons]
    cases name == first.1 with
    | true => rfl
    | false => exact ih

theorem membersFit_iff (members : List (String × Json)) :
    MembersFit members ↔ ∀ m ∈ members, m.2.Fits := by
  induction members with
  | nil => simp [MembersFit]
  | cons first rest ih => simp [MembersFit, ih]

/-- Members of different names that all belong to fields pass one after another. -/
theorem checkEntries_written (ctx : Context) (found : List (String × Node)) {fields : List Field}
    {members : List (String × Json)} (apart : (found.map Prod.fst ++ members.map Prod.fst).Nodup)
    (known : ∀ m ∈ members, m.1 ∈ fields.map Field.name)
    (checks : ∀ m ∈ members, ∀ f ∈ fields, f.name = m.1 → f.check ctx m.2.node = .ok ()) :
    checkEntries ctx fields (memberNodes members) found =
      .ok (found.reverse ++ members.map fun m => (m.1, m.2.node)) := by
  induction members generalizing found with
  | nil => simp [memberNodes, checkEntries]
  | cons m members ih =>
    obtain ⟨name, value⟩ := m
    have fresh : found.lookup name = none := by
      rw [List.lookup_eq_none_iff]
      intro entry member
      rw [bne_iff_ne, ne_eq]
      rintro rfl
      exact (List.nodup_append.mp apart).2.2 _ (List.mem_map.mpr ⟨_, member, rfl⟩) _
        List.mem_cons_self rfl
    obtain ⟨f, isField, belongs⟩ := List.mem_map.mp (known _ List.mem_cons_self)
    cases look : fields.find? fun f => f.name == name with
    | none =>
      have other := List.find?_eq_none.mp look f isField
      simp [belongs] at other
    | some f =>
      have named : f.name = name := by simpa using List.find?_some look
      have passes := checks _ List.mem_cons_self f (List.mem_of_find?_eq_some look) named
      have key : leafReader "field identifier" Leaf.text? ctx (.leaf (.ofText name)) = .ok name := rfl
      have rest := ih ((name, value.node) :: found)
        (List.perm_middle.nodup_iff.mp apart)
        (fun m member => known m (List.mem_cons_of_mem _ member))
        (fun m member => checks m (List.mem_cons_of_mem _ member))
      simp only [memberNodes, checkEntries, key, bind, Except.bind, look, fresh, Option.isSome_none,
        Bool.false_eq_true, if_false, passes, Except.mapError, rest]
      simp

/-- An object whose members are fields of a record in their order is read as that record. -/
theorem Assembles.recovers {r : RecordReader α} {members : List (String × Json)} {a : α}
    (assembles : Assembles r members a) (title : String) (distinct : (r.fields.map Field.name).Nodup)
    (ordered : (members.map Prod.fst).Sublist (r.fields.map Field.name)) :
    Recovers (r.node title) (.object members) a := by
  have apart : (members.map Prod.fst).Nodup := ordered.nodup distinct
  have known : ∀ m ∈ members, m.1 ∈ r.fields.map Field.name :=
    fun m member => ordered.subset (List.mem_map.mpr ⟨_, member, rfl⟩)
  have values : ∀ m ∈ members, ∀ f ∈ r.fields, f.name = m.1 →
      m.2.Fits ∧ ∀ ctx, f.check ctx m.2.node = .ok () :=
    fun m member f isField named => assembles.checks f isField m.2 (named ▸ lookup_of_mem apart member)
  constructor
  · refine (membersFit_iff members).mpr fun m member => ?_
    obtain ⟨f, isField, named⟩ := List.mem_map.mp (known m member)
    exact (values m member f isField named).1
  · intro ctx
    have found := checkEntries_written ctx [] (by simpa using apart) known
      fun m member f isField named => (values m member f isField named).2 ctx
    simp only [RecordReader.node, node, Context.resolve, found, bind, Except.bind, List.reverse_nil,
      List.nil_append, lookup_map_node, if_true]
    exact assembles.builds ctx _

@[simp]
theorem lookup_member? (name : String) (value? : Option Json) :
    (member? name value?).lookup name = value? := by
  cases value? <;> simp [member?]

@[simp]
theorem lookup_member?_ne {name other : String} (apart : name ≠ other) (value? : Option Json) :
    (member? other value?).lookup name = none := by
  cases value? with
  | none => rfl
  | some value => simp [member?, List.lookup_cons, beq_eq_false_iff_ne.mpr apart]

theorem member?_ordered (name : String) (value? : Option Json) :
    ((member? name value?).map Prod.fst).Sublist [name] := by
  cases value? with
  | none => exact List.nil_sublist _
  | some value => exact List.Sublist.refl _

end MachineKeeper.Json
