import MachineKeeper.Host.DescriptorReader
import MachineKeeper.Text.Split

/-! XML as it is written, and that it is read as it was written. An escaped text has none of the marks in it that a
reader looks for, so that each mark of a document is one of the tag it was written with. -/
namespace MachineKeeper

namespace Xml

variable {text name xml : String} {tag : Tag} {pieces : List Piece} {front rest : List Char} {c : Char}

/-- The characters that are written for a text. -/
def escaped (text : String) : List Char := text.toList.flatMap xmlEntity

theorem toList_xmlEscape (text : String) : (xmlEscape text).toList = escaped text := String.toList_ofList

def marks : List Char := ['<', '>', '\'', '"']

theorem xmlEntity_unmarked (c : Char) : (xmlEntity c).all (· ∉ marks) = true := by
  unfold xmlEntity
  split
  case h_6 _ lt gt apos quot =>
    rw [List.all_cons, List.all_nil, Bool.and_true, decide_eq_true_eq]
    simpa [marks] using ⟨lt, gt, apos, quot⟩
  all_goals decide

theorem escaped_unmarked (text : String) : ∀ c ∈ escaped text, c ∉ marks := by
  intro c member
  obtain ⟨d, -, member⟩ := List.mem_flatMap.mp member
  exact of_decide_eq_true (List.all_eq_true.mp (xmlEntity_unmarked d) c member)

theorem resolve?_plain (plain : c ≠ '&') (rest : List Char) :
    resolve? (c :: rest) = (c :: ·) <$> resolve? rest := by
  rw [resolve?]
  all_goals simp [plain]

theorem resolve?_xmlEntity (c : Char) (rest : List Char) :
    resolve? (xmlEntity c ++ rest) = (c :: ·) <$> resolve? rest := by
  unfold xmlEntity
  split
  case h_6 plain _ _ _ _ => exact resolve?_plain plain rest
  all_goals simp only [String.reduceToList, List.cons_append, List.nil_append, resolve?]

/-- References stand for the characters that they were written for, be there references in the text or not. -/
theorem resolve?_escaped (text : String) : resolve? (escaped text) = some text.toList := by
  unfold escaped
  induction text.toList with
  | nil => rfl
  | cons c rest ih =>
    rw [List.flatMap_cons, resolve?_xmlEntity, ih]
    rfl

example : escaped "&lt;" = "&amp;lt;".toList ∧ resolve? "&amp;lt;".toList = some "&lt;".toList := by decide

theorem text?_escaped (text : String) : text? (escaped text) = some text := by
  rw [text?, resolve?_escaped]
  exact congrArg some String.ofList_toList

theorem name?_toList (named : isName name = true) : name? name.toList = some name := by
  simp only [name?, String.ofList_toList, named, if_true]

theorem isName_alpha (named : isName name = true) : ∀ c ∈ name.toList, c.isAlpha = true :=
  List.all_eq_true.mp (Bool.and_eq_true_iff.mp named).2

theorem isName_cons (named : isName name = true) : ∃ c rest, name.toList = c :: rest ∧ c.isAlpha = true := by
  cases letters : name.toList with
  | nil =>
    rw [String.toList_eq_nil_iff.mp letters] at named
    cases named
  | cons c rest => exact ⟨c, rest, rfl, isName_alpha named c (letters ▸ List.mem_cons_self)⟩

theorem isName_ne (named : isName name = true) (mark : c.isAlpha = false) : ∀ d ∈ name.toList, d ≠ c := by
  rintro d member rfl
  exact Bool.eq_false_iff.mp mark (isName_alpha named d member)

def Attribute.key (a : Attribute) : List Char := ' ' :: (a.name.toList ++ ['='])

def Attribute.written (a : Attribute) : List Char := a.key ++ '\'' :: (escaped a.value ++ ['\''])

/-- What is written between `<` and `>`. -/
def Tag.written : Tag → List Char
  | .opening name attributes => name.toList ++ attributes.flatMap Attribute.written
  | .empty name attributes => name.toList ++ (attributes.flatMap Attribute.written ++ ['/'])
  | .closing name => '/' :: name.toList

/-- What is written behind `<`. -/
def Piece.written (piece : Piece) : List Char := piece.tag.written ++ '>' :: escaped piece.text

def written (pieces : List Piece) : List Char := pieces.flatMap fun piece => '<' :: piece.written

def Tag.names : Tag → List String
  | .opening name attributes => name :: attributes.map Attribute.name
  | .empty name attributes => name :: attributes.map Attribute.name
  | .closing name => [name]

/-- All of its names are ones that a reader takes. -/
def Tag.Named (tag : Tag) : Prop := ∀ name ∈ tag.names, isName name = true

instance (tag : Tag) : Decidable tag.Named := inferInstanceAs (Decidable (∀ name ∈ tag.names, isName name = true))

theorem names_outline (tag : Tag) : tag.outline.names = tag.names := by
  cases tag <;> simp [Tag.outline, Tag.names, Function.comp_def]

theorem named_of_outline (named : ∀ tag ∈ outline pieces, tag.Named) : ∀ piece ∈ pieces, piece.tag.Named := by
  intro piece member
  have outlined := named _ (List.mem_map_of_mem member)
  rwa [Tag.Named, names_outline] at outlined

theorem Attribute.written_append (a : Attribute) (rest : List Char) :
    a.written ++ rest = a.key ++ '\'' :: (escaped a.value ++ '\'' :: rest) := by
  simp only [written, List.append_assoc, List.cons_append, List.nil_append]

theorem Attribute.key_ne {a : Attribute} (named : isName a.name = true) (mark : c ∈ ['<', '>', '\'']) :
    ∀ d ∈ a.key, d ≠ c := by
  intro d member
  rw [key, List.mem_cons, List.mem_append, List.mem_singleton] at member
  have others : ' ' ≠ c ∧ '=' ≠ c ∧ c.isAlpha = false := by
    simp only [List.mem_cons, List.not_mem_nil, or_false] at mark
    rcases mark with rfl | rfl | rfl <;> decide
  rcases member with rfl | member | rfl
  · exact others.1
  · exact isName_ne named others.2.2 d member
  · exact others.2.1

theorem key?_key {a : Attribute} (named : isName a.name = true) : key? a.key = some a.name := by
  have noEqual : ∀ c ∈ a.name.toList, (c == '=') = false := by
    simpa only [beq_eq_false_iff_ne] using isName_ne named (by decide)
  simp only [key?, Attribute.key, splitFirst_append noEqual (beq_self_eq_true '='), name?_toList named]

/-- The attributes of a tag are read as they were written, with what ends the tag. -/
theorem attributes?_written (attributes : List Attribute)
    (named : ∀ a ∈ attributes, isName a.name = true) (ended : Bool) :
    ∃ first rest, splitAll '\'' (attributes.flatMap Attribute.written ++ if ended then ['/'] else []) = first :: rest ∧
      attributes? first rest = some (attributes, ended) := by
  induction attributes with
  | nil => cases ended <;> exact ⟨_, _, rfl, rfl⟩
  | cons a attributes ih =>
    obtain ⟨named, others⟩ := List.forall_mem_cons.mp named
    obtain ⟨first, rest, split, read⟩ := ih others
    have unquoted : '\'' ∉ a.key := fun member => Attribute.key_ne named (by decide) _ member rfl
    have inert : '\'' ∉ escaped a.value := fun member => escaped_unmarked _ _ member (by decide)
    refine ⟨a.key, escaped a.value :: first :: rest, ?_, ?_⟩
    · rw [List.flatMap_cons, List.append_assoc, Attribute.written_append, splitAll_append unquoted,
        splitAll_append inert, split]
    · simp only [attributes?, key?_key named, text?_escaped, read, Option.bind_eq_bind, Option.bind_some]
      rfl

theorem tag?_opening (name : String) (attributes : List Attribute) (ended : Bool) (named : isName name = true)
    (others : ∀ a ∈ attributes, isName a.name = true) :
    tag? (name.toList ++ (attributes.flatMap Attribute.written ++ if ended then ['/'] else [])) =
      some (if ended then .empty name attributes else .opening name attributes) := by
  obtain ⟨first, rest, split, read⟩ := attributes?_written attributes others ended
  generalize behind : attributes.flatMap Attribute.written ++ (if ended then ['/'] else []) = back at *
  -- Behind the name there is a blank, a slash or nothing.
  have head : ∀ c ∈ back.head?, c.isAlpha = false := by
    subst behind
    cases attributes with
    | nil =>
      cases ended
      · rintro c ⟨⟩
      · rintro c ⟨⟩
        rfl
    | cons a attributes => simp [Attribute.written, Attribute.key]
  have front : (name.toList ++ back).takeWhile Char.isAlpha = name.toList ∧
      (name.toList ++ back).dropWhile Char.isAlpha = back := by
    rw [List.takeWhile_append_of_pos (isName_alpha named), List.dropWhile_append_of_pos (isName_alpha named)]
    cases back with
    | nil => simp
    | cons c back => simp [head c rfl]
  obtain ⟨c, letters, cons, alpha⟩ := isName_cons named
  have noSlash : c ≠ '/' := fun slash => absurd (slash ▸ alpha) (by decide)
  rw [tag?]
  · rw [front.1, front.2, split]
    simp only [name?_toList named, read, Option.bind_eq_bind, Option.bind_some]
    rfl
  · rw [cons]
    exact fun _ slash => noSlash (List.cons.inj slash).1

theorem tag?_written (named : tag.Named) : tag? tag.written = some tag := by
  cases tag with
  | opening name attributes =>
    obtain ⟨named, others⟩ := List.forall_mem_cons.mp named
    have read := tag?_opening name attributes false named (List.forall_mem_map.mp others)
    rwa [if_neg Bool.false_ne_true, List.append_nil] at read
  | empty name attributes =>
    obtain ⟨named, others⟩ := List.forall_mem_cons.mp named
    exact tag?_opening name attributes true named (List.forall_mem_map.mp others)
  | closing name =>
    have named : isName name = true := named name List.mem_cons_self
    rw [Tag.written, tag?, name?_toList named]
    rfl

/-- The end of a tag is looked for behind these characters, which lead into quotes or out of them. -/
def Passed (quoted quoted' : Bool) (front : List Char) : Prop :=
  ∀ rest, tagEnd? quoted (front ++ rest) = (tagEnd? quoted' rest).map fun (tag, text) => (front ++ tag, text)

theorem passed_nil (quoted : Bool) : Passed quoted quoted [] := fun rest => by
  rw [List.nil_append]
  cases tagEnd? quoted rest <;> rfl

theorem passed_append {quoted quoted' quoted'' : Bool} {front' : List Char} (first : Passed quoted quoted' front)
    (second : Passed quoted' quoted'' front') : Passed quoted quoted'' (front ++ front') := fun rest => by
  rw [List.append_assoc, first, second, Option.map_map]
  simp only [Function.comp_def, List.append_assoc]

theorem passed_singleton {quoted : Bool} (inside : c = '>' → quoted = true) :
    Passed quoted (quoted != (c == '\'')) [c] := fun rest => by
  have goesOn : (c = '>' && !quoted) = false := by
    cases quoted <;> simp_all
  rw [List.singleton_append, tagEnd?, goesOn, if_neg Bool.false_ne_true]
  cases tagEnd? (quoted != (c == '\'')) rest <;> rfl

theorem passed_plain {quoted : Bool} (unquoted : ∀ c ∈ front, c ≠ '\'')
    (inside : quoted = false → ∀ c ∈ front, c ≠ '>') : Passed quoted quoted front := by
  induction front with
  | nil => exact passed_nil quoted
  | cons c front ih =>
    obtain ⟨other, unquoted⟩ := List.forall_mem_cons.mp unquoted
    have here : c = '>' → quoted = true := fun ends => by
      cases quoted
      · exact absurd ends (inside rfl c List.mem_cons_self)
      · rfl
    have first := passed_singleton here
    rw [beq_false_of_ne other, Bool.bne_false] at first
    exact passed_append first (ih unquoted fun outside d member => inside outside d (List.mem_cons_of_mem c member))

theorem passed_name (named : isName name = true) : Passed false false name.toList :=
  passed_plain (isName_ne named (by decide)) fun _ => isName_ne named (by decide)

theorem passed_attribute {a : Attribute} (named : isName a.name = true) : Passed false false a.written := by
  have key : Passed false false a.key := passed_plain (a.key_ne named (by decide)) fun _ => a.key_ne named (by decide)
  have unquoted (c : Char) (member : c ∈ escaped a.value) : c ≠ '\'' := by
    rintro rfl
    exact escaped_unmarked _ _ member (by decide)
  have value : Passed true true (escaped a.value) := passed_plain unquoted fun outside => by cases outside
  have opening : Passed false true ['\''] := @passed_singleton '\'' false (by decide)
  have closing : Passed true false ['\''] := @passed_singleton '\'' true fun _ => rfl
  exact passed_append key (passed_append opening (passed_append value closing))

theorem passed_attributes {attributes : List Attribute} (named : ∀ a ∈ attributes, isName a.name = true) :
    Passed false false (attributes.flatMap Attribute.written) := by
  induction attributes with
  | nil => exact passed_nil false
  | cons a attributes ih =>
    obtain ⟨named, others⟩ := List.forall_mem_cons.mp named
    exact passed_append (passed_attribute named) (ih others)

theorem passed_written (named : tag.Named) : Passed false false tag.written := by
  have slash : Passed false false ['/'] := passed_plain (by simp) (by simp)
  cases tag with
  | opening name attributes =>
    obtain ⟨named, others⟩ := List.forall_mem_cons.mp named
    exact passed_append (passed_name named) (passed_attributes (List.forall_mem_map.mp others))
  | empty name attributes =>
    obtain ⟨named, others⟩ := List.forall_mem_cons.mp named
    have attributes := passed_attributes (List.forall_mem_map.mp others)
    exact passed_append (passed_name named) (passed_append attributes slash)
  | closing name => exact passed_append slash (passed_name (named name List.mem_cons_self))

theorem piece?_written {piece : Piece} (named : piece.tag.Named) : piece? piece.written = some piece := by
  have ends : tagEnd? false piece.written = some (piece.tag.written, escaped piece.text) := by
    rw [Piece.written, passed_written named]
    simp [tagEnd?]
  simp only [piece?, ends, tag?_written named, text?_escaped, Option.bind_eq_bind, Option.bind_some]
  rfl

theorem escaped_unopened (text : String) : '<' ∉ escaped text :=
  fun member => escaped_unmarked text _ member (by decide)

theorem attributes_unopened {attributes : List Attribute} (named : ∀ a ∈ attributes, isName a.name = true) :
    '<' ∉ attributes.flatMap Attribute.written := by
  intro member
  obtain ⟨a, inside, member⟩ := List.mem_flatMap.mp member
  have key : '<' ∉ a.key := fun member => a.key_ne (named a inside) (by decide) _ member rfl
  have value := escaped_unopened a.value
  simp [Attribute.written, key, value] at member

theorem tag_unopened (named : tag.Named) : '<' ∉ tag.written := by
  have name {name : String} (named : isName name = true) : '<' ∉ name.toList :=
    fun member => isName_ne named (by decide) _ member rfl
  cases tag with
  | opening _ attributes =>
    obtain ⟨named, others⟩ := List.forall_mem_cons.mp named
    have attributes := attributes_unopened (List.forall_mem_map.mp others)
    simp only [Tag.written, List.mem_append, name named, attributes, or_self, not_false_eq_true]
  | empty _ attributes =>
    obtain ⟨named, others⟩ := List.forall_mem_cons.mp named
    have attributes := attributes_unopened (List.forall_mem_map.mp others)
    simp [Tag.written, List.mem_append, name named, attributes]
  | closing _ => simp [Tag.written, name (named _ List.mem_cons_self)]

theorem piece_unopened {piece : Piece} (named : piece.tag.Named) : '<' ∉ piece.written := by
  simp [Piece.written, tag_unopened named, escaped_unopened]

theorem splitAll_written (named : ∀ piece ∈ pieces, piece.tag.Named) (unopened : '<' ∉ front) :
    splitAll '<' (front ++ written pieces) = front :: pieces.map Piece.written := by
  induction pieces generalizing front with
  | nil => rw [written, List.flatMap_nil, List.append_nil, splitAll_unmarked unopened, List.map_nil]
  | cons piece pieces ih =>
    obtain ⟨named, others⟩ := List.forall_mem_cons.mp named
    rw [written, List.flatMap_cons, List.cons_append, splitAll_append unopened, List.map_cons]
    exact congrArg (front :: ·) (ih others (piece_unopened named))

theorem mapM_written (named : ∀ piece ∈ pieces, piece.tag.Named) :
    (pieces.map Piece.written).mapM piece? = some pieces := by
  induction pieces with
  | nil => rfl
  | cons piece pieces ih =>
    obtain ⟨named, others⟩ := List.forall_mem_cons.mp named
    rw [List.map_cons, List.mapM_cons, piece?_written named, ih others]
    rfl

/-- A document is read as it was written, whatever its texts and the values of its attributes. -/
theorem read?_written (named : ∀ piece ∈ pieces, piece.tag.Named) (same : xml.toList = written pieces) :
    read? xml = some pieces := by
  have split := splitAll_written named (@List.not_mem_nil _ '<')
  rw [List.nil_append] at split
  simp only [read?, same, split, mapM_written named]

end Xml

end MachineKeeper
