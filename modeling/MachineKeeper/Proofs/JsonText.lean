import MachineKeeper.Json.Basic
import MachineKeeper.Json.Reader
import Mathlib.Data.List.TakeDrop

/-! What is written for a JSON value reads back as that value. The reader is followed over the
characters of a value with whatever stands behind them, as long as that cannot belong to a number. -/
namespace MachineKeeper.Json

open Document (Node Leaf)

mutual

/-- What a reader makes of a value. -/
def node : Json → Node
  | null => .leaf (.ofNothing "null")
  | bool b => .leaf (.ofFlag b)
  | number n => .leaf (.ofInteger n)
  | string s => .leaf (.ofText s)
  | array items => .list (itemNodes items) true
  | object members => .record (memberNodes members) true

def itemNodes : List Json → List Node
  | [] => []
  | item :: rest => item.node :: itemNodes rest

def memberNodes : List (String × Json) → List (Node × Node)
  | [] => []
  | (name, value) :: rest => (.leaf (.ofText name), value.node) :: memberNodes rest

end

mutual

/-- Every number in it fits in 64 bits. -/
def Fits : Json → Prop
  | number n => n < UInt64.size
  | array items => ItemsFit items
  | object members => MembersFit members
  | _ => True

def ItemsFit : List Json → Prop
  | [] => True
  | item :: rest => item.Fits ∧ ItemsFit rest

def MembersFit : List (String × Json) → Prop
  | [] => True
  | (_, value) :: rest => value.Fits ∧ MembersFit rest

end

namespace Reader

theorem hex4?_hexDigit {n : Nat} (low : n < 32) (rest : List Char) :
    hex4? ('0' :: '0' :: hexDigit (n / 16) :: hexDigit (n % 16) :: rest) = some (n, rest) := by
  have digits : ∀ m : Fin 32,
      Decimal.ofDigits? 16 ['0', '0', hexDigit (m / 16), hexDigit (m % 16)] = some m.val := by decide
  rw [hex4?, digits ⟨n, low⟩]
  rfl

/-- A character is written as a backslash and a letter, by its number, or as it is. -/
theorem escapeChar_cases (c : Char) :
    (∃ letter, escapeChar c = ['\\', letter] ∧ letter ≠ 'u' ∧ simpleEscape? letter = some c) ∨
    (c.toNat < 32 ∧ escapeChar c =
      ['\\', 'u', '0', '0', hexDigit (c.toNat / 16), hexDigit (c.toNat % 16)]) ∨
    (c ≠ '"' ∧ c ≠ '\\' ∧ ¬ c.toNat < 32 ∧ escapeChar c = [c]) := by
  unfold escapeChar
  by_cases quote : c = '"'
  · subst quote
    exact .inl ⟨_, rfl, by decide, rfl⟩
  by_cases slash : c = '\\'
  · subst slash
    exact .inl ⟨_, rfl, by decide, rfl⟩
  rw [if_neg quote, if_neg slash]
  iterate 5
    split
    next same => exact .inl ⟨_, rfl, by decide, by rw [same]; rfl⟩
  split
  next control => exact .inr (.inl ⟨control, rfl⟩)
  next plain => exact .inr (.inr ⟨quote, slash, plain, rfl⟩)

theorem escapeChar_ne_nil (c : Char) : 0 < (escapeChar c).length := by
  rcases escapeChar_cases c with ⟨_, same, _⟩ | ⟨_, same⟩ | ⟨_, _, _, same⟩ <;> simp [same]

theorem stringBody_escapeChar (c : Char) (fuel : Nat) (rest acc : List Char) :
    stringBody (fuel + 1) (escapeChar c ++ rest) acc true = stringBody fuel rest (c :: acc) true := by
  rcases escapeChar_cases c with ⟨letter, same, other, stands⟩ | ⟨control, same⟩ | ⟨quote, slash, plain, same⟩
  · rw [same, List.cons_append, List.cons_append, List.nil_append, stringBody]
    · rw [stands]
      rfl
    · exact fun same => absurd same other
  · have high : isHighSurrogate c.toNat = false := by simp [isHighSurrogate]; omega
    have low : isLowSurrogate c.toNat = false := by simp [isLowSurrogate]; omega
    simp only [same, List.cons_append, List.nil_append, stringBody, hex4?_hexDigit control,
      Option.bind_eq_bind, Option.bind_some, high, low, Char.ofNat_toNat]
    rfl
  · rw [same, List.cons_append, List.nil_append, stringBody, if_neg plain]
    · exact fun written => quote written
    · exact fun _ written => absurd written slash
    · exact fun _ _ written => absurd written slash

theorem stringBody_written (cs : List Char) (fuel : Nat) (rest acc : List Char)
    (enough : (cs.flatMap escapeChar).length < fuel) :
    stringBody fuel (cs.flatMap escapeChar ++ '"' :: rest) acc true =
      some (some (String.ofList (acc.reverse ++ cs)), rest) := by
  induction cs generalizing fuel acc with
  | nil =>
    obtain ⟨fuel, rfl⟩ : ∃ n, fuel = n + 1 := ⟨fuel - 1, by simp at enough; omega⟩
    simp [stringBody]
  | cons c cs ih =>
    have some := escapeChar_ne_nil c
    rw [List.flatMap_cons, List.length_append] at enough
    obtain ⟨fuel, rfl⟩ : ∃ n, fuel = n + 1 := ⟨fuel - 1, by omega⟩
    rw [List.flatMap_cons, List.append_assoc, stringBody_escapeChar, ih _ _ (by omega)]
    simp

/-- What stands behind a value in a written text: nothing, or a mark that goes on with a list or a record. -/
def Behind (rest : List Char) : Prop := ∀ c ∈ rest.head?, c = ',' ∨ c = ']' ∨ c = '\x7d'

theorem behind_nil : Behind [] := by simp [Behind]

theorem behind_cons {c : Char} (mark : c = ',' ∨ c = ']' ∨ c = '\x7d') (rest : List Char) :
    Behind (c :: rest) := by
  simpa [Behind] using mark

theorem digits_written (ds rest : List Char) (all : ∀ c ∈ ds, c.isDigit = true) (behind : Behind rest) :
    digits (ds ++ rest) = (ds, rest) := by
  have stops : rest.takeWhile Char.isDigit = [] ∧ rest.dropWhile Char.isDigit = rest := by
    cases rest with
    | nil => simp
    | cons c rest =>
      have noDigit : c.isDigit = false := by
        rcases behind c rfl with rfl | rfl | rfl <;> rfl
      simp [noDigit]
  rw [digits, List.span_eq_takeWhile_dropWhile, List.takeWhile_append_of_pos all,
    List.dropWhile_append_of_pos all, stops.1, stops.2, List.append_nil]

theorem head?_toDigits (n : Nat) (positive : 0 < n) : (Nat.toDigits 10 n).head? ≠ some '0' := by
  induction n using Nat.strongRecOn with
  | ind n ih =>
    by_cases small : n < 10
    · rw [Nat.toDigits_of_lt_base small, List.head?_cons, ne_eq, Option.some.injEq, Nat.digitChar_eq_zero]
      exact Nat.ne_of_gt positive
    · have first := ih (n / 10) (by omega) (by omega)
      rw [Nat.toDigits_of_base_le (by decide) (Nat.le_of_not_lt small)]
      cases front : Nat.toDigits 10 (n / 10) with
      | nil => exact absurd front Nat.toDigits_ne_nil
      | cons c cs => rwa [front] at first

theorem foldl_toDigits (n : Nat) :
    (Nat.toDigits 10 n).foldl (fun n c => n * 10 + (c.toNat - 48)) 0 = n := by
  have read := Nat.ofDigitChars_toDigits (b := 10) (n := n) (by decide) (by decide)
  rw [Nat.ofDigitChars_eq_foldl] at read
  simpa [Nat.mul_comm] using read

theorem number_written {n : Nat} (fits : n < UInt64.size) {rest : List Char} (behind : Behind rest) :
    Reader.number false (Nat.toDigits 10 n ++ rest) = (.leaf (.ofInteger n), some rest) := by
  have all : ∀ c ∈ Nat.toDigits 10 n, c.isDigit = true :=
    fun c member => Nat.isDigit_of_mem_toDigits (by decide) (by decide) member
  have leads : ((Nat.toDigits 10 n).isEmpty ||
      (decide ((Nat.toDigits 10 n).length > 1) && decide ((Nat.toDigits 10 n).head? = some '0'))) = false := by
    by_cases zero : n = 0
    · subst zero
      decide
    · simp [Nat.toDigits_ne_nil, head?_toDigits n (Nat.pos_of_ne_zero zero)]
  unfold Reader.number
  rw [digits_written _ _ all behind]
  simp only [leads, Bool.false_eq_true, ↓reduceIte]
  cases rest with
  | nil => simp [exponent?, foldl_toDigits, fits]
  | cons c rest => rcases behind c rfl with rfl | rfl | rfl <;> simp [exponent?, foldl_toDigits, fits]

theorem skipBlanks_cons {c : Char} (visible : isBlank c = false) (cs : List Char) :
    skipBlanks (c :: cs) = c :: cs := by
  simp [skipBlanks, visible]

theorem isBlank_digit {c : Char} (digit : c.isDigit = true) : isBlank c = false := by
  simp only [isBlank, Bool.or_eq_false_iff, decide_eq_false_iff_not]
  refine ⟨⟨⟨?_, ?_⟩, ?_⟩, ?_⟩ <;> rintro rfl <;> cases digit

theorem chars_number (n : Nat) : (Json.number n).chars = Nat.toDigits 10 n := by
  rw [chars, Nat.toString_eq_ofList_toDigits, String.toList_ofList]

theorem chars_number_cons (n : Nat) : ∃ c cs, (Json.number n).chars = c :: cs ∧ c.isDigit = true := by
  rw [chars_number]
  cases digits : Nat.toDigits 10 n with
  | nil => exact absurd digits Nat.toDigits_ne_nil
  | cons c cs =>
    exact ⟨c, cs, rfl, Nat.isDigit_of_mem_toDigits (by decide) (by decide) (digits ▸ List.mem_cons_self)⟩

/-- The first character of a value is no blank and does not close a list. -/
theorem chars_cons (j : Json) : ∃ c cs, j.chars = c :: cs ∧ isBlank c = false ∧ c ≠ ']' := by
  cases j with
  | null => exact ⟨'n', _, rfl, rfl, by decide⟩
  | bool b => cases b <;> exact ⟨_, _, rfl, rfl, by decide⟩
  | string s => exact ⟨'"', _, rfl, rfl, by decide⟩
  | array items => exact ⟨'[', _, rfl, rfl, by decide⟩
  | object members => exact ⟨'\x7b', _, rfl, rfl, by decide⟩
  | number n =>
    obtain ⟨c, cs, same, digit⟩ := chars_number_cons n
    exact ⟨c, cs, same, isBlank_digit digit, fun close => by rw [close] at digit; cases digit⟩

theorem value_digit {c : Char} (digit : c.isDigit = true) (fuel : Nat) (cs : List Char) :
    value (fuel + 1) (c :: cs) = Reader.number false (c :: cs) := by
  rw [value, skipBlanks_cons (isBlank_digit digit)]
  split
  all_goals first | rfl | (rename_i same; injection same with first; subst first; cases digit)

theorem quote_append (s : String) (rest : List Char) :
    quote s ++ rest = '"' :: (s.toList.flatMap escapeChar ++ '"' :: rest) := by
  simp [quote]

theorem stringBody_quote (s : String) (rest : List Char) :
    stringBody ((s.toList.flatMap escapeChar ++ '"' :: rest).length + 1)
      (s.toList.flatMap escapeChar ++ '"' :: rest) [] true = some (some s, rest) := by
  have enough : (s.toList.flatMap escapeChar).length <
      (s.toList.flatMap escapeChar ++ '"' :: rest).length + 1 := by
    rw [List.length_append]
    omega
  rw [stringBody_written _ _ _ _ enough]
  simp

theorem itemChars_cons (item : Json) (more : List Json) (rest : List Char) :
    ∃ c cs, itemChars (item :: more) ++ rest = c :: cs ∧ isBlank c = false ∧ c ≠ ']' := by
  obtain ⟨c, cs, same, seen⟩ := chars_cons item
  cases more with
  | nil => exact ⟨c, cs ++ ([']'] ++ rest), by simp [itemChars, same], seen⟩
  | cons next more => exact ⟨c, cs ++ (',' :: itemChars (next :: more) ++ rest), by simp [itemChars, same], seen⟩

theorem memberChars_cons (name : String) (value : Json) (more : List (String × Json)) (rest : List Char) :
    ∃ cs, memberChars ((name, value) :: more) ++ rest = '"' :: cs := by
  cases more <;> exact ⟨_, rfl⟩

/-- A list of one item or more is read from its first item on. -/
theorem value_list {c : Char} (seen : isBlank c = false ∧ c ≠ ']') (fuel : Nat) (cs : List Char) :
    value (fuel + 1) ('[' :: c :: cs) =
      (.list (items fuel (c :: cs)).1 (items fuel (c :: cs)).2.isSome, (items fuel (c :: cs)).2) := by
  rw [value, skipBlanks_cons rfl]
  simp only [skipBlanks_cons seen.1]
  split
  next same => exact absurd (List.cons.inj same).1 seen.2
  next => rfl

/-- A record of one member or more is read from its first name on. -/
theorem value_record (fuel : Nat) (cs : List Char) :
    value (fuel + 1) ('\x7b' :: '"' :: cs) =
      (.record (members fuel ('"' :: cs)).1 (members fuel ('"' :: cs)).2.isSome,
        (members fuel ('"' :: cs)).2) := by
  rw [value, skipBlanks_cons rfl]
  rfl

/-- Behind an item that reads as it should the list goes on or ends. -/
theorem items_item {item : Json} {fuel : Nat} {mark : Char} {rest : List Char}
    (read : value fuel (item.chars ++ mark :: rest) = (item.node, some (mark :: rest))) :
    (mark = ',' → items (fuel + 1) (item.chars ++ mark :: rest) =
      (item.node :: (items fuel rest).1, (items fuel rest).2)) ∧
    (mark = ']' → items (fuel + 1) (item.chars ++ mark :: rest) = ([item.node], some rest)) := by
  have starts : (skipBlanks (item.chars ++ mark :: rest)).head? ≠ some ']' := by
    obtain ⟨c, cs, same, visible, other⟩ := chars_cons item
    rw [same, List.cons_append, skipBlanks_cons visible]
    simpa using other
  constructor
  all_goals
    rintro rfl
    rw [items, if_neg starts, read]
    rfl

/-- Behind a member that reads as it should the record goes on or ends. -/
theorem members_member {name : String} {member : Json} {fuel : Nat} {mark : Char} {rest : List Char}
    (read : value fuel (member.chars ++ mark :: rest) = (member.node, some (mark :: rest))) :
    (mark = ',' → members (fuel + 1) (quote name ++ ':' :: member.chars ++ mark :: rest) =
      ((.leaf (.ofText name), member.node) :: (members fuel rest).1, (members fuel rest).2)) ∧
    (mark = '\x7d' → members (fuel + 1) (quote name ++ ':' :: member.chars ++ mark :: rest) =
      ([(.leaf (.ofText name), member.node)], some rest)) := by
  constructor
  all_goals
    rintro rfl
    rw [List.append_assoc, List.cons_append, quote_append, members, skipBlanks_cons rfl]
    simp only [stringBody_quote, skipBlanks_cons (c := ':') rfl, read]
    rfl

mutual

theorem value_written : ∀ (j : Json) (fuel : Nat) (rest : List Char), j.Fits →
    j.chars.length ≤ fuel → Behind rest → value fuel (j.chars ++ rest) = (j.node, some rest)
  | .null, fuel + 1, rest, _, _, _ => by rfl
  | .bool true, fuel + 1, rest, _, _, _ => by rfl
  | .bool false, fuel + 1, rest, _, _, _ => by rfl
  | .string s, fuel + 1, rest, _, _, _ => by
    rw [chars, quote_append, value, skipBlanks_cons rfl]
    simp only [stringBody_quote]
    rfl
  | .number n, fuel + 1, rest, fits, _, behind => by
    obtain ⟨c, cs, same, digit⟩ := chars_number_cons n
    have read := number_written fits behind
    rw [← chars_number, same] at read
    rw [same, List.cons_append, value_digit digit, ← List.cons_append, read]
    rfl
  | .array [], fuel + 1, rest, _, _, _ => by rfl
  | .array (item :: more), fuel + 1, rest, fits, enough, _ => by
    have read := items_written (item :: more) fuel rest (by simp) fits (by
      simp only [chars, List.length_cons] at enough; omega)
    obtain ⟨c, cs, same, seen⟩ := itemChars_cons item more rest
    rw [same] at read
    rw [chars, List.cons_append, same, value_list seen, read]
    rfl
  | .object [], fuel + 1, rest, _, _, _ => by rfl
  | .object ((name, member) :: more), fuel + 1, rest, fits, enough, _ => by
    have read := members_written ((name, member) :: more) fuel rest (by simp) fits (by
      simp only [chars, List.length_cons] at enough; omega)
    obtain ⟨cs, same⟩ := memberChars_cons name member more rest
    rw [same] at read
    rw [chars, List.cons_append, same, value_record, read]
    rfl
  | j, 0, rest, _, enough, _ => by
    obtain ⟨c, cs, same, _⟩ := chars_cons j
    simp [same] at enough

theorem items_written : ∀ (all : List Json) (fuel : Nat) (rest : List Char), all ≠ [] → ItemsFit all →
    (itemChars all).length ≤ fuel → items fuel (itemChars all ++ rest) = (itemNodes all, some rest)
  | [], _, _, empty, _, _ => absurd rfl empty
  | [item], fuel + 1, rest, _, fits, enough => by
    have read := value_written item fuel (']' :: rest) fits.1 (by
      simp only [itemChars, List.length_append, List.length_singleton] at enough; omega)
      (behind_cons (.inr (.inl rfl)) rest)
    rw [itemChars, List.append_assoc, List.singleton_append, (items_item read).2 rfl]
    rfl
  | item :: next :: more, fuel + 1, rest, _, fits, enough => by
    simp only [itemChars, List.length_append, List.length_cons] at enough
    have read := value_written item fuel (',' :: (itemChars (next :: more) ++ rest)) fits.1 (by omega)
      (behind_cons (.inl rfl) _)
    rw [itemChars, List.append_assoc, List.cons_append, (items_item read).1 rfl,
      items_written (next :: more) fuel rest (by simp) fits.2 (by omega)]
    · rfl
    · simp
  | item :: more, 0, rest, _, _, enough => by
    obtain ⟨c, cs, same, _⟩ := itemChars_cons item more []
    rw [List.append_nil] at same
    simp [same] at enough

theorem members_written : ∀ (all : List (String × Json)) (fuel : Nat) (rest : List Char), all ≠ [] →
    MembersFit all → (memberChars all).length ≤ fuel →
    members fuel (memberChars all ++ rest) = (memberNodes all, some rest)
  | [], _, _, empty, _, _ => absurd rfl empty
  | [(name, member)], fuel + 1, rest, _, fits, enough => by
    simp only [memberChars, List.length_append, List.length_cons] at enough
    have read := value_written member fuel ('\x7d' :: rest) fits.1 (by omega)
      (behind_cons (.inr (.inr rfl)) rest)
    rw [memberChars, List.append_assoc, List.singleton_append, (members_member read).2 rfl]
    rfl
  | (name, member) :: next :: more, fuel + 1, rest, _, fits, enough => by
    simp only [memberChars, List.length_append, List.length_cons] at enough
    have read := value_written member fuel (',' :: (memberChars (next :: more) ++ rest)) fits.1 (by omega)
      (behind_cons (.inl rfl) _)
    rw [memberChars, List.append_assoc, List.cons_append, (members_member read).1 rfl,
      members_written (next :: more) fuel rest (by simp) fits.2 (by omega)]
    · rfl
    · simp
  | (name, member) :: more, 0, rest, _, _, enough => by
    obtain ⟨cs, same⟩ := memberChars_cons name member more []
    rw [List.append_nil] at same
    simp [same] at enough

end

end Reader

/-- The text of a value is read as the value, with nothing left over. -/
theorem document_compact {j : Json} (fits : j.Fits) : document j.compact = ⟨j.node, true, []⟩ := by
  have read := Reader.value_written j (2 * j.chars.length + 2) [] fits (by omega) Reader.behind_nil
  rw [List.append_nil] at read
  rw [document, compact, String.toList_ofList]
  simp only [read]
  rfl

end MachineKeeper.Json
