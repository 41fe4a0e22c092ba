import MachineKeeper.Duration.Units
import MachineKeeper.Duration.Reader
import MachineKeeper.Proofs.JsonText

/-! A length of time is read back from its text. The reader comes past the parts of the text one by
one and adds up their worth. No sum on the way is larger than the whole, which is why none of the
checks on the way fails. -/
namespace MachineKeeper.Duration

open Json.Reader (foldl_toDigits)

/-- The reader gets from `r` over some characters, in the middle of a text. -/
def Reading.Passes (r : Reading) (cs : List Char) (mode : Mode) (total : Duration) : Prop :=
  ∃ offset, cs.foldlM Reading.step r = .ok ⟨mode, total, true, offset⟩

theorem Reading.Passes.append {r : Reading} {cs more : List Char} {mode mode' : Mode}
    {total total' : Duration} (first : r.Passes cs mode total)
    (second : ∀ offset, Reading.Passes ⟨mode, total, true, offset⟩ more mode' total') :
    r.Passes (cs ++ more) mode' total' := by
  obtain ⟨offset, before⟩ := first
  obtain ⟨offset', behind⟩ := second offset
  exact ⟨offset', by rw [List.foldlM_append, before]; exact behind⟩

theorem digit?_isDigit {c : Char} (digit : c.isDigit = true) : digit? c = some (c.toNat - 48) := by
  rw [digit?, if_pos digit]
  rfl

theorem le_foldl_digits (ds : List Char) (n : Nat) :
    n ≤ ds.foldl (fun n c => n * 10 + (c.toNat - 48)) n := by
  induction ds generalizing n with
  | nil => exact Nat.le_refl n
  | cons d ds ih =>
    have step : n ≤ n * 10 + (d.toNat - 48) := by omega
    exact Nat.le_trans step (ih _)

theorem passes_digits (ds : List Char) (digits : ∀ c ∈ ds, c.isDigit = true) (n : Nat)
    (fits : ds.foldl (fun n c => n * 10 + (c.toNat - 48)) n < UInt64.size) (total : Duration)
    (offset : Nat) : Reading.Passes ⟨.whole n, total, true, offset⟩ ds
      (.whole (ds.foldl (fun n c => n * 10 + (c.toNat - 48)) n)) total := by
  induction ds generalizing n offset with
  | nil => exact ⟨offset, rfl⟩
  | cons d ds ih =>
    have small := Nat.lt_of_le_of_lt (le_foldl_digits ds (n * 10 + (d.toNat - 48))) fits
    obtain ⟨behind, read⟩ := ih (fun c member => digits c (List.mem_cons_of_mem _ member)) _ fits
      (offset + d.utf8Size)
    refine ⟨behind, ?_⟩
    rw [List.foldlM_cons, Reading.step]
    simp only [digit?_isDigit (digits d List.mem_cons_self), bounded, if_pos small]
    exact read

theorem passes_number {n : Nat} (fits : n < UInt64.size) (start : Nat) (total : Duration)
    (started : Bool) (offset : Nat) :
    Reading.Passes ⟨.before start, total, started, offset⟩ (Nat.toDigits 10 n) (.whole n) total := by
  have digits : ∀ c ∈ Nat.toDigits 10 n, c.isDigit = true :=
    fun c member => Nat.isDigit_of_mem_toDigits (by decide) (by decide) member
  have value := foldl_toDigits n
  cases written : Nat.toDigits 10 n with
  | nil => exact absurd written Nat.toDigits_ne_nil
  | cons d ds =>
    rw [written] at digits value
    rw [List.foldl_cons, Nat.zero_mul, Nat.zero_add] at value
    have rest := passes_digits ds (fun c member => digits c (List.mem_cons_of_mem _ member))
      (d.toNat - 48) (value ▸ fits) total (offset + d.utf8Size)
    rw [value] at rest
    obtain ⟨behind, read⟩ := rest
    refine ⟨behind, ?_⟩
    rw [List.foldlM_cons, Reading.step]
    simp only [digit?_isDigit (digits d List.mem_cons_self)]
    exact read

/-- A character that goes on with a unit's name. -/
def IsLetter (c : Char) : Prop := digit? c = none ∧ isBlank c = false ∧ isUnitLetter c = true

instance : DecidablePred IsLetter := fun _ => inferInstanceAs (Decidable (_ ∧ _ ∧ _))

theorem passes_letters (cs : List Char) (letters : ∀ c ∈ cs, IsLetter c) (quantity : Quantity)
    (before : List Char) (total : Duration) (offset : Nat) :
    Reading.Passes ⟨.unit quantity before, total, true, offset⟩ cs
      (.unit quantity (cs.reverse ++ before)) total := by
  induction cs generalizing before offset with
  | nil => exact ⟨offset, rfl⟩
  | cons c cs ih =>
    obtain ⟨noDigit, visible, letter⟩ := letters c List.mem_cons_self
    obtain ⟨behind, read⟩ := ih (fun c member => letters c (List.mem_cons_of_mem _ member))
      (c :: before) (offset + c.utf8Size)
    refine ⟨behind, ?_⟩
    rw [List.foldlM_cons, Reading.step]
    simp only [noDigit, visible, letter]
    rw [List.reverse_cons, List.append_assoc]
    exact read

theorem passes_name {name : String} (named : name.toList ≠ []) (letters : ∀ c ∈ name.toList, IsLetter c)
    (n : Nat) (total : Duration) (offset : Nat) :
    Reading.Passes ⟨.whole n, total, true, offset⟩ name.toList
      (.unit ⟨n, none⟩ name.toList.reverse) total := by
  cases written : name.toList with
  | nil => exact absurd written named
  | cons c cs =>
    rw [written] at letters
    obtain ⟨noDigit, visible, letter⟩ := letters c List.mem_cons_self
    obtain ⟨behind, read⟩ := passes_letters cs (fun c member => letters c (List.mem_cons_of_mem _ member))
      ⟨n, none⟩ [c] total (offset + c.utf8Size)
    refine ⟨behind, ?_⟩
    rw [List.foldlM_cons, Reading.step]
    simp only [noDigit, visible, letter]
    rw [List.reverse_cons]
    exact read

/-- A number with the name of a unit, and the unit. -/
abbrev Part := (Nat × String) × TimeUnit

/-- A name is made of letters and stands for a unit. -/
def Names (name : String) (unit : TimeUnit) : Prop :=
  name.toList ≠ [] ∧ (∀ c ∈ name.toList, IsLetter c) ∧ TimeUnit.ofName? name = some unit

instance (name : String) (unit : TimeUnit) : Decidable (Names name unit) :=
  have : Decidable (∀ c ∈ name.toList, IsLetter c) := List.decidableBAll IsLetter name.toList
  inferInstanceAs (Decidable (_ ∧ _ ∧ _))

/-- Such a part is read: its number fits in 64 bits, and its name stands for the unit. -/
structure Part.Reads (part : Part) : Prop where
  fits : part.1.1 < UInt64.size
  named : Names part.1.2 part.2

def partChars (part : Nat × String) : List Char := Nat.toDigits 10 part.1 ++ part.2.toList

theorem passes_part {part : Part} (reads : part.Reads) (start : Nat) (total : Duration) (started : Bool)
    (offset : Nat) : Reading.Passes ⟨.before start, total, started, offset⟩ (partChars part.1)
      (.unit ⟨part.1.1, none⟩ part.1.2.toList.reverse) total :=
  (passes_number reads.fits start total started offset).append
    (passes_name reads.named.1 reads.named.2.1 part.1.1 total)

/-- What parts are worth, added to a total one after another. -/
def addParts (parts : List Part) (total : Duration) : Except DurationError Duration :=
  parts.foldlM (fun total part => addUnits total ⟨part.1.1, none⟩ part.2) total

theorem finishUnit_part {part : Part} (reads : part.Reads) (total : Duration) :
    finishUnit total ⟨part.1.1, none⟩ part.1.2.toList.reverse = addUnits total ⟨part.1.1, none⟩ part.2 := by
  simp only [finishUnit, List.reverse_reverse, String.ofList_toList, reads.named.2.2]

/-- The parts of a text with blanks between them are added up. -/
theorem reads_parts (part : Part) (parts : List Part) (reads : ∀ p ∈ part :: parts, p.Reads)
    {total result : Duration} (sum : addParts (part :: parts) total = .ok result)
    (start : Nat) (started : Bool) (offset : Nat) :
    (([' '].intercalate ((part :: parts).map fun p => partChars p.1)).foldlM Reading.step
      ⟨.before start, total, started, offset⟩ >>= Reading.finish) = .ok result := by
  induction parts generalizing part total start started offset with
  | nil =>
    have first := reads part List.mem_cons_self
    obtain ⟨behind, read⟩ := passes_part first start total started offset
    rw [List.map_cons, List.map_nil, List.intercalate_singleton, read]
    show finishUnit total ⟨part.1.1, none⟩ part.1.2.toList.reverse = .ok result
    rw [finishUnit_part first]
    simpa [addParts] using sum
  | cons next parts ih =>
    have first := reads part List.mem_cons_self
    obtain ⟨behind, read⟩ := passes_part first start total started offset
    rw [addParts, List.foldlM_cons] at sum
    cases added : addUnits total ⟨part.1.1, none⟩ part.2 with
    | error fault =>
      rw [added] at sum
      cases sum
    | ok total' =>
      rw [added] at sum
      have blank : Reading.step ⟨.unit ⟨part.1.1, none⟩ part.1.2.toList.reverse, total, true, behind⟩ ' ' =
          .ok ⟨.before (behind + 1), total', true, behind + 1⟩ := by
        show (finishUnit total ⟨part.1.1, none⟩ part.1.2.toList.reverse >>= _) = _
        rw [finishUnit_part first, added]
        rfl
      have rest := ih next (fun p member => reads p (List.mem_cons_of_mem _ member)) sum (behind + 1)
        true (behind + 1)
      rw [List.map_cons, List.map_cons, List.intercalate_cons_cons, List.append_assoc,
        List.foldlM_append, read]
      show ((Reading.step _ ' ' >>= _) >>= _) = _
      rw [blank]
      exact rest

def secondsIn : List Part → Nat
  | [] => 0
  | part :: parts => part.1.1 * part.2.seconds + secondsIn parts

def nanosIn : List Part → Nat
  | [] => 0
  | part :: parts => part.1.1 * part.2.nanos + nanosIn parts

def Is (d : Duration) (seconds nanos : Nat) : Prop := d.seconds.toNat = seconds ∧ d.nanos.val = nanos

theorem bounded_eq_ok {n : Nat} (fits : n < UInt64.size) : bounded n = .ok n := if_pos fits

theorem add_within {d : Duration} {s n seconds nanos : Nat} (is : d.Is s n)
    (fits : s + seconds < UInt64.size) (less : n + nanos < 1000000000) :
    ∃ sum, d.add seconds nanos = .ok sum ∧ sum.Is (s + seconds) (n + nanos) := by
  obtain ⟨rfl, rfl⟩ := is
  have noCarry : ¬ d.nanos.val + nanos > 1000000000 := by omega
  have sum : bounded (d.nanos.val + nanos) = .ok _ := bounded_eq_ok (Nat.lt_trans less (by decide))
  have more : bounded (seconds + 0) = .ok _ := bounded_eq_ok (by omega)
  have total : bounded (d.seconds.toNat + (seconds + 0)) = .ok _ := bounded_eq_ok fits
  refine ⟨⟨(d.seconds.toNat + seconds).toUInt64, d.nanos.val + nanos, less⟩, ?_,
    UInt64.toNat_ofNat_of_lt' fits, rfl⟩
  simp only [add, bind, Except.bind, sum, if_neg noCarry, more, total, dif_pos less]
  rfl

theorem addUnits_within {d : Duration} {s n count : Nat} {unit : TimeUnit} (is : d.Is s n)
    (fits : s + count * unit.seconds < UInt64.size) (less : n + count * unit.nanos < 1000000000) :
    ∃ sum, addUnits d ⟨count, none⟩ unit = .ok sum ∧
      sum.Is (s + count * unit.seconds) (n + count * unit.nanos) := by
  obtain ⟨sum, added, worth⟩ := add_within is fits less
  have seconds : bounded (count * unit.seconds) = .ok _ := bounded_eq_ok (by omega)
  have nanos : bounded (count * unit.nanos) = .ok _ :=
    bounded_eq_ok (Nat.lt_trans (by omega : _ < 1000000000) (by decide))
  refine ⟨sum, ?_, worth⟩
  simp only [addUnits, bind, Except.bind, seconds, nanos, added]
  rfl

theorem addParts_within (parts : List Part) {d : Duration} {s n : Nat} (is : d.Is s n)
    (fits : s + secondsIn parts < UInt64.size) (less : n + nanosIn parts < 1000000000) :
    ∃ sum, addParts parts d = .ok sum ∧ sum.Is (s + secondsIn parts) (n + nanosIn parts) := by
  induction parts generalizing d s n with
  | nil => exact ⟨d, rfl, is⟩
  | cons part parts ih =>
    simp only [secondsIn, nanosIn, ← Nat.add_assoc] at fits less ⊢
    obtain ⟨next, added, worth⟩ := addUnits_within is (Nat.lt_of_le_of_lt (Nat.le_add_right _ _) fits)
      (Nat.lt_of_le_of_lt (Nat.le_add_right _ _) less)
    obtain ⟨sum, rest, total⟩ := ih worth fits less
    exact ⟨sum, by rw [addParts, List.foldlM_cons, added]; exact rest, total⟩

/-- The units in the order in which a text has them. -/
def scale : List TimeUnit :=
  [.year, .month, .day, .hour, .minute, .second, .millisecond, .microsecond, .nanosecond]

theorem reads_part {n : Nat} {name : String} {unit : TimeUnit} (fits : n < UInt64.size)
    (named : Names name unit) : Part.Reads ((n, name), unit) := ⟨fits, named⟩

theorem reads_part_plural {n : Nat} {name : String} {unit : TimeUnit} (fits : n < UInt64.size)
    (one : Names name unit) (many : Names (name ++ "s") unit) :
    Part.Reads ((n, if n > 1 then name ++ "s" else name), unit) := by
  refine ⟨fits, ?_⟩
  dsimp only
  split
  next => exact many
  next => exact one

/-- The names that a text has for the units, and for more than one of them. -/
theorem names_scale : Names "year" .year ∧ Names ("year" ++ "s") .year ∧ Names "month" .month ∧
    Names ("month" ++ "s") .month ∧ Names "day" .day ∧ Names ("day" ++ "s") .day ∧ Names "h" .hour ∧
    Names "m" .minute ∧ Names "s" .second ∧ Names "ms" .millisecond ∧ Names "us" .microsecond ∧
    Names "ns" .nanosecond := by
  decide +kernel

theorem parts_read (d : Duration) : ∀ part ∈ d.parts.zip scale, Part.Reads part := by
  have bound : d.seconds.toNat < 18446744073709551616 := d.seconds.toNat_lt
  have less : d.nanos.val < 1000000000 := d.nanos.isLt
  obtain ⟨year, years, month, months, day, days, hour, minute, second, milli, micro, nano⟩ := names_scale
  simp only [parts, scale, List.zip_cons_cons, List.zip_nil_left, List.forall_mem_cons, TimeUnit.seconds]
  refine ⟨reads_part_plural ?_ year years, reads_part_plural ?_ month months, reads_part_plural ?_ day days,
    reads_part ?_ hour, reads_part ?_ minute, reads_part ?_ second, reads_part ?_ milli, reads_part ?_ micro,
    reads_part ?_ nano, nofun⟩
  all_goals
    simp only [UInt64.size]
    omega

theorem nanosIn_append (parts more : List Part) :
    nanosIn (parts ++ more) = nanosIn parts + nanosIn more := by
  induction parts with
  | nil => exact (Nat.zero_add _).symm
  | cons part parts ih => rw [List.cons_append, nanosIn, nanosIn, ih, Nat.add_assoc]

-- The sums are rewritten part by part, as comparing them by computation would count the units in unary.

theorem secondsIn_scale (years months days hours minutes seconds millis micros nanos : Nat × String) :
    secondsIn ([years, months, days, hours, minutes, seconds, millis, micros, nanos].zip scale) =
      years.1 * TimeUnit.year.seconds + (months.1 * TimeUnit.month.seconds + (days.1 * TimeUnit.day.seconds +
        (hours.1 * TimeUnit.hour.seconds + (minutes.1 * TimeUnit.minute.seconds + seconds.1)))) := by
  have second : TimeUnit.second.seconds = 1 := rfl
  have fine : secondsIn [(millis, .millisecond), (micros, .microsecond), (nanos, .nanosecond)] = 0 := by
    simp [secondsIn, TimeUnit.seconds]
  simp only [scale, List.zip_cons_cons, List.zip_nil_right]
  rw [secondsIn, secondsIn, secondsIn, secondsIn, secondsIn, secondsIn, fine, second, Nat.mul_one, Nat.add_zero]

theorem nanosIn_scale (years months days hours minutes seconds millis micros nanos : Nat × String) :
    nanosIn ([years, months, days, hours, minutes, seconds, millis, micros, nanos].zip scale) =
      millis.1 * TimeUnit.millisecond.nanos + (micros.1 * TimeUnit.microsecond.nanos + nanos.1) := by
  have nano : TimeUnit.nanosecond.nanos = 1 := rfl
  have coarse : nanosIn [(years, .year), (months, .month), (days, .day), (hours, .hour), (minutes, .minute),
      (seconds, .second)] = 0 := by
    simp [nanosIn, TimeUnit.nanos]
  refine (nanosIn_append [(years, .year), (months, .month), (days, .day), (hours, .hour), (minutes, .minute),
    (seconds, .second)] [(millis, .millisecond), (micros, .microsecond), (nanos, .nanosecond)]).trans ?_
  rw [coarse, Nat.zero_add, nanosIn, nanosIn, nanosIn, nanosIn, nano, Nat.mul_one, Nat.add_zero]

/-- Years, months and days are taken out of a number of seconds one after another, and what is left is
hours, minutes and seconds. -/
theorem seconds_split (seconds year month day : Nat) :
    seconds / year * year + (seconds % year / month * month +
      (seconds % year % month / day * day + (seconds % year % month % day / 3600 * 3600 +
        (seconds % year % month % day % 3600 / 60 * 60 + seconds % year % month % day % 60)))) = seconds := by
  have hours (inDay : Nat) : inDay / 3600 * 3600 + (inDay % 3600 / 60 * 60 + inDay % 60) = inDay := by omega
  rw [hours, Nat.div_add_mod', Nat.div_add_mod', Nat.div_add_mod']

theorem nanos_split (nanos : Nat) :
    nanos / 1000000 * 1000000 + (nanos / 1000 % 1000 * 1000 + nanos % 1000) = nanos := by
  omega

theorem worth_parts (d : Duration) :
    d.Is (secondsIn (d.parts.zip scale)) (nanosIn (d.parts.zip scale)) := by
  rw [parts, secondsIn_scale, nanosIn_scale]
  exact ⟨(seconds_split ..).symm, (nanos_split _).symm⟩

theorem worth_shown (parts : List Part) :
    secondsIn (parts.filter fun part => part.1.1 ≠ 0) = secondsIn parts ∧
    nanosIn (parts.filter fun part => part.1.1 ≠ 0) = nanosIn parts := by
  induction parts with
  | nil => exact ⟨rfl, rfl⟩
  | cons part parts ih =>
    by_cases none : part.1.1 = 0
    · simpa [secondsIn, nanosIn, none] using ih
    · simpa [secondsIn, nanosIn, none] using ih

theorem text_nothing {d : Duration} (shown : (d.parts.filter fun p => p.1 ≠ 0) = []) : d.text = "0s" := by
  unfold text
  split
  next => rfl
  next more => exact absurd shown more

theorem text_shown {d : Duration} {p : Nat × String} {ps : List (Nat × String)}
    (shown : (d.parts.filter fun p => p.1 ≠ 0) = p :: ps) :
    d.text.toList = [' '].intercalate ((p :: ps).map partChars) := by
  have chars : (fun p : Nat × String => (toString p.1 ++ p.2).toList) = partChars := by
    funext p
    rw [String.toList_append, Nat.toString_eq_ofList_toDigits, String.toList_ofList, partChars]
  unfold text
  split
  next none => exact absurd (none.symm.trans shown) (List.cons_ne_nil p ps).symm
  next =>
    show (" ".intercalate ((d.parts.filter fun p => p.1 ≠ 0).map fun p => toString p.1 ++ p.2)).toList = _
    rw [shown, String.toList_intercalate, List.map_map]
    exact congrArg (fun write => [' '].intercalate ((p :: ps).map write)) chars

/-- A text consists of parts, one at least, that are worth the length of time. -/
theorem text_parts (d : Duration) : ∃ part parts, (∀ p ∈ part :: parts, Part.Reads p) ∧
    d.text.toList = [' '].intercalate ((part :: parts).map fun p => partChars p.1) ∧
    d.Is (secondsIn (part :: parts)) (nanosIn (part :: parts)) := by
  have worth := worth_parts d
  rw [← (worth_shown _).1, ← (worth_shown _).2] at worth
  have names : (d.parts.filter fun p => p.1 ≠ 0) =
      ((d.parts.zip scale).filter fun part => part.1.1 ≠ 0).map Prod.fst := by
    conv => lhs; rw [← @List.map_fst_zip _ _ d.parts scale (Nat.le_refl 9)]
    exact List.filter_map
  have reads : ∀ p ∈ (d.parts.zip scale).filter fun part => part.1.1 ≠ 0, Part.Reads p :=
    fun p member => parts_read d p (List.mem_filter.mp member).1
  cases shown : (d.parts.zip scale).filter fun part => part.1.1 ≠ 0 with
  | nil =>
    rw [shown] at names worth
    obtain ⟨-, -, -, -, -, -, -, -, second, -⟩ := names_scale
    refine ⟨((0, "s"), .second), [], ?_, ?_, worth⟩
    · simpa using reads_part (by decide) second
    · rw [text_nothing names]
      decide
  | cons part parts =>
    rw [shown] at names worth reads
    refine ⟨part, parts, reads, ?_, worth⟩
    rw [text_shown names, ← List.map_cons, List.map_map]
    rfl

theorem Is.eq {d e : Duration} {seconds nanos : Nat} (first : d.Is seconds nanos)
    (second : e.Is seconds nanos) : d = e := by
  have sameSeconds : d.seconds = e.seconds := UInt64.toNat_inj.mp (first.1.trans second.1.symm)
  have sameNanos : d.nanos = e.nanos := Fin.ext (first.2.trans second.2.symm)
  cases d
  cases e
  simp only at sameSeconds sameNanos
  rw [sameSeconds, sameNanos]

theorem length_parts {part : Part} (parts : List Part) (reads : part.Reads) :
    2 ≤ ([' '].intercalate ((part :: parts).map fun p => partChars p.1)).length := by
  have digits := List.length_pos_iff.mpr (@Nat.toDigits_ne_nil part.1.1 10)
  have letters := List.length_pos_iff.mpr reads.named.1
  have first : 2 ≤ (partChars part.1).length := by
    rw [partChars, List.length_append]
    omega
  cases parts with
  | nil => rwa [List.map_cons, List.map_nil, List.intercalate_singleton]
  | cons next parts =>
    rw [List.map_cons, List.map_cons, List.intercalate_cons_cons, List.length_append, List.length_append]
    omega

/-- A length of time is read back from its text. -/
theorem ofText_text (d : Duration) : ofText d.text = .ok d := by
  obtain ⟨part, parts, reads, written, worth⟩ := text_parts d
  have notZero : d.text ≠ "0" := by
    intro zero
    have long := length_parts parts (reads part List.mem_cons_self)
    rw [← written, zero] at long
    exact absurd long (by decide)
  obtain ⟨sum, added, total⟩ := addParts_within (part :: parts) (d := zero) (s := 0) (n := 0) ⟨rfl, rfl⟩
    (by rw [Nat.zero_add, ← worth.1]; exact d.seconds.toNat_lt)
    (by rw [Nat.zero_add, ← worth.2]; exact d.nanos.isLt)
  rw [Nat.zero_add, Nat.zero_add] at total
  have read := reads_parts part parts reads added 0 false 0
  rw [total.eq worth] at read
  rw [ofText, if_neg notZero, written]
  exact read

end MachineKeeper.Duration
