/-! Cutting texts: at marks, and where they begin and end with blanks. -/
namespace MachineKeeper

/-- The first and last character of each run of blank characters. -/
def blankRanges : List (Nat × Nat) :=
  [(0x09, 0x0D), (0x20, 0x20), (0x85, 0x85), (0xA0, 0xA0), (0x1680, 0x1680), (0x2000, 0x200A),
    (0x2028, 0x2029), (0x202F, 0x202F), (0x205F, 0x205F), (0x3000, 0x3000)]

def isBlank (c : Char) : Bool :=
  blankRanges.any fun (first, last) => first ≤ c.toNat && c.toNat ≤ last

def trimBlanks (text : List Char) : List Char :=
  ((text.dropWhile isBlank).reverse.dropWhile isBlank).reverse

def splitAll (mark : Char) : List Char → List (List Char)
  | [] => [[]]
  | c :: rest =>
    match splitAll mark rest with
    | first :: more => if c = mark then [] :: first :: more else (c :: first) :: more
    | [] => [[c]]

theorem splitAll_ne_nil (mark : Char) (cs : List Char) : splitAll mark cs ≠ [] := by
  cases cs with
  | nil => simp [splitAll]
  | cons c rest =>
    unfold splitAll
    split
    · split <;> simp
    · simp

theorem splitAll_unmarked {mark : Char} {cs : List Char} (unmarked : mark ∉ cs) : splitAll mark cs = [cs] := by
  induction cs with
  | nil => rfl
  | cons c rest ih =>
    obtain ⟨differs, unmarked⟩ := List.ne_and_not_mem_of_not_mem_cons unmarked
    rw [splitAll, ih unmarked]
    exact if_neg (Ne.symm differs)

theorem splitAll_append {mark : Char} {front : List Char} (unmarked : mark ∉ front) (rest : List Char) :
    splitAll mark (front ++ mark :: rest) = front :: splitAll mark rest := by
  induction front with
  | nil =>
    rw [List.nil_append, splitAll]
    cases parts : splitAll mark rest with
    | nil => exact absurd parts (splitAll_ne_nil mark rest)
    | cons first more => exact if_pos rfl
  | cons c front ih =>
    obtain ⟨differs, unmarked⟩ := List.ne_and_not_mem_of_not_mem_cons unmarked
    rw [List.cons_append, splitAll, ih unmarked]
    exact if_neg (Ne.symm differs)

/-- A mark between two texts adds no part to theirs. -/
theorem splitAll_between (mark : Char) (front back : List Char) :
    splitAll mark (front ++ mark :: back) = splitAll mark front ++ splitAll mark back := by
  induction front with
  | nil => exact splitAll_append List.not_mem_nil back
  | cons c front ih =>
    rw [List.cons_append, splitAll, splitAll, ih]
    cases parts : splitAll mark front with
    | nil => exact absurd parts (splitAll_ne_nil mark front)
    | cons first more =>
      dsimp only [List.cons_append]
      split <;> rfl

/-- The lines of a text. What follows the last break is a line unless it is empty. -/
def linesOf (text : String) : List String :=
  let parts := splitAll '\n' text.toList
  (if parts.getLast? = some [] then parts.dropLast else parts).map String.ofList

/-- Behind a text that ends with a break there is no further line. -/
theorem linesOf_broken (text : String) :
    linesOf (text ++ "\n") = (splitAll '\n' text.toList).map String.ofList := by
  have parts : splitAll '\n' (text ++ "\n").toList = splitAll '\n' text.toList ++ [[]] := by
    rw [String.toList_append]
    exact splitAll_between '\n' text.toList []
  rw [linesOf, parts, List.getLast?_concat, if_pos rfl, List.dropLast_concat]

def splitFirst (test : Char → Bool) (cs : List Char) : List Char × Option (List Char) :=
  match cs.span fun c => !test c with
  | (front, []) => (front, none)
  | (front, _ :: back) => (front, some back)

theorem splitFirst_append {test : Char → Bool} {front : List Char} {c : Char} (fails : ∀ d ∈ front, test d = false)
    (passes : test c = true) (rest : List Char) : splitFirst test (front ++ c :: rest) = (front, some rest) := by
  have next (d : Char) (ds seen : List Char) : List.span.loop (fun d => !test d) (d :: ds) seen =
      bif !test d then List.span.loop (fun d => !test d) ds (d :: seen) else (seen.reverse, d :: ds) := rfl
  have loop (seen : List Char) : List.span.loop (fun d => !test d) (front ++ c :: rest) seen =
      (seen.reverse ++ front, c :: rest) := by
    induction front generalizing seen with
    | nil => simp [next, passes]
    | cons d front ih =>
      obtain ⟨here, later⟩ := List.forall_mem_cons.mp fails
      simp [next, here, ih later]
  rw [splitFirst, List.span, loop]
  rfl

def splitLast (mark : Char) (cs : List Char) : Option (List Char × List Char) :=
  match cs.reverse.span (· ≠ mark) with
  | (_, []) => none
  | (back, _ :: front) => some (front.reverse, back.reverse)

end MachineKeeper
