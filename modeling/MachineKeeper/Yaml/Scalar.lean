import MachineKeeper.Decimal.Number
import MachineKeeper.Yaml.Cursor

/-! The texts of scalars: plain, quoted and in blocks. Where lines are joined, a single line end
becomes a blank and of several the first is dropped. -/
namespace MachineKeeper.Yaml

inductive Style
  | plain
  | quoted
  | literal
  | folded
deriving DecidableEq, Repr

namespace Scalar

def joined : List Char → List Char
  | ['\n'] => [' ']
  | '\n' :: more => more
  | breaks => breaks

/-- Takes empty lines and the blanks before the next word. Up to column `margin` tabs are refused. -/
def emptyLines? (margin : Nat) : Nat → Cursor → Option (List Char × Cursor)
  | 0, _ => none
  | fuel + 1, c =>
    let (blanks, behind) := c.span isSpace
    if (blanks.take (margin - c.column)).contains '\t' then none
    else
      match behind.takeBreak? with
      | some (b, c) => (emptyLines? margin fuel c).map fun (more, c) => (b :: more, c)
      | none => some ([], behind)

structure Gap where
  text : List Char
  breaks : Bool

def gap? (margin : Nat) (c : Cursor) : Option (Gap × Cursor) :=
  let (blanks, c) := c.span isSpace
  match c.takeBreak? with
  | none => some (⟨blanks, false⟩, c)
  | some (b, c) =>
    (emptyLines? margin (c.rest.length + 1) c).map fun (more, c) => (⟨joined (b :: more), true⟩, c)

def isFlowMark (c : Char) : Bool := c ∈ [',', '[', ']', '\x7b', '\x7d']

/-- Takes a word of a plain scalar, which ends before a colon with a blank behind it; inside
brackets it ends before other marks too, and some colons are refused. -/
def plainWord? (inFlow : Bool) : List Char → Option (List Char × List Char)
  | [] => some ([], [])
  | c :: rest =>
    if isSpace c || isBreak c then some ([], c :: rest)
    else if inFlow && c = ':' && rest.head?.any (fun d => isFlowMark d || d = '?') then none
    else if (c = ':' && endsWord rest) || (inFlow && isFlowMark c) then some ([], c :: rest)
    else (plainWord? inFlow rest).map fun (word, rest) => (c :: word, rest)

structure Taken where
  text : List Char
  below : Bool
  cursor : Cursor

def plainFrom? (inFlow : Bool) (margin : Nat) : Nat → List Char → Gap → Cursor → Option Taken
  | 0, _, _, _ => none
  | fuel + 1, text, gap, c =>
    if c.atDivider || c.next? = some '#' then some ⟨text, gap.breaks, c⟩
    else
      match plainWord? inFlow c.rest with
      | none => none
      | some (word, rest) =>
        let c := c.jump word.length rest
        let text := if word.isEmpty then text else text ++ gap.text ++ word
        let breaks := word.isEmpty && gap.breaks
        if rest.isEmpty || !endsWord rest then some ⟨text, breaks, c⟩
        else
          match gap? margin c with
          | none => none
          | some (gap, c) =>
            let gap := { gap with breaks := gap.breaks || breaks }
            if !inFlow && c.column < margin then some ⟨text, gap.breaks, c⟩
            else plainFrom? inFlow margin fuel text gap c

/-- Takes a plain scalar. Outside brackets its lines begin at column `margin` or behind. -/
def plain? (inFlow : Bool) (margin : Nat) (c : Cursor) : Option Taken :=
  plainFrom? inFlow margin (c.rest.length + 1) [] ⟨[], false⟩ c

def simpleEscape? (c : Char) : Option Char :=
  [('0', '\x00'), ('a', '\x07'), ('b', '\x08'), ('t', '\t'), ('\t', '\t'), ('n', '\n'), ('v', '\x0b'),
    ('f', '\x0c'), ('r', '\r'), ('e', '\x1b'), (' ', ' '), ('"', '"'), ('/', '/'), ('\\', '\\'),
    ('N', '\u0085'), ('_', '\u00a0'), ('L', '\u2028'), ('P', '\u2029')].lookup c

def hexWidth? (c : Char) : Option Nat := [('x', 2), ('u', 4), ('U', 8)].lookup c

/-- What a backslash stands for together with what follows, and how much of that belongs to it. -/
def escape? : List Char → Option (Char × Nat)
  | [] => none
  | c :: rest =>
    match hexWidth? c with
    | none => (simpleEscape? c).map (·, 1)
    | some width => do
      if rest.length < width then none
      let n ← Decimal.ofDigits? 16 (rest.take width)
      if n.isValidChar then some (Char.ofNat n, width + 1) else none

inductive WordEnd
  | quote
  | gap
  | escapedBreak
deriving DecidableEq

/-- Takes a word between single quotes, in which a quote is written twice. -/
def singleWord : List Char → List Char × Nat × WordEnd
  | [] => ([], 0, .gap)
  | '\'' :: '\'' :: rest =>
    let (word, count, ending) := singleWord rest
    ('\'' :: word, count + 2, ending)
  | c :: rest =>
    if c = '\'' then ([], 0, .quote)
    else if isSpace c || isBreak c then ([], 0, .gap)
    else
      let (word, count, ending) := singleWord rest
      (c :: word, count + 1, ending)

def doubleWord? : Nat → List Char → Option (List Char × Nat × WordEnd)
  | 0, _ => none
  | _, [] => some ([], 0, .gap)
  | fuel + 1, c :: rest =>
    if c = '"' then some ([], 0, .quote)
    else if isSpace c || isBreak c then some ([], 0, .gap)
    else if c = '\\' then
      if rest.head?.any isBreak then some ([], 1, .escapedBreak)
      else do
        let (char, width) ← escape? rest
        let (word, count, ending) ← doubleWord? fuel (rest.drop width)
        return (char :: word, count + width + 1, ending)
    else do
      let (word, count, ending) ← doubleWord? fuel rest
      return (c :: word, count + 1, ending)

def quotedFrom? (double : Bool) : Nat → List Char → Cursor → Option Taken
  | 0, _, _ => none
  | fuel + 1, text, c => do
    if c.atDivider || c.rest.isEmpty then none
    let (word, count, ending) ←
      if double then doubleWord? (c.rest.length + 1) c.rest else some (singleWord c.rest)
    let c := c.skip count
    let text := text ++ word
    match ending with
    | .quote => return ⟨text, false, c.skip 1⟩
    | .gap =>
      let (gap, c) ← gap? 0 c
      quotedFrom? double fuel (text ++ gap.text) c
    | .escapedBreak =>
      let (_, c) ← c.takeBreak?
      let (breaks, c) ← emptyLines? 0 (c.rest.length + 1) c
      quotedFrom? double fuel (text ++ breaks) c

def quoted? (double : Bool) (c : Cursor) : Option Taken :=
  quotedFrom? double (c.rest.length + 1) [] (c.skip 1)

inductive Chomping
  | strip
  | clip
  | keep
deriving DecidableEq

/-- The signs behind the mark of a block scalar, in either order: what to do with its last line
ends, and its indentation. -/
def blockHeader? (cs : List Char) : Option (Chomping × Option Nat × Nat) :=
  let chomping? (c : Char) : Option Chomping := [('+', .keep), ('-', .strip)].lookup c
  let indent? (c : Char) : Option Nat := if c.isDigit then some (Decimal.digitValue c) else none
  let (chomping, indent, count) : Option Chomping × Option Nat × Nat := match cs with
    | a :: b :: _ =>
      match chomping? a, indent? a with
      | some chomping, _ => (some chomping, indent? b, if (indent? b).isSome then 2 else 1)
      | none, some indent => (chomping? b, some indent, if (chomping? b).isSome then 2 else 1)
      | none, none => (none, none, 0)
    | [a] =>
      match chomping? a, indent? a with
      | none, none => (none, none, 0)
      | chomping, indent => (chomping, indent, 1)
    | [] => (none, none, 0)
  if indent = some 0 then none else some (chomping.getD .clip, indent, count)

/-- Takes empty lines of a block and the indentation of the next line, which has `indent` blanks
at most if that is known. Returns the line ends and the widest indentation too. -/
def blockGap? (indent? : Option Nat) : Nat → Nat → Cursor → Option (List Char × Nat × Cursor)
  | 0, _, _ => none
  | fuel + 1, widest, c =>
    let (run, _) := c.span (· = ' ')
    let c := c.skip (match indent? with
      | some indent => min run.length (indent - c.column)
      | none => run.length)
    let widest := max widest c.column
    let indenting := match indent? with
      | some indent => decide (c.column < indent)
      | none => true
    if indenting && c.next? = some '\t' then none
    else
      match c.takeBreak? with
      | some (b, c) => (blockGap? indent? fuel widest c).map fun (more, rest) => (b :: more, rest)
      | none => some ([], widest, c)

/-- A block as far as it has been taken: its text, the end of its last line, which is still to be
written, the ends of the empty lines behind that, and whether the last line began with a blank. -/
structure Block where
  text : List Char
  lineEnd : List Char
  emptyLines : List Char
  indented : Bool

def Block.close (b : Block) (folded indented : Bool) : List Char :=
  if folded && b.lineEnd = ['\n'] && !b.indented && !indented then
    b.text ++ (if b.emptyLines.isEmpty then [' '] else []) ++ b.emptyLines
  else b.text ++ b.lineEnd ++ b.emptyLines

def blockLines? (folded : Bool) (indent : Nat) : Nat → Block → Cursor → Option (Block × Cursor)
  | 0, _, _ => none
  | fuel + 1, b, c =>
    if c.column ≠ indent || c.rest.isEmpty then some (b, c)
    else do
      let indented := c.next?.any isSpace
      let (line, c) := c.span fun ch => !isBreak ch
      let text := b.close folded indented ++ line
      let (lineEnd, c) := match c.takeBreak? with
        | some (ending, c) => ([ending], c)
        | none => ([], c)
      let (emptyLines, _, c) ← blockGap? (some indent) (c.rest.length + 1) 0 c
      blockLines? folded indent fuel ⟨text, lineEnd, emptyLines, indented⟩ c

def block? (folded : Bool) (margin : Nat) (c : Cursor) : Option Taken := do
  let c := c.skip 1
  let (chomping, increment, count) ← blockHeader? c.rest
  let c ← (c.skip count).endLine?
  let known := increment.map fun n => margin - 1 + n
  let (breaks, widest, c) ← blockGap? known (c.rest.length + 1) 0 c
  let indent := known.getD (max widest (max margin 1))
  let (b, c) ← blockLines? folded indent (c.rest.length + 1) ⟨[], [], breaks, false⟩ c
  let tail := match chomping with
    | .strip => []
    | .clip => b.lineEnd
    | .keep => b.lineEnd ++ b.emptyLines
  return ⟨b.text ++ tail, true, c⟩

end Scalar

end MachineKeeper.Yaml
