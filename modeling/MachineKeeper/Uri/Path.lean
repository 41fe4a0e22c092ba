import MachineKeeper.Uri.Percent

/-! Paths of URIs. Segments of dots are worked off when a path is read. -/
namespace MachineKeeper.Uri

def splitSegments (backslash : Bool) : List Char → List (List Char)
  | [] => [[]]
  | c :: rest =>
    match splitSegments backslash rest with
    | first :: more =>
      if c = '/' || (backslash && c = '\\') then [] :: first :: more else (c :: first) :: more
    | [] => [[c]]

def loweredAscii (cs : List Char) : List Char := cs.map Char.toLower

/-- A segment that stands for where it is. A dot may be written as its byte. -/
def isSingleDot (segment : List Char) : Bool :=
  loweredAscii segment ∈ [['.'], ['%', '2', 'e']]

def isDoubleDot (segment : List Char) : Bool :=
  loweredAscii segment ∈
    [['.', '.'], ['.', '%', '2', 'e'], ['%', '2', 'e', '.'], ['%', '2', 'e', '%', '2', 'e']]

/-- A letter with a colon or a bar, which names a drive. -/
def isDrive : List Char → Bool
  | [letter, mark] => letter.isAlpha && (mark = ':' || mark = '|')
  | _ => false

/-- Takes the last segment away. Segments come in reverse. A drive stays. -/
def dropSegment (file : Bool) : List (List Char) → List (List Char)
  | [] => []
  | [only] => if file && isDrive only then [only] else []
  | _ :: before => before

def keptSegment (file first : Bool) (segment : List Char) : List Char :=
  let segment := percentEncode reservedInPath segment
  if file && first && isDrive segment then segment.take 1 ++ [':'] else segment

/-- Works off the dots in segments; `before` has those before in reverse. -/
def keptSegments (file : Bool) : List (List Char) → List (List Char) → List (List Char)
  | [], before => before.reverse
  | segment :: rest, before =>
    -- A last segment of dots leaves an empty one, so that the path ends with a slash.
    let ending (before : List (List Char)) := if rest.isEmpty then [] :: before else before
    if isDoubleDot segment then keptSegments file rest (ending (dropSegment file before))
    else if isSingleDot segment then keptSegments file rest (ending before)
    else keptSegments file rest (keptSegment file before.isEmpty segment :: before)

def pathOf (backslash file : Bool) (cs : List Char) : List Char :=
  (keptSegments file (splitSegments backslash cs) []).flatMap ('/' :: ·)

end MachineKeeper.Uri
