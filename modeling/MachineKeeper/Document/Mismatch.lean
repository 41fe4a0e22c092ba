import MachineKeeper.Duration.Basic

/-! Why a document, although well formed, does not hold what is expected of it. -/
namespace MachineKeeper.Document

inductive Mismatch
  | invalidType (found expected : String)
  | invalidValue (found expected : String)
  | invalidLength (length : Nat) (expected : String)
  | missingField (name : String)
  | duplicateField (name : String)
  | unknownVariant (name : String) (variants : List String)
  | duration (cause : DurationError)
deriving DecidableEq, Repr

namespace Mismatch

def quoted (name : String) : String := "`" ++ name ++ "`"

def oneOf : List String → String
  | [] => "there are no variants"
  | [a] => "expected " ++ quoted a
  | [a, b] => "expected " ++ quoted a ++ " or " ++ quoted b
  | variants => "expected one of " ++ ", ".intercalate (variants.map quoted)

def message : Mismatch → String
  | invalidType found expected => "invalid type: " ++ found ++ ", expected " ++ expected
  | invalidValue found expected => "invalid value: " ++ found ++ ", expected " ++ expected
  | invalidLength length expected =>
    "invalid length " ++ toString length ++ ", expected " ++ expected
  | missingField name => "missing field " ++ quoted name
  | duplicateField name => "duplicate field " ++ quoted name
  | unknownVariant name variants => "unknown variant " ++ quoted name ++ ", " ++ oneOf variants
  | duration cause => cause.message

end Mismatch

/-- Where in a document something stands: the names of fields, outermost first. -/
abbrev Path := List String

inductive ReadError
  | malformed
  | mismatch (path : Path) (cause : Mismatch)
  /-- Concerns the value of a field, but is told of the record around it. -/
  | outer (cause : Mismatch)
  /-- A length of time overflows where sums are unchecked. -/
  | overflow
deriving DecidableEq, Repr

def ReadError.within (name : String) : ReadError → ReadError
  | mismatch path cause => mismatch (name :: path) cause
  | outer cause => mismatch [] cause
  | error => error

/-- The message, without where in the document it belongs; a malformed text has none. -/
def ReadError.message? : ReadError → Option String
  | mismatch _ cause | outer cause => some cause.message
  | _ => none

/-- The message with the path to what it is about in front, unless that is the whole document. -/
def ReadError.locatedMessage? : ReadError → Option String
  | mismatch [] cause | outer cause => some cause.message
  | mismatch path cause => some (".".intercalate path ++ ": " ++ cause.message)
  | _ => none

end MachineKeeper.Document
