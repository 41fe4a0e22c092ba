import MachineKeeper.Document.Mismatch
import MachineKeeper.Error

/-! Failures as they reach whoever started something: a cause with the contexts around it. -/
namespace MachineKeeper

inductive FileError
  | notFound
  | notDirectory
  | isDirectory
  | nameTooLong
  | containsNul
  | notText
  /-- The system gives a reason of its own. -/
  | unreadable (reason : String)
deriving DecidableEq, Repr

def FileError.message : FileError → String
  | notFound => "No such file or directory (os error 2)"
  | notDirectory => "Not a directory (os error 20)"
  | isDirectory => "Is a directory (os error 21)"
  | nameTooLong => "File name too long (os error 36)"
  | containsNul => "file name contained an unexpected NUL byte"
  | notText => "stream did not contain valid UTF-8"
  | unreadable reason => reason

inductive Failure
  | context (text : String) (cause : Failure)
  | error (cause : Error)
  | file (cause : FileError)
  | settings (cause : Document.ReadError)
  | manifest (cause : Document.ReadError)
  | unknownMachine (name : String)
  | secretNotFound (secret machine : String)
  | noConfigFile (path : String)
  | noBootstrapData (path : String)
  /-- The store, or whoever stands in its place, says what went wrong. -/
  | reported (chain : List String)
  /-- An operation on a thread of its own overflowed. -/
  | overflow
deriving DecidableEq, Repr

namespace Failure

/-- What is said of a failure and of each of its causes, outermost first. A text that is not well
formed is reported in its format's own words, which are not among these. -/
def chain : Failure → List String
  | context text cause => text :: cause.chain
  | error cause => cause.chain
  | file cause => [cause.message]
  | settings cause => cause.message?.toList
  | manifest cause => cause.locatedMessage?.toList
  | unknownMachine name => ["machine " ++ name ++ " not found"]
  | secretNotFound secret machine =>
    ["failed to retrieve bootstrap data secret '" ++ secret ++ "' for machine '" ++ machine ++ "'"]
  | noConfigFile path => ["config file " ++ path ++ " does not exist"]
  | noBootstrapData path =>
    ["manifest " ++ path ++ " has no bootstrap data to boot the machine with"]
  | reported chain => chain
  | overflow => ["<panic>"]

def message (f : Failure) : String := ": ".intercalate f.chain

def root : Failure → Failure
  | context _ cause => cause.root
  | failure => failure

end Failure

end MachineKeeper
