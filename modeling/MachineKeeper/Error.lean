import MachineKeeper.Host.Error
import MachineKeeper.Iso.Image
import MachineKeeper.Uri.Host

/-! Why an operation on a machine fails. -/
namespace MachineKeeper

inductive EndpointError
  | unset
  | invalid (text : String) (cause : UriError)
deriving DecidableEq, Repr

def EndpointError.message : EndpointError → String
  | unset => "LIBVIRT_URI or LIBVIRT_DEFAULT_URI environment variable must be set in order to " ++
      "connect to libvirt"
  | invalid text cause => "failed to parse libvirt URI '" ++ text ++ "': " ++ cause.message

inductive Error
  | configuration (cause : EndpointError)
  | invalidName (name : String) (length limit : Nat)
  | connection (reason : String)
  /-- The host turned a request down; the context says what it was for. -/
  | host (context : String) (cause : HostError)
  | create (name : String) (cause : Error)
  | uploadMismatch (volume : String) (expected actual : Nat)
  | unsupportedFormat (format : String)
  | missingValue (secret : String)
  | notRunning (name : String)
  | seedImage (cause : Iso.Error)
deriving DecidableEq, Repr

namespace Error

def message : Error → String
  | configuration cause => "configuration error: " ++ cause.message
  | invalidName name length limit =>
    "VM name '" ++ name ++ "' is too long (" ++ toString length ++ " characters); must be " ++
      toString limit ++ " characters or less"
  | connection reason => "failed to connect to libvirt: " ++ reason
  | host context cause => context ++ ": " ++ cause.message
  | create name cause => "failed to create virtual machine '" ++ name ++ "': " ++ cause.message
  | uploadMismatch volume expected actual =>
    "storage volume '" ++ volume ++ "' content does not match uploaded data (" ++
      toString expected ++ " bytes uploaded, " ++ toString actual ++ " bytes read back)"
  | unsupportedFormat format => "unsupported bootstrap data format: " ++ format
  | missingValue secret => "bootstrap data secret '" ++ secret ++ "' is missing the 'value' key"
  | notRunning name => "VM '" ++ name ++ "' is not running"
  | seedImage cause => "failed to build cloud-init image: " ++ cause.message

/-- The step that failed, when the error is one of creating a machine. -/
def root : Error → Error
  | create _ cause => cause.root
  | error => error

/-- The messages of the error and of its causes, outermost first. -/
def chain : Error → List String
  | host context cause => [(host context cause).message, cause.message]
  | create name cause => (create name cause).message :: cause.chain
  | error => [error.message]

end Error

end MachineKeeper
