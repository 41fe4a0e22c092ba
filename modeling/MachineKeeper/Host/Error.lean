import MachineKeeper.Host.Request

/-! Why a host turns a request down. -/
namespace MachineKeeper

inductive ObjectKind
  | domain
  | storagePool
  | storageVolume
deriving DecidableEq, Repr

def ObjectKind.text : ObjectKind → String
  | domain => "domain"
  | storagePool => "storage pool"
  | storageVolume => "storage volume"

/-- Why a call failed although what it names is there. -/
inductive Refusal
  | injected (call : Call)
  | alreadyRunning (domain : String)
  | notRunning (domain : String)
  | exceedsCapacity (size : Nat) (volume : String)
  | other (text : String)
deriving DecidableEq, Repr

def Refusal.message : Refusal → String
  | injected call => call.text ++ " failed (injected)"
  | alreadyRunning domain => "domain '" ++ domain ++ "' is already running"
  | notRunning domain => "domain '" ++ domain ++ "' is not running"
  | exceedsCapacity size volume =>
    "upload of " ++ toString size ++ " bytes exceeds capacity of volume '" ++ volume ++ "'"
  | other text => text

inductive HostError
  | notFound (kind : ObjectKind) (name : String)
  | alreadyExists (kind : ObjectKind) (name : String)
  | call (refusal : Refusal)
deriving DecidableEq, Repr

namespace HostError

def message : HostError → String
  | notFound kind name => kind.text ++ " '" ++ name ++ "' not found"
  | alreadyExists kind name => kind.text ++ " '" ++ name ++ "' already exists"
  | call refusal => refusal.message

def isNotFound : HostError → Bool
  | notFound _ _ => true
  | _ => false

end HostError

end MachineKeeper
