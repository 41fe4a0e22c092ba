import MachineKeeper.Machine.Spec
import MachineKeeper.Settings
import MachineKeeper.Table

/-! A machine as an operator writes it down. -/
namespace MachineKeeper

/-- Bootstrap data in a manifest, of the same shape as a bootstrap secret. -/
structure BootstrapEntry where
  value : String
  format : Option String
deriving DecidableEq, Repr

def BootstrapEntry.secretData (b : BootstrapEntry) : Table String :=
  let data := (∅ : Table String).insert "value" b.value
  match b.format with
  | some format => data.insert "format" format
  | none => data

structure Manifest where
  name : String
  network : Option String
  storagePool : Option String
  cpu : UInt32
  memory : UInt64
  diskSize : UInt64
  backingImagePath : String
  backingImageFormat : Option String
  bootstrap : Option BootstrapEntry
deriving DecidableEq, Repr

namespace Manifest

/-- The specification without cloud-config, which is found out separately. -/
def spec (m : Manifest) (defaults : Defaults) : Spec where
  name := m.name
  network := m.network.getD defaults.network
  storagePool := m.storagePool.getD defaults.storagePool
  cpu := m.cpu
  memory := m.memory
  diskSize := m.diskSize
  backingImagePath := m.backingImagePath
  backingImageFormat := m.backingImageFormat.getD defaults.backingImageFormat
  userData := ""

def secretName (m : Manifest) : String := m.name ++ "-bootstrap"

end Manifest

end MachineKeeper
