import MachineKeeper.Duration.Reader
import MachineKeeper.Duration.Units
import MachineKeeper.Bytes
import MachineKeeper.Machine.Spec
import MachineKeeper.Machine.Record
import MachineKeeper.Table
import MachineKeeper.CloudInit
import MachineKeeper.Host.Descriptor
import MachineKeeper.Error
import MachineKeeper.Host.Basic
import MachineKeeper.Action
import MachineKeeper.Lifecycle
import MachineKeeper.Reconcile
import MachineKeeper.Document.Mismatch
import MachineKeeper.Document.Node
import MachineKeeper.Document.Reader
import MachineKeeper.Decimal.Binary64
import MachineKeeper.Json.Basic
import MachineKeeper.Json.Reader
import MachineKeeper.Failure
import MachineKeeper.Machine.Json
import MachineKeeper.Decimal.Number
import MachineKeeper.Toml.Date
import MachineKeeper.Written
import MachineKeeper.Endpoint
import MachineKeeper.CommandLine.Arguments
import MachineKeeper.CommandLine.Invocation
import MachineKeeper.CommandLine.Sight
import MachineKeeper.CommandLine.Run
import MachineKeeper.Main
import MachineKeeper.Proofs.Action
import MachineKeeper.Proofs.Host
import MachineKeeper.Proofs.Session
import MachineKeeper.Proofs.Lifecycle
import MachineKeeper.Proofs.Store
import MachineKeeper.Proofs.Reconcile
import MachineKeeper.Proofs.Deletion
import MachineKeeper.Proofs.Drift
import MachineKeeper.Proofs.Calls
import MachineKeeper.Proofs.Calm
import MachineKeeper.Proofs.Iso
import MachineKeeper.Proofs.Volumes
import MachineKeeper.Proofs.Recreation
import MachineKeeper.Proofs.Rules
import MachineKeeper.Iso.Reader
import MachineKeeper.Proofs.IsoReader
import MachineKeeper.Proofs.Release
import MachineKeeper.Proofs.Retry
import MachineKeeper.Proofs.Ways
import MachineKeeper.Proofs.Presence
import MachineKeeper.Proofs.Remnants
import MachineKeeper.Proofs.Holding
import MachineKeeper.Proofs.Wholeness
import MachineKeeper.Proofs.Standing
import MachineKeeper.Proofs.Restraint
import MachineKeeper.Proofs.Coherence
import MachineKeeper.Proofs.Readiness
import MachineKeeper.Proofs.Convergence
import MachineKeeper.Proofs.Coupling
import MachineKeeper.Proofs.LevelTriggered
import MachineKeeper.Proofs.Isolation
import MachineKeeper.Proofs.BootstrapGate
import MachineKeeper.Proofs.Relocation
import MachineKeeper.Proofs.JsonText
import MachineKeeper.Proofs.JsonRecord
import MachineKeeper.Proofs.StoredForm
import MachineKeeper.Proofs.DurationText
import MachineKeeper.Proofs.SettingsForm
import MachineKeeper.Proofs.Connections
import MachineKeeper.Proofs.ConnectionRuns
import MachineKeeper.Proofs.Matching
import MachineKeeper.Proofs.Agreement
import MachineKeeper.Proofs.Teardown
import MachineKeeper.Proofs.Furnishing
import MachineKeeper.Proofs.Precedence
import MachineKeeper.Proofs.Report
import MachineKeeper.Proofs.Destruction
import MachineKeeper.Proofs.Undoing
import MachineKeeper.Proofs.Interleaving
import MachineKeeper.Proofs.SeedImage
import MachineKeeper.Iso.Buffer
import MachineKeeper.Proofs.IsoOrder
import MachineKeeper.Proofs.IsoBuffer
import MachineKeeper.Proofs.IsoLayout
import MachineKeeper.Proofs.IsoAcceptance
import MachineKeeper.Xml.Reader
import MachineKeeper.Host.DescriptorReader
import MachineKeeper.Proofs.XmlText
import MachineKeeper.Proofs.DescriptorText
import MachineKeeper.Proofs.Locality
import MachineKeeper.Proofs.Stalling
import MachineKeeper.Text.Split
import MachineKeeper.Proofs.MetaData
