import MachineKeeper.Host.Basic
import MachineKeeper.Machine.Record

/-! Everything that operations read and change: a host, the store of records, the secrets, the
faults that are still to come, and a log of what was asked of the host. -/
namespace MachineKeeper

inductive HostSite
  | connect
  | call (call : Call)
  | disconnect
deriving DecidableEq, Repr

inductive StoreSite
  | get
  | patchStatus
  | removeFinalizer
  | secret
deriving DecidableEq, Repr

/-- Something that happens just before a call to come: the host is changed, and with an error the
call fails and goes no further. -/
structure Fault (Site Error : Type) where
  site : Site
  /-- The call at which the fault fires; 1 is the next one at its site. -/
  countdown : Nat
  error? : Option Error
  changes : List Change
deriving Repr

namespace Fault

variable {Site Error : Type} [DecidableEq Site]

def due (site : Site) (faults : List (Fault Site Error)) : List (Fault Site Error) :=
  faults.filter fun f => f.site = site && f.countdown ≤ 1

def remaining (site : Site) (faults : List (Fault Site Error)) : List (Fault Site Error) :=
  (faults.filter fun f => !(f.site = site && f.countdown ≤ 1)).map fun f =>
    if f.site = site then { f with countdown := f.countdown - 1 } else f

/-- Lets faults happen in order, up to the first with an error; those behind it are lost. -/
def fire : List (Fault Site Error) → Host → Outcome Error Unit × Host
  | [], host => (.done (), host)
  | f :: rest, host =>
    match host.changes f.changes with
    | (.done (), host) =>
      match f.error? with
      | some error => (.failed error, host)
      | none => fire rest host
    | (.failed error, host) => (.failed error, host)
    | (.overflow, host) => (.overflow, host)

end Fault

inductive Event
  | connect (accepted : Bool)
  /-- A request with its outcome; one that a fault stopped has not reached the host. -/
  | request (request : Request) (reached : Bool) (outcome : Outcome HostError request.Reply)
  | disconnect

structure World where
  host : Host
  records : Table Record
  secrets : Table (Table String)
  hostFaults : List (Fault HostSite HostError)
  storeFaults : List (Fault StoreSite String)
  /-- The latest event comes first. -/
  log : List Event

namespace World

def initial : World := ⟨.initial, ∅, ∅, [], [], []⟩

instance : Inhabited World := ⟨initial⟩

end World

/-- The kinds of the requests that reached the host, earliest first. -/
def Event.callsOf (log : List Event) : List Call :=
  log.reverse.filterMap fun
    | .request asked true _ => some asked.call
    | _ => none

end MachineKeeper
