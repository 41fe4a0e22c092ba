import MachineKeeper.Action
import MachineKeeper.Error

/-! Connections to the host. One is opened for a single operation and closed when it is over;
nothing is held in between. -/
namespace MachineKeeper.Session

variable {α : Type}

/-- Lets the faults that wait for a call at `site` happen. -/
def meetFaults (site : HostSite) : Action HostError Unit := fun w =>
  match Fault.fire (Fault.due site w.hostFaults) w.host with
  | (outcome, host) =>
    (outcome, { w with host, hostFaults := Fault.remaining site w.hostFaults })

def note (event : Event) (w : World) : World := { w with log := event :: w.log }

def connect : Action Error Unit := fun w =>
  match meetFaults .connect w with
  | (.failed e, w) => (.failed (.connection e.message), note (.connect false) w)
  | (.overflow, w) => (.overflow, note (.connect false) w)
  | (.done (), w) =>
    if w.host.refusesConnections then
      (.failed (.connection "connection refused"), note (.connect false) w)
    else
      let host := { w.host with
        connections := w.host.connections + 1, openConnections := w.host.openConnections + 1 }
      (.done (), note (.connect true) { w with host })

def send (request : Request) : Action HostError request.Reply := fun w =>
  match meetFaults (.call request.call) w with
  | (.failed e, w) => (.failed e, note (.request request false (.failed e)) w)
  | (.overflow, w) => (.overflow, note (.request request false .overflow) w)
  | (.done (), w) =>
    match w.host.serve request with
    | (outcome, host) => (outcome, note (.request request true outcome) { w with host })

/-- Closes the connection. Where that fails the host is not told, so it stays open there. -/
def disconnect : Action HostError Unit := fun w =>
  match meetFaults .disconnect w with
  | (.done (), w) =>
    let host := { w.host with openConnections := w.host.openConnections - 1 }
    (.done (), note .disconnect { w with host })
  | (outcome, w) => (outcome, note .disconnect w)

/-- Runs `body` over a connection of its own. It is closed whether or not `body` fails, and a
failure to close it is not reported; only an overflow leaves it open. -/
def connected (body : Action Error α) : Action Error α := do
  connect
  let result ← body.attempt
  let _ ← disconnect.attempt
  .ofExcept result

def ask (context : String) (request : Request) : Action Error request.Reply :=
  (send request).mapError (.host context)

end MachineKeeper.Session
