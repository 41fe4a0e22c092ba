import MachineKeeper.CommandLine.Arguments

/-! The commands, and how they are asked for. -/
namespace MachineKeeper

inductive StatusFormat
  | text
  | json
deriving DecidableEq, Repr

inductive Command
  | create (manifest : String)
  | delete (pool? : Option String) (name : String)
  | status (format : StatusFormat) (name : String)
  | reconcile (watch delete : Bool) (manifest : String)
deriving DecidableEq, Repr

def Command.manifest? : Command → Option String
  | create path | reconcile _ _ path => some path
  | delete _ _ | status _ _ => none

structure Invocation where
  settings? : Option String
  command : Command
deriving DecidableEq, Repr

namespace Invocation

open CommandLine

def sharedOptions : List Parameter := [⟨"config", some 'c', .path⟩, ⟨"help", some 'h', .help⟩]

def manifestArgument : Parameter := ⟨"manifest", none, .path⟩

def nameArgument : Parameter := ⟨"name", none, .text⟩

def commandNames : List String := ["create", "delete", "status", "reconcile", "help"]

def form : Form := ⟨sharedOptions, none, commandNames⟩

def createForm : Form := ⟨sharedOptions, some manifestArgument, []⟩

def deleteForm : Form :=
  ⟨⟨"storage-pool", some 'p', .text⟩ :: sharedOptions, some nameArgument, []⟩

def statusForm : Form :=
  ⟨⟨"output", some 'o', .oneOf ["text", "json"]⟩ :: sharedOptions, some nameArgument, []⟩

def reconcileForm : Form :=
  ⟨[⟨"watch", some 'w', .nothing⟩, ⟨"delete", none, .nothing⟩] ++ sharedOptions,
    some manifestArgument, []⟩

/-- What asking for help on `topics` comes to. No command has commands below it. -/
def helpOn : List String → UsageError
  | [] => .help
  | topic :: rest =>
    if commandNames.contains topic then
      match rest with
      | [] => .help
      | below :: _ => .unknownCommand below
    else .unknownCommand topic

def ofCommand (name : String) (arguments : List String) : Except UsageError Invocation := do
  match name with
  | "create" =>
    let p ← createForm.read arguments
    return ⟨p.value? "config", .create (← p.required "manifest")⟩
  | "delete" =>
    let p ← deleteForm.read arguments
    return ⟨p.value? "config", .delete (p.value? "storage-pool") (← p.required "name")⟩
  | "status" =>
    let p ← statusForm.read arguments
    let format := if p.value? "output" = some "json" then .json else .text
    return ⟨p.value? "config", .status format (← p.required "name")⟩
  | "reconcile" =>
    let p ← reconcileForm.read arguments
    return ⟨p.value? "config",
      .reconcile (p.has "watch") (p.has "delete") (← p.required "manifest")⟩
  | _ => .error (helpOn arguments)

/-- What the arguments of the program ask for. An option behind the command is preferred to the same
one before it. -/
def ofArguments (arguments : List String) : Except UsageError Invocation := do
  match ← Progress.start.takeAll form arguments with
  | (p, some (name, rest)) =>
    let invocation ← ofCommand name rest
    let p ← p.settle
    return { invocation with settings? := invocation.settings?.or (p.value? "config") }
  | (p, none) =>
    let p ← p.settle
    .error (if p.settled.isEmpty then .nothingGiven else .noCommand)

end Invocation

end MachineKeeper
