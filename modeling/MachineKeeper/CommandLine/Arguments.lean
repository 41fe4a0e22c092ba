import MachineKeeper.Text.Split

/-! Reading the arguments of a command: options, which stand anywhere before a double dash, at most
one plain argument, and the commands below it. An option's value stands behind it, either in the
same argument or in the next one; its parameter is settled when the next one begins. -/
namespace MachineKeeper

inductive UsageError
  | help
  | nothingGiven
  | noCommand
  | unknownCommand (name : String)
  | unknownArgument (argument : String)
  | missingArgument (parameter : String)
  | missingValue (parameter : String)
  | invalidValue (parameter value : String)
  | unneededValue (parameter value : String)
  | repeated (parameter : String)
deriving DecidableEq, Repr

namespace UsageError

def exitCode : UsageError → Nat
  | help => 0
  | _ => 2

def message : UsageError → String
  | help | nothingGiven =>
    "usage: provisioner [--config PATH] create|delete|status|reconcile|help ..."
  | noCommand => "a command is required"
  | unknownCommand name => s!"unknown command '{name}'"
  | unknownArgument argument => s!"unexpected argument '{argument}'"
  | missingArgument parameter => s!"argument '{parameter}' is required"
  | missingValue parameter => s!"a value is required for '{parameter}'"
  | invalidValue parameter value => s!"invalid value '{value}' for '{parameter}'"
  | unneededValue parameter value => s!"unexpected value '{value}' for '{parameter}'"
  | repeated parameter => s!"'{parameter}' cannot be used more than once"

end UsageError

namespace CommandLine

inductive Takes
  | nothing
  | help
  | text
  | path
  | oneOf (words : List String)
deriving DecidableEq, Repr

namespace Takes

def isValue : Takes → Bool
  | nothing | help => false
  | _ => true

def accepts : Takes → String → Bool
  | path, value => value ≠ ""
  | oneOf words, value => words.contains value
  | _, _ => true

end Takes

structure Parameter where
  name : String
  short? : Option Char
  takes : Takes
deriving DecidableEq, Repr

structure Form where
  options : List Parameter
  argument? : Option Parameter
  commands : List String

structure Progress where
  /-- The settled parameters with their values; the value of a flag is empty. -/
  settled : List (String × String)
  /-- The parameter that is not settled yet, with its value as soon as there is one. -/
  pending? : Option (Parameter × Option String)
  argumentRead : Bool
  optionsOver : Bool

namespace Progress

def start : Progress := ⟨[], none, false, false⟩

def value? (p : Progress) (name : String) : Option String := p.settled.lookup name

def has (p : Progress) (name : String) : Bool := (p.value? name).isSome

def required (p : Progress) (name : String) : Except UsageError String :=
  match p.value? name with
  | some value => .ok value
  | none => .error (.missingArgument name)

/-- Settles a parameter, which may be given once and with a value that it accepts. -/
def settleAs (p : Progress) (parameter : Parameter) (value : String) : Except UsageError Progress :=
  if p.has parameter.name then .error (.repeated parameter.name)
  else if parameter.takes.accepts value then
    .ok { p with settled := (parameter.name, value) :: p.settled }
  else .error (.invalidValue parameter.name value)

def settle (p : Progress) : Except UsageError Progress :=
  match p.pending? with
  | none => .ok p
  | some (parameter, none) => .error (.missingValue parameter.name)
  | some (parameter, some value) => { p with pending? := none }.settleAs parameter value

def awaitsValue (p : Progress) : Bool := p.pending?.any fun (_, value?) => value?.isNone

def takeFlag (p : Progress) (flag : Parameter) : Except UsageError Progress := do
  let p ← p.settle
  match flag.takes with
  | .help => .error .help
  | _ => p.settleAs flag ""

def takeOption (p : Progress) (option : Parameter) (value? : Option String) :
    Except UsageError Progress := do
  let p ← p.settle
  match value? with
  | some value => p.settleAs option value
  | none => .ok { p with pending? := some (option, none) }

/-- Takes an option by its name. A value may be joined on with an equals sign. -/
def takeLong (form : Form) (p : Progress) (cs : List Char) : Except UsageError Progress :=
  let (name, value?) := splitFirst (· = '=') cs
  let name := String.ofList name
  let value? := value?.map String.ofList
  match form.options.find? fun option => option.name = name with
  | none => .error (.unknownArgument ("--" ++ name))
  | some option =>
    if option.takes.isValue then p.takeOption option value?
    else match value? with
      | some value => .error (.unneededValue name value)
      | none => p.takeFlag option

/-- Takes a row of options by their letters. What stands behind the first that has a value is the
value; an equals sign between them counts for nothing. -/
def takeShort (form : Form) (p : Progress) : List Char → Except UsageError Progress
  | [] => .ok p
  | c :: rest =>
    match form.options.find? fun option => option.short? = some c with
    | none => .error (.unknownArgument (String.ofList ['-', c]))
    | some option =>
      if option.takes.isValue then
        p.takeOption option <| match rest with
          | [] => none
          | '=' :: value => some (String.ofList value)
          | value => some (String.ofList value)
      else do takeShort form (← p.takeFlag option) rest

def takePlain (form : Form) (p : Progress) (argument : String) : Except UsageError Progress :=
  match form.argument?, p.argumentRead with
  | some parameter, false => do
    let p ← p.settle
    .ok { p with pending? := some (parameter, some argument), argumentRead := true }
  | _, _ =>
    if form.commands.isEmpty || p.optionsOver && form.commands.contains argument then
      .error (.unknownArgument argument)
    else .error (.unknownCommand argument)

def take (form : Form) (p : Progress) (argument : String) : Except UsageError Progress :=
  if p.optionsOver then p.takePlain form argument
  else match argument.toList with
    | ['-', '-'] => .ok { p with optionsOver := true }
    | '-' :: '-' :: name => p.takeLong form name
    | '-' :: letter :: more => p.takeShort form (letter :: more)
    | _ =>
      match p.pending? with
      | some (parameter, none) => .ok { p with pending? := some (parameter, some argument) }
      | _ => p.takePlain form argument

/-- Takes arguments up to the first that is a command, which is returned with those behind it. -/
def takeAll (form : Form) (p : Progress) :
    List String → Except UsageError (Progress × Option (String × List String))
  | [] => .ok (p, none)
  | argument :: rest =>
    if !p.optionsOver && !p.awaitsValue && form.commands.contains argument then
      .ok (p, some (argument, rest))
    else do takeAll form (← p.take form argument) rest

end Progress

def Form.read (form : Form) (arguments : List String) : Except UsageError Progress := do
  let (p, _) ← Progress.start.takeAll form arguments
  p.settle

end CommandLine

end MachineKeeper
