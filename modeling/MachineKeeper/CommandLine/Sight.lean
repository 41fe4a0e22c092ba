import MachineKeeper.CommandLine.Invocation
import MachineKeeper.Json.Basic
import MachineKeeper.Lifecycle

/-! Lines that commands print, and what can be seen of a machine from outside as such lines. -/
namespace MachineKeeper

inductive Line
  | info (text : String)
  | warning (text : String)
  | error (text : String)
  | plain (text : String)
deriving DecidableEq, Repr

namespace Line

/-- A text in bold and in a colour that terminals know by its number. -/
def painted (colour text : String) : String := "\x1b[1;" ++ colour ++ "m" ++ text ++ "\x1b[0m"

def text : Line → String
  | info text => painted "34" "███ " ++ text ++ "\n"
  | warning text => painted "33" "warning: " ++ text ++ "\n"
  | error text => painted "31" "error: " ++ text ++ "\n"
  | plain text => text ++ "\n"

def textOf (lines : List Line) : String := String.join (lines.map text)

end Line

structure Sight where
  name : String
  isDefined : Bool
  running : Bool
  addresses : List String
deriving DecidableEq, Repr

namespace Sight

/-- Looks at a machine as far as it is there, and at its addresses as far as it runs. -/
def of (name : String) : Action Error Sight := do
  if ← Lifecycle.isDefined name then
    if ← Lifecycle.isRunning name then
      return ⟨name, true, true, ← Lifecycle.addresses name⟩
    else
      return ⟨name, true, false, []⟩
  else
    return ⟨name, false, false, []⟩

def json (s : Sight) : Json := .object
  [("name", .string s.name), ("exists", .bool s.isDefined), ("running", .bool s.running),
    ("addresses", .array (s.addresses.map .string))]

def lines (s : Sight) : List Line :=
  let state := if s.running then "running" else "not running"
  if s.isDefined then
    .info s!"virtual machine '{s.name}' is {state}" ::
      s.addresses.map fun address => .info s!"address: {address}"
  else [.warning s!"virtual machine '{s.name}' does not exist"]

def print : StatusFormat → Sight → List Line
  | .text, s => s.lines
  | .json, s => [.plain s.json.pretty]

end Sight

end MachineKeeper
