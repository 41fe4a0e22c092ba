import MachineKeeper.Uri.Address
import MachineKeeper.Uri.Percent
import MachineKeeper.Uri.Punycode

/-! Hosts in URIs. Under the schemes of the web a host is a domain name or an address; under any
other a host that stands in no brackets is kept as it is written. -/
namespace MachineKeeper

inductive UriError
  | noScheme
  | emptyHost
  | invalidPort
  | invalidIpv4
  | invalidIpv6
  | invalidHostCharacter
  | invalidDomain
deriving DecidableEq, Repr

def UriError.message : UriError → String
  | noScheme => "relative URL without a base"
  | emptyHost => "empty host"
  | invalidPort => "invalid port number"
  | invalidIpv4 => "invalid IPv4 address"
  | invalidIpv6 => "invalid IPv6 address"
  | invalidHostCharacter => "invalid domain character"
  | invalidDomain => "invalid international domain name"

namespace Uri

def bracketedHost (cs : List Char) : Except UriError String :=
  match cs.reverse with
  | ']' :: inner =>
    match ipv6? inner.reverse with
    | some text => .ok ("[" ++ text ++ "]")
    | none => .error .invalidIpv6
  | _ => .error .invalidIpv6

def isForbiddenInHost (c : Char) : Bool :=
  c ∈ ['\x00', '\t', '\n', '\r', ' ', '#', '/', ':', '<', '>', '?', '@', '[', '\\', ']', '^', '|']

def opaqueHost (cs : List Char) : Except UriError String :=
  if cs.head? = some '[' then bracketedHost (cs.drop 1)
  else if cs.any isForbiddenInHost then .error .invalidHostCharacter
  else .ok (String.ofList (percentEncode [] cs))

/-- Runs of capital letters whose small letters stand as many places behind them. -/
def capitalRuns : List (Nat × Nat × Nat) :=
  [(0x41, 0x5A, 32), (0xC0, 0xD6, 32), (0xD8, 0xDE, 32), (0x386, 0x386, 38), (0x388, 0x38A, 37),
    (0x38C, 0x38C, 64), (0x38E, 0x38F, 63), (0x391, 0x3A1, 32), (0x3A3, 0x3AB, 32),
    (0x400, 0x40F, 80), (0x410, 0x42F, 32), (0x531, 0x556, 48)]

/-- Runs in which capital and small letters take turns, the capital first. -/
def pairedRuns : List (Nat × Nat) :=
  [(0x100, 0x12F), (0x132, 0x137), (0x139, 0x148), (0x14A, 0x177), (0x179, 0x17E), (0x460, 0x481),
    (0x48A, 0x4BF), (0x4D0, 0x52F), (0x1E00, 0x1E95), (0x1EA0, 0x1EFF)]

def narrowed (c : Char) : Char :=
  if '\uff01' ≤ c && c ≤ '\uff5e' then Char.ofNat (c.toNat - 0xFEE0) else c

/-- Capital letters of Latin, Greek, Cyrillic and Armenian as small ones. -/
def lowered (c : Char) : Char :=
  let n := c.toNat
  match capitalRuns.find? fun (first, last, _) => first ≤ n && n ≤ last with
  | some (_, _, distance) => Char.ofNat (n + distance)
  | none =>
    match pairedRuns.find? fun (first, last) => first ≤ n && n ≤ last with
    | some (first, _) => if (n - first) % 2 = 0 then Char.ofNat (n + 1) else c
    | none => if c = 'ẞ' then 'ß' else c

/-- Full stops of other scripts divide labels like the plain one. -/
def isFullStop (c : Char) : Bool := c ∈ ['.', '\u3002', '\uff0e', '\uff61']

def isIgnoredInDomain (c : Char) : Bool :=
  c ∈ ['\u00ad', '\u200b', '\u2060', '\ufeff'] || ('\ufe00' ≤ c && c ≤ '\ufe0f')

def isForbiddenInDomain (c : Char) : Bool :=
  isForbiddenInHost c || c.toNat < 32 || c.toNat = 127 || c = '%'

def asciiLabel (label : List Char) : List Char :=
  if label.all fun c => c.toNat < 128 then label
  else ['x', 'n', '-', '-'] ++ Punycode.encode label

def asciiDomain? (cs : List Char) : Option (List Char) := do
  let text ← ofUtf8? (percentDecode cs)
  let name := (text.toList.filter fun c => !isIgnoredInDomain c).map fun c =>
    if isFullStop c then '.' else lowered (narrowed c)
  let labels := (splitAll '.' name).map asciiLabel
  let name := ['.'].intercalate labels
  if name.any isForbiddenInDomain then none else some name

def webHost (cs : List Char) : Except UriError String :=
  if cs.head? = some '[' then bracketedHost (cs.drop 1)
  else
    match asciiDomain? cs with
    | none => .error .invalidDomain
    | some [] => .error .emptyHost
    | some name =>
      if endsInNumber name then
        match ipv4? name with
        | some address => .ok address
        | none => .error .invalidIpv4
      else .ok (String.ofList name)

end Uri

end MachineKeeper
