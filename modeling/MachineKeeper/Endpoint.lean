import MachineKeeper.Error
import MachineKeeper.Table
import MachineKeeper.Text.Split
import MachineKeeper.Uri.Host
import MachineKeeper.Uri.Path

/-! URIs, and which of them the environment tells to connect to. URIs are read as standards for the web
describe it: what can be mended is mended, and parts are kept in the form in which they are written again. -/
namespace MachineKeeper

structure Uri where
  scheme : String
  /-- Whether there is a place for a host, though it may be empty. -/
  authority : Bool
  username : String
  password? : Option String
  host? : Option String
  port? : Option Nat
  path : String
  query? : Option String
  fragment? : Option String
deriving DecidableEq, Repr

namespace Uri

def userinfoText (u : Uri) : String :=
  match u.password? with
  | some password => u.username ++ ":" ++ password ++ "@"
  | none => if u.username = "" then "" else u.username ++ "@"

def portText (u : Uri) : String :=
  match u.port? with
  | some port => ":" ++ toString port
  | none => ""

/-- What stands between the scheme and the path. A path that begins like an authority is kept from
being read as one. -/
def authorityText (u : Uri) : String :=
  if u.authority then "//" ++ u.userinfoText ++ u.host?.getD "" ++ u.portText
  else if u.path.startsWith "//" then "/."
  else ""

def marked (mark : String) : Option String → String
  | some text => mark ++ text
  | none => ""

def text (u : Uri) : String :=
  u.scheme ++ ":" ++ u.authorityText ++ u.path ++ marked "?" u.query? ++ marked "#" u.fragment?

def defaultPort? (scheme : String) : Option Nat :=
  [("http", 80), ("ws", 80), ("https", 443), ("wss", 443), ("ftp", 21)].lookup scheme

def isSpecial (scheme : String) : Bool := scheme = "file" || (defaultPort? scheme).isSome

def isSchemeChar (c : Char) : Bool := c.isAlphanum || c = '+' || c = '-' || c = '.'

def scheme? (cs : List Char) : Option (String × List Char) :=
  match cs.span isSchemeChar with
  | (first :: more, ':' :: rest) =>
    if first.isAlpha then some (String.ofList (loweredAscii (first :: more)), rest) else none
  | _ => none

/-- Splits at the first colon that stands in no brackets. -/
def splitPort (bracketed : Bool) : List Char → List Char × Option (List Char)
  | [] => ([], none)
  | c :: rest =>
    if c = ':' && !bracketed then ([], some rest)
    else
      let bracketed := if c = '[' then true else if c = ']' then false else bracketed
      let (host, port) := splitPort bracketed rest
      (c :: host, port)

/-- A user and a password; an empty password counts as none. -/
def userinfo (cs : List Char) : String × Option String :=
  let encode (part : List Char) : String := String.ofList (percentEncode reservedInUserinfo part)
  match cs.span (· ≠ ':') with
  | (user, _ :: password) =>
    (encode user, if password.isEmpty then none else some (encode password))
  | (user, []) => (encode user, none)

/-- A port, and what is left behind it, which is part of the path. -/
def port (scheme : String) (cs : List Char) : Except UriError (Option Nat × List Char) := do
  let (digits, rest) := cs.span Char.isDigit
  let n := Decimal.ofDigits 10 digits
  if n ≥ UInt16.size then throw .invalidPort
  if rest.head?.any (· ≠ '\\') then throw .invalidPort
  return (if digits.isEmpty || some n = defaultPort? scheme then none else some n, rest)

def splitTail (cs : List Char) : List Char × Option (List Char) × Option (List Char) :=
  let (front, fragment) := splitFirst (· = '#') cs
  let (path, query) := splitFirst (· = '?') front
  (path, query, fragment)

def queryText (scheme : String) (cs : List Char) : String :=
  let reserved := if isSpecial scheme then reservedInQuery ++ ['\''] else reservedInQuery
  String.ofList (percentEncode reserved cs)

def fragmentText (cs : List Char) : String := String.ofList (percentEncode reservedInFragment cs)

def withTail (u : Uri) (query fragment : Option (List Char)) : Uri :=
  { u with query? := query.map (queryText u.scheme), fragment? := fragment.map fragmentText }

/-- The path behind an authority. One that is not empty begins with a slash; under the schemes of
the web it is not empty. -/
def pathText (scheme : String) (cs : List Char) : String :=
  let special := isSpecial scheme
  let inner : Option (List Char) := match cs with
    | [] => if special then some [] else none
    | c :: rest => some (if c = '/' || (special && c = '\\') then rest else cs)
  String.ofList ((inner.map (pathOf special (scheme = "file"))).getD [])

def blank (scheme : String) : Uri := ⟨scheme, false, "", none, none, none, "", none, none⟩

def ofAuthority (scheme : String) (cs : List Char) : Except UriError Uri := do
  let special := isSpecial scheme
  let (front, query, fragment) := splitTail cs
  let (authority, path) := front.span fun c => c ≠ '/' && !(special && c = '\\')
  let ((username, password?), address) := match splitLast '@' authority with
    | some (user, address) => (userinfo user, address)
    | none => (("", none), authority)
  if authority = ['@'] && (!path.isEmpty || query.isSome || fragment.isSome) then throw .emptyHost
  let (hostChars, portChars) := splitPort false address
  if hostChars.isEmpty && (special || portChars.isSome) then throw .emptyHost
  let host ← if special then webHost hostChars else opaqueHost hostChars
  if host = "" && (username ≠ "" || password?.isSome) then throw .emptyHost
  let (port?, rest) ← port scheme (portChars.getD [])
  let u : Uri :=
    { blank scheme with
      authority := true, username, password?, port?
      host? := if host = "" then none else some host
      path := pathText scheme (rest ++ path) }
  return u.withTail query fragment

def isSlash (c : Char) : Bool := c = '/' || c = '\\'

/-- Reads the host and the path of a file. The local host goes without saying. -/
def ofFile (cs : List Char) : Except UriError Uri := do
  let (front, query, fragment) := splitTail cs
  let (hostChars, path) : List Char × List Char := match front with
    | a :: b :: rest =>
      if isSlash a && isSlash b then
        let (host, path) := rest.span fun c => !isSlash c
        if isDrive host then ([], rest) else (host, path)
      else ([], front)
    | front => ([], front)
  let host ← if hostChars.isEmpty then .ok "" else webHost hostChars
  let path := path.dropWhile isSlash
  let kept := (keptSegments true (splitSegments true path) []).flatMap ('/' :: ·)
  let u : Uri :=
    { blank "file" with
      authority := true
      host? := if host = "" || host = "localhost" then none else some host
      path := String.ofList ('/' :: kept.dropWhile (· = '/')) }
  return u.withTail query fragment

def ofPath (scheme : String) (cs : List Char) : Uri :=
  let (front, query, fragment) := splitTail cs
  let path := match front with
    | '/' :: rest => pathOf false false rest
    | front => percentEncode [] front
  { blank scheme with path := String.ofList path }.withTail query fragment

def isEdge (c : Char) : Bool := c.toNat ≤ 32

def isDropped (c : Char) : Bool := c = '\t' || c = '\n' || c = '\r'

/-- Reads a URI. Controls and blanks around it are dropped, and so are line ends and tabs in it. -/
def ofText (text : String) : Except UriError Uri :=
  let trimmed := ((text.toList.dropWhile isEdge).reverse.dropWhile isEdge).reverse
  match scheme? (trimmed.filter fun c => !isDropped c) with
  | none => .error .noScheme
  | some (scheme, rest) =>
    if scheme = "file" then ofFile rest
    else if isSpecial scheme then ofAuthority scheme (rest.dropWhile isSlash)
    else
      match rest with
      | '/' :: '/' :: rest => ofAuthority scheme rest
      | rest => .ok (ofPath scheme rest)

end Uri

namespace Endpoint

/-- The variables that may name the host; one with a text that is not blank counts, the first of
them first. -/
def hostVariables : List String := ["LIBVIRT_URI", "LIBVIRT_DEFAULT_URI"]

def isNamed (text : String) : Bool := text.toList.any fun c => !isBlank c

def ofEnvironment (environment : Table String) : Except Error Uri :=
  match (hostVariables.filterMap (environment[·]?)).find? isNamed with
  | none => .error (.configuration .unset)
  | some text =>
    (Uri.ofText (String.ofList (trimBlanks text.toList))).mapError fun cause =>
      .configuration (.invalid text cause)

end Endpoint

end MachineKeeper
