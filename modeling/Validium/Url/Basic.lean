import Validium.Url.Host
import Validium.Url.Path

/-!
Network addresses. Reading one brings it to its usual form: scheme and host in lower case,
no port where it is the scheme's own, no points in the path, and what may not stand as it is
written by its bytes in hexadecimal. Without a scheme there is no address; the schemes of
the network need a host, files have one only on another machine, and other schemes may go
without or have any text behind the colon.
-/
namespace Validium

structure Url.Authority where
  /-- A user's name and what follows it, up to the sign before the host. -/
  user : List Char
  host : Url.Host
  port : Option Nat
  deriving DecidableEq, Repr

structure Url where
  scheme : List Char
  authority : Option Url.Authority
  path : List Char
  query : Option (List Char)
  fragment : Option (List Char)
  deriving DecidableEq, Repr

namespace Url

inductive Kind where
  | network (port : Nat)
  | file
  | other
  deriving DecidableEq, Repr

def kindOf (scheme : List Char) : Kind :=
  match String.ofList scheme with
  | "http" => .network 80
  | "https" => .network 443
  | "ws" => .network 80
  | "wss" => .network 443
  | "ftp" => .network 21
  | "file" => .file
  | _ => .other

def isSchemeChar (c : Char) : Bool :=
  c.isAlphanum || c == '+' || c == '-' || c == '.'

/-- The scheme in lower case and what follows its colon. -/
def scheme? (cs : List Char) : Option (List Char × List Char) :=
  let name := cs.takeWhile isSchemeChar
  match name, cs.dropWhile isSchemeChar with
  | c :: _, ':' :: rest => if c.isAlpha then some (name.map Char.toLower, rest) else none
  | _, _ => none

def isSlash (c : Char) : Bool := c == '/' || c == '\\'

/-- Backslashes count as slashes. -/
def withSlashes (cs : List Char) : List Char :=
  cs.map fun c => if c == '\\' then '/' else c

def readUser (cs : List Char) : List Char :=
  let (name, secret) := Text.cutFirst ':' cs
  let name := Percent.encode Percent.inUser name
  match secret with
  | some s => if s.isEmpty then name else name ++ ':' :: Percent.encode Percent.inUser s
  | none => name

/-- The host, which a colon outside brackets ends, and what follows. -/
def cutHost : Bool → List Char → List Char × List Char
  | _, [] => ([], [])
  | inside, c :: r =>
    if c = ':' && !inside then ([], c :: r)
    else
      let (host, rest) := cutHost (c = '[' || (inside && c ≠ ']')) r
      (c :: host, rest)

/-- A port without the colon before it. Zeros in front do not matter. -/
def readPort (usual : Option Nat) (digits : List Char) : Option (Option Nat) :=
  if digits.isEmpty then some none
  else
    match Host.valueOf 10 digits with
    | none => none
    | some n =>
      if 65536 ≤ n then none else if usual = some n then some none else some (some n)

/-- Host and port behind a user. A user or a port needs a host. -/
def readPlace (usual : Option Nat) (readHost : List Char → Option Host) (user place : List Char) :
    Option Authority := do
  let (host, rest) := cutHost false place
  let host ← readHost host
  match rest with
  | [] => if host.isEmpty && !user.isEmpty then none else some ⟨user, host, none⟩
  | _ :: digits =>
    let port ← readPort usual digits
    if host.isEmpty then none else some ⟨user, host, port⟩

/-- An authority: perhaps a user, the host as `readHost` takes it, perhaps a port. What
stands behind the authority is `rest`. -/
def readAuthority (usual : Option Nat) (readHost : List Char → Option Host)
    (authority rest : List Char) : Option Authority :=
  match Text.cutLast '@' authority with
  | none => readPlace usual readHost [] authority
  | some ([], place) =>
    if place.isEmpty && !rest.isEmpty then none else readPlace usual readHost [] place
  | some (user, place) => readPlace usual readHost (readUser user) place

/-- Authority and path on the network; slashes of both kinds count, in any number. -/
def readNetwork (port : Nat) (cs : List Char) : Option (Option Authority × List Char) := do
  let cs := (withSlashes cs).dropWhile isSlash
  let authority := cs.takeWhile (· != '/')
  let rest := cs.drop authority.length
  let place ← readAuthority (some port) Host.parse authority rest
  return (some place, Path.read (rest.drop 1))

def noHost : Authority := ⟨[], .name [], none⟩

def readMachine (cs : List Char) : Option Authority := do
  if cs.isEmpty then some noHost
  else
    let host ← Host.parse cs
    some (if host = .name "localhost".toList then noHost else ⟨[], host, none⟩)

/-- Machine and path of a file. A drive stands on this machine. -/
def readFile (cs : List Char) : Option (Option Authority × List Char) :=
  match withSlashes cs with
  | '/' :: '/' :: r =>
    let name := r.takeWhile (· != '/')
    if Path.isDrive name then some (some noHost, (Path.readFile r).2)
    else do
      let machine ← readMachine name
      let rest := r.drop name.length
      if machine.host.isEmpty then some (some noHost, (Path.readFile rest).2)
      else
        let (onDrive, path) := Path.readFile (rest.drop 1)
        some (some (if onDrive then noHost else machine), path)
  | r => some (some noHost, (Path.readFile r).2)

/-- Authority and path of any other address, where both may be missing. A backslash ends a
port and starts a path. -/
def readOther : List Char → Option (Option Authority × List Char)
  | '/' :: '/' :: r => do
    let authority := r.takeWhile (· != '/')
    let (authority, path) := splitPort authority (r.drop authority.length)
    let place ← readAuthority none Host.parseOpaque authority path
    match path with
    | [] => return (some place, [])
    | '/' :: body => return (some place, Path.read body)
    | body => return (some place, Path.read body)
  | '/' :: r => some (none, Path.read r)
  | r => some (none, Percent.encode [] r)
where
  /-- Moves what follows the digits of a port to the path. -/
  splitPort (authority path : List Char) : List Char × List Char :=
    let place := match Text.cutLast '@' authority with
      | some (_, place) => place
      | none => authority
    match (cutHost false place).2 with
    | [] => (authority, path)
    | _ :: port =>
      let extra := port.dropWhile Char.isDigit
      if extra.head? = some '\\' then
        (authority.take (authority.length - extra.length), extra ++ path)
      else (authority, path)

def isEdge (c : Char) : Bool := c.toNat ≤ 0x20

/-- The text without blanks at its ends, and without tabs and line ends anywhere. -/
def cleaned (text : String) : List Char :=
  let cs := ((text.toList.dropWhile isEdge).reverse.dropWhile isEdge).reverse
  cs.filter fun c => c != '\t' && c != '\n' && c != '\r'

def parse (text : String) : Option Url := do
  let (scheme, rest) ← scheme? (cleaned text)
  let (rest, fragment) := Text.cutFirst '#' rest
  let (rest, query) := Text.cutFirst '?' rest
  let (place, reserved) := match kindOf scheme with
    | .network port => (readNetwork port rest, Percent.inNetworkQuery)
    | .file => (readFile rest, Percent.inNetworkQuery)
    | .other => (readOther rest, Percent.inQuery)
  let (authority, path) ← place
  return {
    scheme, authority, path, query := query.map (Percent.encode reserved)
    fragment := fragment.map (Percent.encode Percent.inFragment) }

def target (u : Url) : String :=
  String.ofList (u.path ++ match u.query with
    | some q => '?' :: q
    | none => [])

def Authority.chars (a : Authority) : List Char :=
  (if a.user.isEmpty then [] else a.user ++ ['@']) ++ a.host.chars ++
    match a.port with
    | some n => ':' :: Host.decimalChars n
    | none => []

/-- The scheme and the server. Where there is none, a path that would look like one has a
point before it. -/
def origin (u : Url) : String :=
  String.ofList (u.scheme ++ ':' :: match u.authority with
    | some a => '/' :: '/' :: a.chars
    | none =>
      match u.path with
      | '/' :: '/' :: _ => ['/', '.']
      | _ => [])

def text (u : Url) : String :=
  u.origin ++ u.target ++ match u.fragment with
    | some f => String.ofList ('#' :: f)
    | none => ""

def isWeb (u : Url) : Bool :=
  u.scheme == "http".toList || u.scheme == "https".toList

end Url

end Validium
