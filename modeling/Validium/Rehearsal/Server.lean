import Validium.Http

/-!
Servers that answer from a script, one turn for each request, and keep what they were
asked. When the script is used up every answer is an error without a body.
-/
namespace Validium.Rehearsal

inductive Reaction where
  | answer (status : Nat) (body : Bytes)
  /-- An answer that breaks off before its announced end. -/
  | broken (status : Nat)
  /-- The connection is closed without an answer. -/
  | hangUp
  /-- The request is never answered. -/
  | silence
  deriving DecidableEq, Repr

structure Turn where
  reaction : Reaction
  /-- Whether the signal fires before the server reacts. -/
  fires : Bool
  deriving DecidableEq, Repr

namespace Turn

def usedUp : Turn := ⟨.answer 500 [], false⟩

end Turn

namespace Reaction

def isBodiless (status : Nat) : Bool := status == 101 || status == 204 || status == 304

/-- Whether a status ends an exchange. It has three digits, and below 200 all but a change of
protocols only announce an answer, which a script does not have. -/
def isFinal (status : Nat) : Bool := status == 101 || (200 ≤ status && status < 1000)

def answered (status : Nat) (body : Option Bytes) : Http.Outcome :=
  if !isFinal status then .failed .unreachable
  else .answered status (if isBodiless status then some [] else body)

def outcome : Reaction → Http.Outcome
  | .answer status body => answered status (some body)
  | .broken status => answered status none
  | .hangUp => .failed .unreachable
  | .silence => .failed .timedOut

end Reaction

structure Server where
  address : Url
  script : List Turn
  /-- The requests so far, in order. -/
  log : List Http.Request
  deriving DecidableEq

namespace Server

def new (address : Url) (script : List Turn) : Server := ⟨address, script, []⟩

def sameHost (a b : Url) : Bool :=
  a.scheme == b.scheme &&
    match a.authority, b.authority with
    | some x, some y => x.host == y.host && x.port == y.port
    | _, _ => false

def receive (s : Server) (r : Http.Request) : Turn × Server :=
  (s.script.head?.getD .usedUp, { s with script := s.script.tail, log := s.log ++ [r] })

/-- The server at an address takes a request; without one there is no turn. -/
def deliver (r : Http.Request) : List Server → Option Turn × List Server
  | [] => (none, [])
  | s :: rest =>
    if sameHost s.address r.url then
      let (turn, s) := s.receive r
      (some turn, s :: rest)
    else
      let (turn, rest) := deliver r rest
      (turn, s :: rest)

end Server

end Validium.Rehearsal
