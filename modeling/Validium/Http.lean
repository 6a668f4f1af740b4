import Validium.Signal
import Validium.Url.Basic

/-!
Exchanges over the web: a request, and an answer with a status and a body, unless there is
no answer. The network itself belongs to the world.
-/
namespace Validium.Http

inductive Verb where
  | get
  | post
  deriving DecidableEq, Repr

structure Request where
  verb : Verb
  url : Url
  headers : List (String × String)
  body : Bytes
  timeout : Duration
  deriving DecidableEq

inductive Failure where
  /-- The request was never sent as it stands, or the connection failed. -/
  | unreachable
  | timedOut
  deriving DecidableEq, Repr

def Failure.message : Failure → String
  | .unreachable => "error sending request"
  | .timedOut => "operation timed out"

inductive Outcome where
  | failed (f : Failure)
  /-- The body is missing when it broke off before its announced end. -/
  | answered (status : Nat) (body : Option Bytes)
  deriving DecidableEq, Repr

def brokenBody : String := "error decoding response body"

def isSuccess (status : Nat) : Bool := 200 ≤ status && status < 300

end Validium.Http

namespace Validium

structure Network (W : Type) where
  exchange : Http.Request → StateM W Http.Outcome

end Validium
