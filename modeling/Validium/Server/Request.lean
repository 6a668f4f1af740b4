import Validium.Json.Record
import Validium.Server.Error

/-!
Requests and responses of remote calls. A call is checked against the table of methods
before anything is looked up for it.
-/
namespace Validium.Server

structure Request where
  version : Option String
  method : String
  params : Json.Value
  id : Json.Value
  deriving BEq, Repr

namespace Request

/-- Any value may stand for these fields; a missing one counts as null. -/
def anyValue : Option Json.Tree → Option Json.Value
  | none => some .null
  | some t => t.toValue?

open Json.Record in
def ofTree? (t : Json.Tree) : Option Request :=
  match fields? ["jsonrpc", "method", "params", "id"] t with
  | some [version, method, params, id] => do
    let version ← nullable text version
    let method ← required text method
    let params ← anyValue params
    let id ← anyValue id
    return ⟨version, method, params, id⟩
  | _ => none

def ofValue? (v : Json.Value) : Option Request := ofTree? (Json.Tree.ofValue v)

end Request

inductive Call where
  | offChainData (hash : Hash)
  deriving DecidableEq, Repr

namespace Call

def methods : List (String × Nat) := [("sync_getOffChainData", 1)]

def name : Call → String
  | .offChainData _ => "sync_getOffChainData"

/-- The parameters of a call; null stands for none. -/
def arguments : Json.Value → Except Error (List Json.Value)
  | .array items => .ok items
  | .null => .ok []
  | _ => .error (.invalidParams "params must be an array")

def hashArgument : Json.Value → Except Error Hash
  | .string s => (Word.parse s).mapError fun e => .invalidParams ("invalid hash: " ++ e.message)
  | _ => .error (.invalidParams "hash must be a string")

def parse (method : String) (params : Json.Value) : Except Error Call :=
  match methods.lookup method with
  | none => .error (.methodNotFound method)
  | some arity => do
    let items ← arguments params
    if items.length ≠ arity then
      throw (.invalidParams s!"{method} expects {arity} parameter(s), got {items.length}")
    match items with
    | [v] => return .offChainData (← hashArgument v)
    | _ => throw (.methodNotFound method)

end Call

structure Response where
  outcome : Except Error Json.Value
  id : Json.Value

namespace Response

def errorObject (e : Error) : Json.Value :=
  .object [("code", .number (.int e.code)), ("message", .string e.message)]

/-- The response as it is sent: its version, then the result or the error, then the id. -/
def toJson (r : Response) : Json.Value :=
  .object [("jsonrpc", .string "2.0"),
    (match r.outcome with
      | .ok v => ("result", v)
      | .error e => ("error", errorObject e)),
    ("id", r.id)]

end Response

end Validium.Server
