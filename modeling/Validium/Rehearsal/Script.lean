import Validium.Json.Parser
import Validium.Rehearsal.Server
import Validium.Text.Blank

/-!
Scripts and request logs in JSON. An entry of a script names the status and the body of an
answer, or says what happens in its place; a call's answer can be given by its result or
its error alone.
-/
namespace Validium.Rehearsal

open Json (Value)

def callBody (name : String) (v : Value) : Bytes :=
  Bytes.ofText (Value.ofFields [
    ("jsonrpc", .string "2.0"), ("id", .ofNat 1), (name, v)]).compact

namespace Turn

def bodyOfValue (v : Value) : Bytes :=
  match v.field? "result", v.field? "rpc_error", v.field? "json" with
  | some r, _, _ => callBody "result" r
  | _, some e, _ => callBody "error" e
  | _, _, some j => Bytes.ofText j.compact
  | _, _, _ => Bytes.ofText (((v.field? "body").bind Value.text?).getD "")

def isSet (v : Value) (name : String) : Bool := v.field? name == some (.bool true)

def statusOfValue (v : Value) : Nat :=
  match v.field? "status" with
  | some (.number (.int n)) => n.toNat
  | some (.string digits) => digits.toNat?.getD 200
  | _ => 200

def reactionOfValue (v : Value) : Reaction :=
  if isSet v "drop" then .hangUp
  else if isSet v "hang" || isSet v "signal" then .silence
  else if isSet v "truncate" then .broken (statusOfValue v)
  else .answer (statusOfValue v) (bodyOfValue v)

def ofValue (v : Value) : Turn :=
  ⟨reactionOfValue v, isSet v "cancel" || isSet v "signal"⟩

end Turn

namespace Server

def verbText : Http.Verb → String
  | .get => "GET"
  | .post => "POST"

/-- What a log tells of a body: its type, its key and its bytes, or the JSON it holds. White
space around a key is no part of it. -/
def bodyFields (r : Http.Request) : List (String × Value) :=
  match r.headers.lookup "x-api-key" with
  | some key => [
      ("content_type", .string ((r.headers.lookup "content-type").getD "")),
      ("api_key", .string (Text.trim key)), ("body", .string (Hex.encode r.body))]
  | none => [("body", (Value.ofBytes? r.body).getD .null)]

def requestJson (r : Http.Request) : Value :=
  Value.ofFields ([("method", .string (verbText r.verb)), ("path", .string r.url.target)] ++
    if r.verb = .get then [] else bodyFields r)

end Server

end Validium.Rehearsal
