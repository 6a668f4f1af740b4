import Validium.DataLayer.Basic
import Validium.Server.Request
import Validium.Server.Target

/-!
Answering requests: remote calls at one path, and at another whether the store can be used.
Every request body gets a response, with the id of the request as far as it can be read. Where
the store breaks down its request goes with it, and the response that stands for it here is not
sent.
-/
namespace Validium.Server

variable {W : Type}

def execute (layer : DataLayer W) : Call → StateM W (Except Error Json.Value)
  | .offChainData hash => do
    match ← (layer.offChainData Signal.never hash).run with
    | .ok data => return .ok (.string (Hex.encode0x data))
    | .error e => return .error (.lookup e)

def idOf (v : Json.Value) : Json.Value := (v.field? "id").getD .null

def answer (layer : DataLayer W) (r : Request) : StateM W Response := do
  match r.version with
  | some version =>
    if version ≠ "2.0" then
      return ⟨.error (.invalidRequest (.unsupportedVersion version)), r.id⟩
    else call r
  | none => call r
where
  call (r : Request) : StateM W Response := do
    match Call.parse r.method r.params with
    | .error e => return ⟨.error e, r.id⟩
    | .ok c => return ⟨← execute layer c, r.id⟩

def handle (layer : DataLayer W) (body : Bytes) : StateM W Response := do
  match Json.Value.ofBytes? body with
  | none => return ⟨.error .parse, .null⟩
  | some v =>
    match Request.ofValue? v with
    | none => return ⟨.error (.invalidRequest .notARequest), idOf v⟩
    | some r => answer layer r

structure Reply where
  status : Nat
  body : String
  deriving DecidableEq, Repr

def health (layer : DataLayer W) : StateM W Reply := do
  match layer.archive with
  | none => return ⟨200, "OK"⟩
  | some archive =>
    match ← archive.health with
    | .ok () => return ⟨200, "OK"⟩
    | .error fault => return ⟨503, "fallback store unavailable: " ++ fault.message⟩

/-- Sends a request where it belongs. What is no target has status 400, a path that is not
served has 404, and a verb that a path does not take has 405. -/
def route (layer : DataLayer W) (verb target : String) (body : Bytes) : StateM W Reply := do
  match Target.path? target with
  | none => return ⟨400, ""⟩
  | some "/rpc" =>
    if verb = "POST" then return ⟨200, (← handle layer body).toJson.compact⟩
    else return ⟨405, ""⟩
  | some "/health" =>
    if verb = "GET" then health layer
    else if verb = "HEAD" then return ⟨(← health layer).status, ""⟩
    else return ⟨405, ""⟩
  | some _ => return ⟨404, ""⟩

end Validium.Server
