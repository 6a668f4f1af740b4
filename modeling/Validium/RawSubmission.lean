import Validium.Http
import Validium.JsonRpc.Client
import Validium.Text.Utf8

/-!
Submitting raw data to a data availability service, under a key that says who pays.
-/
namespace Validium.RawSubmission

inductive Error where
  | config (text : String)
  | transport (text : String)
  | status (code : Nat) (body : String)
  deriving DecidableEq, Repr

def Error.message : Error → String
  | .config text => "invalid Turbo-DA configuration: " ++ text
  | .transport text => "Turbo-DA request failed: " ++ text
  | .status code body => s!"Turbo-DA returned HTTP {code}: {body}"

structure Client (W : Type) where
  network : Network W
  endpoint : Url
  apiKey : String

namespace Client

variable {W : Type}

def endpointOf (url : String) : Except Error Url :=
  match Url.parse url with
  | none => .error (.config s!"invalid URL {Text.quoted url}: {JsonRpc.Client.badUrl}")
  | some base =>
    match Url.parse (Text.dropTrailing '/' base.text ++ "/v1/submit_raw_data") with
    | none => .error (.config JsonRpc.Client.badUrl)
    | some endpoint => .ok endpoint

def new (network : Network W) (url apiKey : String) : Except Error (Client W) := do
  return ⟨network, ← endpointOf url, apiKey⟩

/-- Whether a key can stand in a header: of controls it has only tabs. -/
def isHeaderText (key : String) : Bool :=
  key.toList.all fun c => (0x20 ≤ c.toNat && c.toNat ≠ 0x7f) || c == '\t'

def request (c : Client W) (data : Bytes) : Http.Request :=
  { verb := .post, url := c.endpoint
    headers := [("content-type", "application/octet-stream"), ("x-api-key", c.apiKey)]
    body := data, timeout := .ofSeconds 60 }

def readOutcome : Http.Outcome → Except Error Bytes
  | .failed f => .error (.transport f.message)
  | .answered _ none => .error (.transport Http.brokenBody)
  | .answered status (some body) =>
    if Http.isSuccess status then .ok body
    else .error (.status status (String.ofList (Text.Utf8.decodeLossy body)))

def submit (c : Client W) (data : Bytes) : StateM W (Except Error Bytes) := do
  if isHeaderText c.apiKey then return readOutcome (← c.network.exchange (c.request data))
  else return .error (.transport "builder error")

end Client

end Validium.RawSubmission
