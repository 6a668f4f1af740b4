import Validium.JsonRpc.Error
import Validium.Json.Parser
import Validium.Text.Blank

/-!
Calling methods at an endpoint. A call is one request and is not repeated. An error that
the answer reports goes before its result.
-/
namespace Validium.JsonRpc

/-- The body of a call; its fields are in the order of their names. -/
def requestBody (method : String) (params : Json.Value) : Json.Value :=
  .object [("id", .ofNat 1), ("jsonrpc", .string "2.0"), ("method", .string method),
    ("params", params)]

def readAnswer (method : String) (body : Json.Value) : Except Error Json.Value :=
  match body.field? "error" with
  | some .null => result
  | none => result
  | some e =>
    let code := match e.field? "code" with
      | some (.number n) => n.signed?.getD 0
      | _ => 0
    let text := ((e.field? "message").bind Json.Value.text?).getD "unknown RPC error"
    .error (.remote method code text)
where
  result : Except Error Json.Value :=
    match body.field? "result" with
    | some v => .ok v
    | none => .error (.invalidResponse method .noResult)

def readOutcome (method : String) : Http.Outcome → Except Error Json.Value
  | .failed f => .error (.transport method f)
  | .answered status body =>
    if !Http.isSuccess status then .error (.status method status)
    else
      match body.bind Json.Value.ofBytes? with
      | none => .error (.invalidResponse method .notJson)
      | some v => readAnswer method v

/-- The bytes that a result spells after an optional `0x`. -/
def decodeHexResult (method : String) (v : Json.Value) : Except Error Bytes :=
  match v with
  | .string s =>
    let digits := match s.toList with
      | '0' :: 'x' :: r => String.ofList r
      | _ => s
    (Hex.decode (Bytes.ofText digits)).mapError fun e => .invalidResponse method (.badHex e)
  | v => .error (.invalidResponse method (.notHexText v))

def parseQuantity (method : String) (v : Json.Value) : Except Error UInt64 :=
  match v with
  | .string s =>
    match Text.numeral 16 UInt64.size (Text.dropAll ['0', 'x'] s.toList) with
    | .ok n => .ok (UInt64.ofNat n)
    | .error e => .error (.invalidResponse method (.badQuantity s e))
  | v => .error (.invalidResponse method (.notQuantity v))

/-- Whether a text is `0x` and forty hexadecimal digits. -/
def isAddress (text : String) : Bool :=
  match text.toList with
  | '0' :: 'x' :: digits => digits.length == 40 && digits.all fun c => (digitValue? c).isSome
  | _ => false
where
  digitValue? (c : Char) : Option Nat := Text.digitValue? 16 c

structure Client (W : Type) where
  network : Network W
  url : Url
  timeout : Duration

namespace Client

variable {W : Type}

def usualTimeout : Duration := .ofSeconds 30

def badUrl : String := "relative URL without a base"

def invalidUrl (url : String) : String :=
  s!"invalid RPC URL {Text.quoted url}: {badUrl}"

def request (c : Client W) (method : String) (params : Json.Value) : Http.Request :=
  { verb := .post, url := c.url, headers := [("content-type", "application/json")]
    body := Bytes.ofText (requestBody method params).compact, timeout := c.timeout }

def call (c : Client W) (method : String) (params : Json.Value) :
    StateM W (Except Error Json.Value) := do
  return readOutcome method (← c.network.exchange (c.request method params))

def contractCall (contract : String) (data : Bytes) : Json.Value :=
  .array [.object [("data", .string (Hex.encode0x data)), ("to", .string contract)],
    .string "latest"]

/-- What a contract returns for a call, at the latest block. -/
def callContract (c : Client W) (contract : String) (data : Bytes) :
    StateM W (Except Error Bytes) := do
  return (← c.call "eth_call" (contractCall contract data)) >>= decodeHexResult "eth_call"

end Client

end Validium.JsonRpc
