import Validium.Http
import Validium.Json.Value
import Validium.Text.Numeral
import Validium.Text.Quoted

/-!
Failures of one remote call.
-/
namespace Validium.JsonRpc

inductive Defect where
  /-- The body is no JSON text, or broke off. -/
  | notJson
  | noResult
  | notHexText (got : Json.Value)
  | badHex (e : Hex.Error)
  | notQuantity (got : Json.Value)
  | badQuantity (text : String) (e : Text.NumeralError)
  deriving BEq, Repr

def Defect.message : Defect → String
  | .notJson => "invalid JSON: error decoding response body"
  | .noResult => "missing 'result' field"
  | .notHexText got => "expected hex string, got " ++ got.compact
  | .badHex e => "invalid hex: " ++ e.message
  | .notQuantity got => "expected hex quantity, got " ++ got.compact
  | .badQuantity text e => s!"invalid quantity {Text.quoted text}: " ++ e.message

inductive Error where
  | transport (method : String) (f : Http.Failure)
  | status (method : String) (code : Nat)
  | invalidResponse (method : String) (d : Defect)
  /-- The other side reports an error. -/
  | remote (method : String) (code : Int) (text : String)
  deriving BEq, Repr

namespace Error

/-- A timeout has its own words; other failures are told by the network. -/
def failureText : Http.Failure → String
  | .timedOut => "request timed out"
  | f => f.message

def message : Error → String
  | .transport method f => s!"transport error calling {method}: " ++ failureText f
  | .status method code => s!"HTTP {code} calling {method}"
  | .invalidResponse method d => s!"invalid response to {method}: " ++ d.message
  | .remote method code text => s!"{method} failed with code {code}: {text}"

end Error

end Validium.JsonRpc
