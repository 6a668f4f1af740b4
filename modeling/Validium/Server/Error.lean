import Validium.DataLayer.Error
import Validium.Text.Quoted

/-!
Failures of a request to the server, each with its code.
-/
namespace Validium.Server

inductive RequestDefect where
  | notARequest
  | unsupportedVersion (version : String)
  deriving DecidableEq, Repr

def RequestDefect.message : RequestDefect → String
  | .notARequest => "not a request object"
  | .unsupportedVersion version => "unsupported jsonrpc version " ++ Text.quoted version

inductive Error where
  | parse
  | invalidRequest (d : RequestDefect)
  | methodNotFound (method : String)
  | invalidParams (reason : String)
  | lookup (e : DataLayer.Error)
  deriving DecidableEq, Repr

namespace Error

def code : Error → Int
  | .parse => -32700
  | .invalidRequest _ => -32600
  | .methodNotFound _ => -32601
  | .invalidParams _ => -32602
  | .lookup _ => -32000

def message : Error → String
  | .parse => "Parse error: not a JSON text"
  | .invalidRequest d => "Invalid request: " ++ d.message
  | .methodNotFound method => "Method not found: " ++ method
  | .invalidParams reason => "Invalid params: " ++ reason
  | .lookup e => "failed to retrieve the data from off-chain DA: " ++ e.message

end Error

end Validium.Server
