import Validium.JsonRpc.Client
import Validium.Keccak

/-!
Asking a node of the data availability committee for the data behind a hash. What it serves
is compared with the hash.
-/
namespace Validium.Committee

def method : String := "sync_getOffChainData"

inductive Error where
  | rpc (e : JsonRpc.Error)
  | mismatch (expected actual : Hash)
  deriving BEq, Repr

namespace Error

def message : Error → String
  | .rpc e => e.message
  | .mismatch expected actual => s!"DAC returned data hashing to {actual.text} for {expected.text}"

/-- A failed call may go well another time; wrong content stays wrong. -/
def isRetryable : Error → Bool
  | .rpc _ => true
  | .mismatch .. => false

end Error

def params (hash : Hash) : Json.Value := .array [.string hash.text]

def readResult (hash : Hash) (result : Except JsonRpc.Error Json.Value) : Except Error Bytes :=
  match result >>= JsonRpc.decodeHexResult method with
  | .error e => .error (.rpc e)
  | .ok data =>
    let actual := keccak data
    if actual = hash then .ok data else .error (.mismatch hash actual)

variable {W : Type}

def fetch (client : JsonRpc.Client W) (hash : Hash) : StateM W (Except Error Bytes) := do
  return readResult hash (← client.call method (params hash))

end Validium.Committee
