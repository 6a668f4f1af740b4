import Validium.Failure
import Validium.Message.Basic
import Validium.Rollup.SequenceCall

/-!
Showing messages and sequencing calls as JSON. The message inside a call is shown decoded,
or as the reason why it cannot be.
-/
namespace Validium.Inspection

def ofFormatError (e : FormatError) : Failure := ⟨e.message, e.causes⟩

def envelope (data : Bytes) : Except Failure Json.Value :=
  match Message.decode data with
  | .ok m => .ok m.toJson
  | .error e => .error ((ofFormatError e).under "invalid DA message envelope")

def decodedMessage (data : Bytes) : Json.Value :=
  match Message.decode data with
  | .ok m => m.toJson
  | .error e => .object [("error", .string e.message)]

def calldata (data : Bytes) : Except Failure Json.Value :=
  match Rollup.SequenceCall.decode data with
  | .ok c =>
    .ok (Json.Value.ofFields (c.toFields ++ [("decodedMessage", decodedMessage c.message)]))
  | .error e => .error ⟨e.message, e.causes⟩

end Validium.Inspection
