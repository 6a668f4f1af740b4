import Validium.Keccak

/-!
The first four bytes of a call name the function by the digest of its signature.
-/
namespace Validium.Abi

def selector (signature : String) : Bytes :=
  (keccak (Bytes.ofText signature)).bytes.take 4

end Validium.Abi
