import Validium.Attestation.Reader
import Validium.Chain.Basic
import Validium.Message.Kind
import Validium.Pool
import Validium.Store.Error

/-!
What can go wrong in posting and finding sequences.
-/
namespace Validium.DataLayer

inductive Missing where
  | chain
  | attestations
  | storeOrAttestations
  deriving DecidableEq, Repr

def Missing.name : Missing → String
  | .chain => "DA chain client"
  | .attestations => "attestation reader"
  | .storeOrAttestations => "fallback store or attestation reader"

inductive Error where
  | format (e : FormatError)
  | submission (e : Chain.Error)
  | attestationTimeout (blockHash : Hash) (index attempts : UInt32) (last : String)
  | attestationNotFound (leaf : Hash) (reason : String)
  | malformedProof (text : String)
  | retrieval (block : UInt32) (index : Nat) (kind : IndexKind) (e : Chain.Error)
  | store (e : Store.Error)
  | notConfigured (m : Missing)
  | config (text : String)
  | cancelled
  /-- The store is asked to do more at a time than there can be permits for. -/
  | overcommitted
  /-- The store breaks down in the operation itself, which tells nothing then. -/
  | brokeDown
  deriving DecidableEq, Repr

namespace Error

def message : Error → String
  | .format e => e.message
  | .submission e => "DA chain submission failed: " ++ e.message
  | .attestationTimeout blockHash index attempts last =>
    (Attestation.Error.timeout blockHash index attempts last).message
  | .attestationNotFound leaf reason => (Attestation.Error.notFound leaf reason).message
  | .malformedProof text => (Attestation.Error.malformedProof text).message
  | .retrieval block index kind e =>
    s!"cannot retrieve blob at {kind.title} {index} of block {block.toNat}: " ++ e.message
  | .store e => "fallback store: " ++ e.message
  | .notConfigured m => m.name ++ " is not configured"
  | .config text => "invalid backend configuration: " ++ text
  | .cancelled => Cancelled.message
  | .overcommitted => "store concurrency is beyond the greatest number of permits"
  | .brokeDown => "the store broke down"

def causes : Error → List String
  | .format e => e.causes
  | .submission e => [e.message]
  | .retrieval _ _ _ e => [e.message]
  | .store e => e.message :: e.causes
  | _ => []

def ofAttestation : Attestation.Error → Error
  | .timeout blockHash index attempts last => .attestationTimeout blockHash index attempts last
  | .notFound leaf reason => .attestationNotFound leaf reason
  | .malformedProof text => .malformedProof text
  | .config text => .config text
  | .cancelled => .cancelled

/-- A store's report of a cancellation is a cancellation. -/
def ofStore : Store.Error → Error
  | .fault .cancelled => .cancelled
  | e => .store e

def ofHalt : Pool.Halt → Error
  | .cancelled => .cancelled
  | .overcommitted => .overcommitted

end Error

end Validium.DataLayer
