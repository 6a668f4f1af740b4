import Validium.Json.Value

/-!
What a migration did, in counts.
-/
namespace Validium.Migration

structure Report where
  blocksScanned : Nat
  blocksFailed : Nat
  batchesFound : Nat
  batchesMigrated : Nat
  fetchFailures : Nat
  uploadFailures : Nat
  /-- Whether the run stopped before its last block was done. -/
  interrupted : Bool
  deriving DecidableEq, Repr

namespace Report

def empty : Report := ⟨0, 0, 0, 0, 0, 0, false⟩

/-- Whether nothing failed and nothing was left out. -/
def isClean (r : Report) : Bool :=
  !r.interrupted && r.blocksFailed == 0 && r.fetchFailures == 0 && r.uploadFailures == 0

def toJson (r : Report) : Json.Value :=
  .object [
    ("blocks_scanned", .ofNat r.blocksScanned), ("blocks_failed", .ofNat r.blocksFailed),
    ("batches_found", .ofNat r.batchesFound), ("batches_migrated", .ofNat r.batchesMigrated),
    ("fetch_failures", .ofNat r.fetchFailures), ("upload_failures", .ofNat r.uploadFailures),
    ("interrupted", .bool r.interrupted)]

end Report

end Validium.Migration
