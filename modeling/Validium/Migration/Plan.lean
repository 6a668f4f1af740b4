import Validium.DataLayer.OfSettings
import Validium.Failure
import Validium.Migration.Basic

/-!
A migration as an operator asks for it, and the migrator made from it and from the settings
of a data layer.
-/
namespace Validium.Migration

structure Plan where
  rpcUrl : String
  contract : String
  firstBlock : UInt64
  lastBlock : UInt64
  committeeUrl : String
  submissionUrl : Option String
  submissionKey : Option String
  maxAttempts : UInt32
  timeoutMinutes : UInt64
  deriving DecidableEq, Repr

namespace Plan

variable {W : Type}

def layerFailure (e : DataLayer.Error) : Failure := ⟨e.message, e.causes⟩

/-- The archive that the settings give; a migration cannot do without. -/
def archive (around : Surroundings W) (s : Settings) : Except Failure (Store.Archive W) := do
  let layer ← (DataLayer.ofSettings around s none).mapError fun e =>
    (layerFailure e).under "failed to initialize fallback store"
  match layer.archive with
  | some m => return m
  | none =>
    throw (.ofMessage "no fallback store configured; set DA_S3_ENABLED or DA_FS_STORE_DIR")

def client (around : Surroundings W) (url context : String) : Except Failure (JsonRpc.Client W) :=
  (around.rpcClient url JsonRpc.Client.usualTimeout).mapError fun e =>
    (Failure.ofMessage e.message).under context

/-- The service to submit to; its address and its key come together. -/
def submission (around : Surroundings W) (p : Plan) :
    Except Failure (Option (RawSubmission.Client W)) :=
  match p.submissionUrl, p.submissionKey with
  | some url, some key =>
    ((RawSubmission.Client.new around.network url key).map some).mapError fun e =>
      .ofMessage e.message
  | none, none => .ok none
  | _, _ => .error (.ofMessage "--turbo-da-url and --turbo-da-api-key must be set together")

def migrator (p : Plan) (around : Surroundings W) (s : Settings) :
    Except Failure (Migrator W) := do
  let archive ← archive around s
  let rpc ← client around p.rpcUrl "invalid L1 RPC URL"
  let scanner ← (Rollup.Scanner.new rpc p.contract).mapError fun e => ⟨e.message, e.causes⟩
  let committee ← client around p.committeeUrl "invalid DAC URL"
  let submission ← p.submission around
  return {
    scanner, committee, submission, archive, clock := around.clock
    policy := .exponential (max 1 p.maxAttempts) (.ofSeconds 1) }

def checkRange (p : Plan) : Except Failure Unit :=
  if p.lastBlock < p.firstBlock then
    .error (.ofMessage
      s!"start block {p.firstBlock.toNat} is after end block {p.lastBlock.toNat}")
  else .ok ()

/-- The longest time the run may take; the product ends at the largest 64-bit number. -/
def timeout (p : Plan) : Duration :=
  .ofSeconds (UInt64.ofNat (min (p.timeoutMinutes.toNat * 60) (UInt64.size - 1)))

def prepare (p : Plan) (around : Surroundings W) (s : Settings) : Except Failure (Migrator W) := do
  p.checkRange
  p.migrator around s

end Plan

end Validium.Migration
