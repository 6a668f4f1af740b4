import Validium.Json.Record
import Validium.Store.Archive
import Validium.Text.Blank
import Validium.Text.Numeral

/-!
The settings of a data layer, from a lookup of variables or from a JSON text. Variables
that are blank count as unset, except the head of object keys, which is taken as it is.
Both ways end in the same check that every feature in use has what it needs.
-/
namespace Validium

structure Settings.Proofs where
  enabled : Bool
  apiUrl : String
  retryCount : UInt32
  waitSeconds : UInt64
  deriving DecidableEq, Repr

structure Settings.Bucket where
  bucket : String
  region : String
  accessKey : Option String
  secretKey : Option String
  deriving DecidableEq, Repr

structure Settings where
  proofs : Settings.Proofs
  rpcUrl : Option String
  contract : Option String
  bucketEnabled : Bool
  bucket : Settings.Bucket
  directory : Option String
  store : Store.Policy
  deriving DecidableEq, Repr

namespace Settings

def Proofs.standard : Proofs := ⟨false, "", 10, 420⟩

def Bucket.none : Bucket := ⟨"", "", Option.none, Option.none⟩

def standard : Settings :=
  { proofs := .standard, rpcUrl := none, contract := none, bucketEnabled := false
    bucket := .none, directory := none, store := .standard }

namespace Bucket

/-- Both halves of the credentials, if neither is missing or empty. -/
def staticCredentials (b : Bucket) : Option (String × String) :=
  match b.accessKey, b.secretKey with
  | some access, some secret =>
    if access.isEmpty || secret.isEmpty then Option.none else some (access, secret)
  | _, _ => Option.none

def redacted : Option String → String
  | some _ => "Some([REDACTED])"
  | Option.none => "None"

/-- The bucket for a log, where credentials do not show. -/
def describe (b : Bucket) : String :=
  "S3Config \x7b bucket: " ++ Text.quoted b.bucket ++ ", region: " ++ Text.quoted b.region ++
    ", access_key: " ++ redacted b.accessKey ++ ", secret_key: " ++ redacted b.secretKey ++ " \x7d"

end Bucket

inductive Requirement where
  | apiUrl
  | contract
  | rpcUrl
  | bucket
  | region
  deriving DecidableEq, Repr

def Requirement.name : Requirement → String
  | .apiUrl => "bridge API URL (DA_BRIDGE_API_URL)"
  | .contract => "attestation contract (DA_ATTESTATION_CONTRACT)"
  | .rpcUrl => "L1 RPC URL (DA_L1_RPC_URL)"
  | .bucket => "S3 bucket (DA_S3_BUCKET)"
  | .region => "S3 region (DA_S3_REGION)"

inductive Error where
  | missing (setting : Requirement)
  | invalidValue (name value reason : String)
  | unreadable (path : String) (fault : Disk.Fault)
  | malformed (path : String)
  deriving DecidableEq, Repr

def malformedReason : String := "not a settings object"

def Error.message : Error → String
  | .missing setting => "missing required setting: " ++ setting.name
  | .invalidValue name value reason =>
    s!"invalid value {Text.quoted value} for {name}: {reason}"
  | .unreadable path fault => s!"cannot read config file {Text.quoted path}: " ++ fault.message
  | .malformed path => s!"cannot parse config file {Text.quoted path}: {malformedReason}"

def Error.causes : Error → List String
  | .unreadable _ fault => [fault.message]
  | .malformed _ => [malformedReason]
  | _ => []

/-- Whether every feature in use has the settings it needs; the first that is missing is
reported. -/
def validate (s : Settings) : Except Error Unit :=
  if s.proofs.enabled && s.proofs.apiUrl.isEmpty then .error (.missing .apiUrl)
  else if s.rpcUrl.isSome && s.contract.isNone then .error (.missing .contract)
  else if s.rpcUrl.isNone && s.contract.isSome then .error (.missing .rpcUrl)
  else if s.bucketEnabled && s.bucket.bucket.isEmpty then .error (.missing .bucket)
  else if s.bucketEnabled && s.bucket.region.isEmpty then .error (.missing .region)
  else .ok ()

def validated (s : Settings) : Except Error Settings := do
  s.validate
  return s

/-! From variables -/

def variableNames : List String := [
  "DA_BRIDGE_ENABLED", "DA_BRIDGE_API_URL", "DA_BRIDGE_RETRY_COUNT", "DA_BRIDGE_WAIT_SECS",
  "DA_L1_RPC_URL", "DA_ATTESTATION_CONTRACT", "DA_S3_ENABLED", "DA_S3_BUCKET", "DA_S3_REGION",
  "DA_S3_ACCESS_KEY", "DA_S3_SECRET_KEY", "DA_FS_STORE_DIR", "DA_S3_OBJECT_PREFIX",
  "DA_S3_CONCURRENCY", "DA_S3_DISCARD_AFTER_TIMEOUT"]

/-- A yes or no in one of four spellings each, in any case of ASCII letters. -/
def readFlag (text : String) : Except String Bool :=
  let folded := String.ofList (Text.foldCase text)
  if ["1", "true", "yes", "on"].contains folded then .ok true
  else if ["0", "false", "no", "off"].contains folded then .ok false
  else .error "expected a boolean"

def readNumber (width : Nat) (text : String) : Except String Nat :=
  (Text.decimal width text).mapError Text.NumeralError.message

/-- The value of a variable, unless it is blank. -/
def present (lookup : String → Option String) (name : String) : Option String :=
  (lookup name).filter fun v => !Text.isBlank v

def readVariable {α : Type} (lookup : String → Option String) (name : String)
    (read : String → Except String α) (otherwise : α) : Except Error α :=
  match present lookup name with
  | none => .ok otherwise
  | some raw => (read (Text.trim raw)).mapError (.invalidValue name raw)

/-- The settings that the variables spell, read in a fixed order. -/
def ofLookup (lookup : String → Option String) : Except Error Settings := do
  let enabled ← readVariable lookup "DA_BRIDGE_ENABLED" readFlag false
  let retryCount ← readVariable lookup "DA_BRIDGE_RETRY_COUNT" (readNumber 32)
    Proofs.standard.retryCount.toNat
  let waitSeconds ← readVariable lookup "DA_BRIDGE_WAIT_SECS" (readNumber 64)
    Proofs.standard.waitSeconds.toNat
  let bucketEnabled ← readVariable lookup "DA_S3_ENABLED" readFlag false
  let concurrency ← readVariable lookup "DA_S3_CONCURRENCY" (readNumber 64)
    Store.Policy.usualConcurrency.toNat
  let discard ← readVariable lookup "DA_S3_DISCARD_AFTER_TIMEOUT" readFlag false
  validated {
    proofs :=
      { enabled, apiUrl := (present lookup "DA_BRIDGE_API_URL").getD ""
        retryCount := UInt32.ofNat retryCount, waitSeconds := UInt64.ofNat waitSeconds }
    rpcUrl := present lookup "DA_L1_RPC_URL"
    contract := present lookup "DA_ATTESTATION_CONTRACT"
    bucketEnabled
    bucket :=
      { bucket := (present lookup "DA_S3_BUCKET").getD ""
        region := (present lookup "DA_S3_REGION").getD ""
        accessKey := present lookup "DA_S3_ACCESS_KEY"
        secretKey := present lookup "DA_S3_SECRET_KEY" }
    directory := present lookup "DA_FS_STORE_DIR"
    store :=
      { keyHead := (lookup "DA_S3_OBJECT_PREFIX").getD ""
        concurrency := UInt64.ofNat concurrency, discardAfterTimeout := discard } }

/-! From JSON -/

open Json (Tree)

def readProofs (t : Tree) : Option Proofs :=
  match Json.Record.fields? ["enabled", "api_url", "retry_count", "wait_secs"] t with
  | some [enabled, apiUrl, retryCount, waitSeconds] => do
    let enabled ← Json.Record.orElse false Json.Record.flag enabled
    let apiUrl ← Json.Record.orElse "" Json.Record.text apiUrl
    let retryCount ←
      Json.Record.orElse Proofs.standard.retryCount.toNat (Json.Record.unsigned 32) retryCount
    let waitSeconds ←
      Json.Record.orElse Proofs.standard.waitSeconds.toNat (Json.Record.unsigned 64) waitSeconds
    return ⟨enabled, apiUrl, UInt32.ofNat retryCount, UInt64.ofNat waitSeconds⟩
  | _ => none

def readBucket (t : Tree) : Option Bucket :=
  match Json.Record.fields? ["bucket", "region", "access_key", "secret_key"] t with
  | some [bucket, region, accessKey, secretKey] => do
    let bucket ← Json.Record.orElse "" Json.Record.text bucket
    let region ← Json.Record.orElse "" Json.Record.text region
    let accessKey ← Json.Record.nullable Json.Record.text accessKey
    let secretKey ← Json.Record.nullable Json.Record.text secretKey
    return ⟨bucket, region, accessKey, secretKey⟩
  | _ => none

def readStore (t : Tree) : Option Store.Policy :=
  match Json.Record.fields? ["object_prefix", "concurrency", "discard_after_timeout"] t with
  | some [keyHead, concurrency, discard] => do
    let keyHead ← Json.Record.orElse "" Json.Record.text keyHead
    let concurrency ← Json.Record.orElse Store.Policy.usualConcurrency.toNat
      (Json.Record.unsigned 64) concurrency
    let discard ← Json.Record.orElse false Json.Record.flag discard
    return ⟨keyHead, UInt64.ofNat concurrency, discard⟩
  | _ => none

/-- The settings that a JSON tree spells; what is missing takes its standard value. -/
def ofTree? (t : Tree) : Option Settings :=
  match Json.Record.fields? ["bridge", "l1_rpc_url", "attestation_contract", "s3_enabled", "s3",
    "fs_store_dir", "fallback"] t with
  | some [proofs, rpcUrl, contract, bucketEnabled, bucket, directory, store] => do
    let proofs ← Json.Record.orElse .standard readProofs proofs
    let rpcUrl ← Json.Record.nullable Json.Record.text rpcUrl
    let contract ← Json.Record.nullable Json.Record.text contract
    let bucketEnabled ← Json.Record.orElse false Json.Record.flag bucketEnabled
    let bucket ← Json.Record.orElse .none readBucket bucket
    let directory ← Json.Record.nullable Json.Record.text directory
    let store ← Json.Record.orElse .standard readStore store
    return ⟨proofs, rpcUrl, contract, bucketEnabled, bucket, directory, store⟩
  | _ => none

def ofFile (path : String) (content : Except Disk.Fault Bytes) : Except Error Settings :=
  match content with
  | .error fault => .error (.unreadable path fault)
  | .ok bytes =>
    match (Json.Tree.ofBytes? bytes).bind ofTree? with
    | none => .error (.malformed path)
    | some s => s.validated

end Settings

end Validium
