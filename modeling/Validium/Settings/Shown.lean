import Validium.DataLayer.OfSettings
import Validium.Json.Value

/-!
Settings as a JSON value, with what follows from them: how the proof service is asked, how
many items are worked on at a time, and what of the credentials can be used. Numbers of 64
bits are written as texts.
-/
namespace Validium.Settings

open Json (Value)

def shownText : Option String → Value
  | some s => .string s
  | none => .null

def shownNumber (n : Nat) : Value := .string (toString n)

namespace Bucket

def shownCredentials : Option (String × String) → Value
  | some (access, secret) => .array [.string access, .string secret]
  | Option.none => .null

def toJson (b : Bucket) : Value :=
  .ofFields [
    ("bucket", .string b.bucket), ("region", .string b.region),
    ("access_key", shownText b.accessKey), ("secret_key", shownText b.secretKey),
    ("static_credentials", shownCredentials b.staticCredentials)]

end Bucket

def Proofs.toJson (p : Proofs) : Value :=
  .ofFields [
    ("enabled", .bool p.enabled), ("api_url", .string p.apiUrl),
    ("retry_count", .ofNat p.retryCount.toNat), ("wait_secs", shownNumber p.waitSeconds.toNat)]

def proofConfigJson (c : ProofService.Config) : Value :=
  .ofFields [
    ("api_url", .string c.apiUrl), ("retry_count", .ofNat c.retryCount.toNat),
    ("wait_secs", shownNumber c.waitInterval.seconds.toNat),
    ("timeout_secs", .ofNat c.requestTimeout.seconds.toNat)]

def policyJson (p : Store.Policy) : Value :=
  .ofFields [
    ("object_prefix", .string p.keyHead), ("concurrency", shownNumber p.concurrency.toNat),
    ("effective_concurrency", shownNumber p.effectiveConcurrency.toNat),
    ("discard_after_timeout", .bool p.discardAfterTimeout)]

def toJson (s : Settings) : Value :=
  .ofFields [
    ("bridge", s.proofs.toJson), ("client", proofConfigJson s.proofConfig),
    ("l1_rpc_url", shownText s.rpcUrl), ("attestation_contract", shownText s.contract),
    ("s3_enabled", .bool s.bucketEnabled), ("s3", s.bucket.toJson),
    ("s3_debug", .string s.bucket.describe), ("fs_store_dir", shownText s.directory),
    ("fallback", policyJson s.store)]

end Validium.Settings
