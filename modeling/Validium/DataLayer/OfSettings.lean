import Validium.DataLayer.Basic
import Validium.Settings
import Validium.Store.FileSystem

/-!
Putting a data layer together from settings. The parts are made in a fixed order, and the
first that cannot be made is reported.
-/
namespace Validium

structure Surroundings (W : Type) where
  network : Network W
  clock : Clock W
  files : Part W Store.FileSystem

namespace Surroundings

variable {W : Type}

def rpcClient (s : Surroundings W) (url : String) (timeout : Duration) :
    Except Attestation.Error (JsonRpc.Client W) :=
  match Url.parse url with
  | some u => .ok ⟨s.network, u, timeout⟩
  | none => .error (.config (JsonRpc.Client.invalidUrl url))

end Surroundings

namespace Settings

def proofConfig (s : Settings) : ProofService.Config :=
  .new s.proofs.apiUrl s.proofs.retryCount (.ofSeconds s.proofs.waitSeconds)

end Settings

namespace DataLayer

variable {W : Type}

def proofsOf (around : Surroundings W) (s : Settings) :
    Except Error (Option (ProofService.Client W)) :=
  if s.proofs.enabled then
    ((ProofService.Client.new around.network around.clock s.proofConfig).map some).mapError
      .ofAttestation
  else .ok none

def attestationsOf (around : Surroundings W) (s : Settings) :
    Except Error (Option (Attestation.Reader W)) :=
  match s.rpcUrl, s.contract with
  | some url, some contract =>
    (do
      let client ← around.rpcClient url JsonRpc.Client.usualTimeout
      let reader ← Attestation.ContractReader.new client contract
      return some reader.reader : Except Attestation.Error _).mapError .ofAttestation
  | _, _ => .ok none

/-- A store in a directory. A bucket of an object service cannot be reached from here. -/
def archiveOf (around : Surroundings W) (s : Settings) : Except Error (Option (Store.Archive W)) :=
  if s.bucketEnabled then
    .error (.config "S3 fallback store requested but built without the \x60s3\x60 feature")
  else
    .ok (s.directory.map fun dir => ⟨Store.FileSystem.objects around.files dir, s.store⟩)

def ofSettings (around : Surroundings W) (s : Settings) (chain : Option (Chain W)) :
    Except Error (DataLayer W) := do
  let proofs ← proofsOf around s
  let attestations ← attestationsOf around s
  let archive ← archiveOf around s
  return { chain, proofs, attestations, archive }

end DataLayer

end Validium
