import Validium.Attestation.Reader
import Validium.ProofService.Answer
import Validium.Retry

/-!
Asking the proof service for the proof of a submission until it has one. No answer and any
status but 200 mean that the proof is not ready; a 200 without a proof ends the asking.
-/
namespace Validium.ProofService

structure Config where
  apiUrl : String
  retryCount : UInt32
  waitInterval : Duration
  requestTimeout : Duration
  deriving DecidableEq

def Config.new (apiUrl : String) (retryCount : UInt32) (waitInterval : Duration) : Config :=
  ⟨apiUrl, retryCount, waitInterval, .ofSeconds 30⟩

inductive FetchError where
  | transport (f : Http.Failure)
  | status (code : Nat)
  | body
  | parse
  deriving DecidableEq, Repr

namespace FetchError

def message : FetchError → String
  | .transport f => "transport error: " ++ f.message
  | .status code => s!"HTTP {code}"
  | .body => "cannot read body: " ++ Http.brokenBody
  | .parse => "cannot parse proof: not a proof object"

/-- Whether the proof may come with another request. -/
def isRetryable : FetchError → Bool
  | .transport _ => true
  | .status _ => true
  | _ => false

end FetchError

structure Client (W : Type) where
  network : Network W
  clock : Clock W
  baseUrl : String
  policy : Retry.Policy
  timeout : Duration

namespace Client

variable {W : Type}

def invalidUrl (url : String) : String :=
  s!"invalid bridge API URL {Text.quoted url}: {JsonRpc.Client.badUrl}"

def new (network : Network W) (clock : Clock W) (c : Config) :
    Except Attestation.Error (Client W) :=
  match Url.parse c.apiUrl with
  | none => .error (.config (invalidUrl c.apiUrl))
  | some _ =>
    .ok {
      network, clock, baseUrl := Text.dropTrailing '/' c.apiUrl
      policy := .fixed c.retryCount c.waitInterval, timeout := c.requestTimeout }

def proofUrl (c : Client W) (blockHash : Hash) (index : UInt32) : String :=
  s!"{c.baseUrl}/eth/proof/{blockHash.text}?index={index.toNat}"

def readOutcome : Http.Outcome → Except FetchError Answer
  | .failed f => .error (.transport f)
  | .answered status body =>
    if status ≠ 200 then .error (.status status)
    else
      match body with
      | none => .error .body
      | some b =>
        match Answer.ofBytes? b with
        | none => .error .parse
        | some a => .ok a

def fetchOnce (c : Client W) (url : String) : StateM W (Except FetchError Answer) := do
  match Url.parse url with
  | none => return .error (.transport .unreachable)
  | some url =>
    return readOutcome (← c.network.exchange ⟨.get, url, [], [], c.timeout⟩)

def conclude (blockHash : Hash) (index : UInt32) :
    Except (Retry.Error FetchError) Answer → Except Attestation.Error Message.InclusionProof
  | .ok a => .ok a.proof
  | .error .cancelled => .error .cancelled
  | .error (.exhausted attempts last) => .error (.timeout blockHash index attempts last.message)
  | .error (.fatal _ e) => .error (.malformedProof e.message)

/-- Asks until the proof is served. A request under way is finished even when the signal
fires. -/
def fetchProof (c : Client W) (signal : Signal W) (blockHash : Hash) (index : UInt32) :
    StateM W (Except Attestation.Error Message.InclusionProof) := do
  let url := c.proofUrl blockHash index
  let outcome ← Retry.runIf c.policy (.ofClock signal c.clock) (fun _ => c.fetchOnce url)
    FetchError.isRetryable
  return conclude blockHash index outcome

end Client

end Validium.ProofService
