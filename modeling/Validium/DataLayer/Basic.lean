import Validium.DataLayer.Error
import Validium.Message.Basic
import Validium.ProofService.Client
import Validium.Store.Archive

/-!
Posting sequences of batches and finding them again. A sequence is posted to the chain, and
the message returned leads back to it; an archive by content, if there is one, answers first
when it has all that is asked for. Everything the layer works with is optional, and an
operation fails when it needs what is missing.
-/
namespace Validium

structure DataLayer (W : Type) where
  chain : Option (Chain W)
  proofs : Option (ProofService.Client W)
  attestations : Option (Attestation.Reader W)
  archive : Option (Store.Archive W)

namespace DataLayer

variable {W α : Type}

def empty : DataLayer W := ⟨none, none, none, none⟩

/-- A step of an operation, which may end it with an error. -/
abbrev Step (W α : Type) := ExceptT Error (StateM W) α

/-- A step that is cut short by the signal ends the operation. -/
def interrupted (step : Interruptible W α) : Step W α := fun w =>
  let (r, w) := step w
  (r.mapError fun _ => .cancelled, w)

def orFail {ε : Type} (error : ε → Error) (r : Except ε α) : Step W α :=
  liftM (r.mapError error)

def needChain (layer : DataLayer W) : Step W (Chain W) :=
  match layer.chain with
  | some c => pure c
  | none => throw (.notConfigured .chain)

def needAttestations (layer : DataLayer W) : Step W (Attestation.Reader W) :=
  match layer.attestations with
  | some r => pure r
  | none => throw (.notConfigured .attestations)

structure Location where
  block : UInt32
  index : UInt32
  kind : IndexKind
  deriving DecidableEq, Repr

/-- The message for a finalized submission: a proof where a service gives proofs, else a
pointer with the digest of the submitted bytes. -/
def messageFor (layer : DataLayer W) (signal : Signal W) (commitment : Hash)
    (inclusion : Inclusion) : Step W Message := do
  match layer.proofs with
  | some service =>
    let proof ← service.fetchProof signal inclusion.blockHash inclusion.index
    return .inclusionProof (← orFail .ofAttestation proof)
  | none => return .blobPointer (.new inclusion.blockNumber inclusion.index commitment)

/-- Submits a sequence and returns the message that leads to it. Copies that the archive
fails to keep do not matter. -/
def post (layer : DataLayer W) (signal : Signal W) (batches : List Bytes) : Step W Bytes := do
  let chain ← layer.needChain
  let blob := Batches.encode batches
  let outcome ← interrupted (signal.awaitBegun (chain.submit blob))
  let inclusion ← orFail .submission (Chain.settle outcome)
  let message ← layer.messageFor signal (keccak blob) inclusion
  match layer.archive with
  | some archive =>
    let _ ← orFail .ofHalt (← archive.putMultiple signal batches)
  | none => pure ()
  return message.encode

def resolveLeaf (layer : DataLayer W) (signal : Signal W) (leaf : Hash) : Step W Location := do
  let reader ← layer.needAttestations
  let record ← orFail .ofAttestation (← interrupted (signal.await (reader.read leaf)))
  let index := record.leafIndex.toNat
  if index < UInt32.size then return ⟨record.blockNumber, UInt32.ofNat index, .leaf⟩
  else
    throw (.retrieval record.blockNumber index .leaf (.noBlob record.blockNumber index .leaf))

def locate (layer : DataLayer W) (signal : Signal W) : Message → Step W Location
  | .blobPointer p => pure ⟨p.blockHeight, p.extrinsicIndex, .extrinsic⟩
  | .inclusionProof p => layer.resolveLeaf signal p.leaf

def fetch (layer : DataLayer W) (signal : Signal W) (l : Location) : Step W Bytes := do
  let chain ← layer.needChain
  let outcome ← interrupted (signal.awaitBegun (chain.fetch l.block l.index l.kind))
  orFail (.retrieval l.block l.index.toNat l.kind) (Chain.settle outcome)

def retrieveFromChain (layer : DataLayer W) (signal : Signal W) (envelope : Bytes) :
    Step W (List Bytes) := do
  let message ← orFail .format (Message.decode envelope)
  let location ← layer.locate signal message
  let blob ← layer.fetch signal location
  orFail (fun fault => .format (.batches fault)) (Batches.decode blob)

/-- The bodies of the hashes in the archive, if there are hashes and it has all of them. -/
def retrieveFromArchive (archive : Store.Archive W) (signal : Signal W) (hashes : List Hash) :
    Step W (Option (List Bytes)) := do
  if hashes.isEmpty then return none
  let slots ← orFail .ofHalt (← archive.getMultiple signal hashes)
  return slots.toResult.toOption

/-- The batches behind a message, from the archive when every hash is found there. -/
def retrieve (layer : DataLayer W) (signal : Signal W) (hashes : List Hash) (envelope : Bytes) :
    Step W (List Bytes) := do
  match layer.archive with
  | some archive =>
    match ← retrieveFromArchive archive signal hashes with
    | some batches => return batches
    | none => layer.retrieveFromChain signal envelope
  | none => layer.retrieveFromChain signal envelope

/-- The blob of a hash as an attested leaf, if the layer can look leaves up; otherwise the
error of the store that was asked before, if one was. -/
def offChainDataFromLeaf (layer : DataLayer W) (signal : Signal W) (hash : Hash)
    (storeFault : Option Store.Fault) : Step W Bytes := do
  if layer.attestations.isSome && layer.chain.isSome then
    let location ← layer.resolveLeaf signal hash
    layer.fetch signal location
  else
    match storeFault with
    | some fault => throw (.ofStore (.fault fault))
    | none => throw (.notConfigured .storeOrAttestations)

/-- The bytes behind a hash: from the archive, else the blob attested for it. -/
def offChainData (layer : DataLayer W) (signal : Signal W) (hash : Hash) : Step W Bytes := do
  match layer.archive with
  | some archive =>
    match ← interrupted (signal.await (archive.getByHash hash)) with
    | .brokeDown => throw .brokeDown
    | .returned (.ok body) => return body
    | .returned (.error fault) => layer.offChainDataFromLeaf signal hash (some fault)
  | none => layer.offChainDataFromLeaf signal hash none

end DataLayer

end Validium
