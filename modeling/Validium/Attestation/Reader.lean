import Validium.Attestation.Record
import Validium.JsonRpc.Client
import Validium.World

/-!
Finding the record of a leaf: by asking the contract over the network, or in a table. Where
no record is found the reason says why; a record of block zero counts as none.
-/
namespace Validium.Attestation

inductive Error where
  /-- The proof service did not answer with a proof within its attempts. -/
  | timeout (blockHash : Hash) (index : UInt32) (attempts : UInt32) (last : String)
  | malformedProof (text : String)
  | notFound (leaf : Hash) (reason : String)
  | config (text : String)
  | cancelled
  deriving DecidableEq, Repr

def Error.message : Error → String
  | .timeout blockHash index attempts last =>
    s!"bridge proof for block {blockHash.text} index {index.toNat} not available after " ++
      s!"{attempts.toNat} attempts: {last}"
  | .malformedProof text => "bridge proof response is malformed: " ++ text
  | .notFound leaf reason => s!"no attestation found for leaf {leaf.text}: {reason}"
  | .config text => "invalid attestation configuration: " ++ text
  | .cancelled => Cancelled.message

structure Reader (W : Type) where
  read : Hash → StateM W (Except Error Record)

def unattested (leaf : Hash) : Error := .notFound leaf "leaf has not been attested"

def present (leaf : Hash) (r : Record) : Except Error Record :=
  if r.isEmpty then .error (unattested leaf) else .ok r

def readReturn (leaf : Hash) : Except JsonRpc.Error Bytes → Except Error Record
  | .error e => .error (.notFound leaf e.message)
  | .ok data =>
    match Record.decode data with
    | .error fault => .error (.notFound leaf ("undecodable return data: " ++ fault.message))
    | .ok r => present leaf r

structure ContractReader (W : Type) where
  client : JsonRpc.Client W
  contract : String

namespace ContractReader

variable {W : Type}

def new (client : JsonRpc.Client W) (contract : String) : Except Error (ContractReader W) :=
  if JsonRpc.isAddress contract then .ok ⟨client, contract⟩
  else .error (.config ("invalid attestation contract address: " ++ contract))

def read (r : ContractReader W) (leaf : Hash) : StateM W (Except Error Record) := do
  return readReturn leaf (← r.client.callContract r.contract (readCall leaf))

def reader (r : ContractReader W) : Reader W := ⟨r.read⟩

end ContractReader

/-- Records by their leaves; a later entry goes before an earlier one. -/
structure Table where
  records : List (Hash × Record)
  deriving DecidableEq, Repr

namespace Table

def empty : Table := ⟨[]⟩

def insert (t : Table) (leaf : Hash) (r : Record) : Table := ⟨(leaf, r) :: t.records⟩

def record? (t : Table) (leaf : Hash) : Option Record :=
  (t.records.find? (·.1 == leaf)).map (·.2)

def read (t : Table) (leaf : Hash) : Except Error Record :=
  match t.record? leaf with
  | some r => present leaf r
  | none => .error (unattested leaf)

def reader {W : Type} (part : Part W Table) : Reader W :=
  ⟨fun leaf => part.run fun t => (t.read leaf, t)⟩

end Table

end Validium.Attestation
