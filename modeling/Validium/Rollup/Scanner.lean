import Validium.Json.Record
import Validium.JsonRpc.Client
import Validium.Rollup.SequenceCall

/-!
Finding the batches that a block sequences. Only transactions to the rollup's contract
count, and of these only sequencing calls; one that is malformed spoils the block.
-/
namespace Validium.Rollup

structure Transaction where
  hash : String
  recipient : Option String
  input : String
  deriving DecidableEq, Repr

namespace Transaction

open Json.Record in
def ofTree? (t : Json.Tree) : Option Transaction :=
  match fields? ["hash", "to", "input"] t with
  | some [hash, recipient, input] => do
    let hash ← required text hash
    let recipient ← nullable text recipient
    let input ← orElse "" text input
    return ⟨hash, recipient, input⟩
  | _ => none

end Transaction

open Json.Record in
def blockOfTree? (t : Json.Tree) : Option (List Transaction) :=
  match fields? ["transactions"] t with
  | some [transactions] => orElse [] (list Transaction.ofTree?) transactions
  | _ => none

inductive BlockDefect where
  | notABlock
  | badInput (transaction : String) (e : Hex.Error)
  deriving DecidableEq, Repr

def BlockDefect.message : BlockDefect → String
  | .notABlock => "not a block object"
  | .badInput transaction e => s!"transaction {transaction} has invalid input: " ++ e.message

inductive ScanError where
  | call (e : SequenceCall.Error)
  | rpc (e : JsonRpc.Error)
  | blockNotFound (block : UInt64)
  | invalidBlock (block : UInt64) (d : BlockDefect)
  | invalidAddress (address : String)
  deriving BEq, Repr

namespace ScanError

def message : ScanError → String
  | .call e => e.message
  | .rpc e => e.message
  | .blockNotFound block => s!"block {block.toNat} not found"
  | .invalidBlock block d => s!"invalid block response for block {block.toNat}: " ++ d.message
  | .invalidAddress address => "invalid rollup contract address: " ++ address

def causes : ScanError → List String
  | .call e => e.causes
  | _ => []

end ScanError

/-- The hashes that one transaction sequences; none if it is another call. -/
def transactionHashes (block : UInt64) (t : Transaction) : Except ScanError (List Hash) :=
  match Hex.decode (Bytes.ofText (String.ofList (Text.dropAll ['0', 'x'] t.input.toList))) with
  | .error e => .error (.invalidBlock block (.badInput t.hash e))
  | .ok data =>
    match SequenceCall.decode data with
    | .ok call => .ok call.transactionsHashes
    | .error .otherCall => .ok []
    | .error e => .error (.call e)

/-- Whether a transaction goes to the contract, whose address is in lower case. -/
def isRelevant (contract : String) (t : Transaction) : Bool :=
  match t.recipient with
  | some recipient => Text.eqFoldCase recipient contract
  | none => false

def hashesOf (contract : String) (block : UInt64) :
    List Transaction → Except ScanError (List Hash)
  | [] => .ok []
  | t :: r =>
    if isRelevant contract t then do
      let first ← transactionHashes block t
      let rest ← hashesOf contract block r
      return first ++ rest
    else hashesOf contract block r

def readBlock (contract : String) (block : UInt64) :
    Except JsonRpc.Error Json.Value → Except ScanError (List Hash)
  | .error e => .error (.rpc e)
  | .ok .null => .error (.blockNotFound block)
  | .ok v =>
    match blockOfTree? (Json.Tree.ofValue v) with
    | none => .error (.invalidBlock block .notABlock)
    | some transactions => hashesOf contract block transactions

structure Scanner (W : Type) where
  client : JsonRpc.Client W
  contract : String

namespace Scanner

variable {W : Type}

def new (client : JsonRpc.Client W) (contract : String) : Except ScanError (Scanner W) :=
  if JsonRpc.isAddress contract then .ok ⟨client, String.ofList (Text.foldCase contract)⟩
  else .error (.invalidAddress contract)

def blockParams (block : UInt64) : Json.Value :=
  .array [.string (String.ofList ('0' :: 'x' :: Nat.toDigits 16 block.toNat)), .bool true]

def batchHashes (s : Scanner W) (block : UInt64) : StateM W (Except ScanError (List Hash)) := do
  return readBlock s.contract block (← s.client.call "eth_getBlockByNumber" (blockParams block))

end Scanner

end Validium.Rollup
