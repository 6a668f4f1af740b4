import Mathlib
import Validium.Committee
import Validium.Proofs.Hex
import Validium.Proofs.Json.Fields
import Validium.Proofs.Json.Written
import Validium.Proofs.World.Passage
import Validium.Server.Handler

/-!
A committee node that answers with this server. The request that the client sends is read as
the call that it stands for, and the response as what the data layer found: data that match
their hash come back as they are, other data as a mismatch, and an error of the data layer
with its text. The client cannot meet an answer that it does not understand.
-/
namespace Validium

open Json

namespace JsonRpc

theorem sorted_requestBody (method : String) {params : Value} (h : params.sorted = params) :
    (requestBody method params).sorted = requestBody method params := by
  rw [requestBody, Value.sorted, Value.sortedFields, Value.sortedFields, Value.sortedFields,
    Value.sortedFields, Value.sortedFields, h]
  refine Value.ofFields_of_pairwise ?_
  have hnames : ["id", "jsonrpc", "method", "params"].Pairwise (· < ·) := by decide
  exact List.pairwise_map.mp (show List.Pairwise _ (List.map Prod.fst _) from hnames)

theorem legible_requestBody (method : String) (params : Value)
    (h : params.Legible (Tree.maxDepth - 1)) :
    (requestBody method params).Legible Tree.maxDepth := by
  have hid : (Value.ofNat 1).Legible (Tree.maxDepth - 1) := by
    constructor <;> decide
  exact ⟨hid, trivial, trivial, h, trivial⟩

end JsonRpc

namespace Server

open Committee (method params)

theorem parse_params (hash : Hash) :
    Call.parse method (params hash) = .ok (.offChainData hash) := by
  have hparse : Call.parse method (params hash) =
      (Call.hashArgument (.string hash.text)).map .offChainData := rfl
  rw [hparse, Call.hashArgument, Word.parse_text]
  rfl

variable {W : Type}

def told (found : Except DataLayer.Error Bytes) : Except Error Value :=
  (found.map fun data => .string (Hex.encode0x data)).mapError .lookup

theorem execute_eq (layer : DataLayer W) (hash : Hash) :
    execute layer (.offChainData hash) = told <$> (layer.offChainData .never hash).run := by
  rw [execute, map_eq_pure_bind]
  refine bind_congr fun found => ?_
  cases found <;> rfl

/-- What the client writes is what the handler reads. -/
theorem handle_requestBody (layer : DataLayer W) (hash : Hash) :
    handle layer (Bytes.ofText (JsonRpc.requestBody method (params hash)).compact) =
      (fun outcome => ⟨outcome, .ofNat 1⟩) <$> execute layer (.offChainData hash) := by
  have hlegible := JsonRpc.legible_requestBody method (params hash) ⟨trivial, trivial⟩
  have hread := Value.ofBytes?_compact hlegible
  rw [JsonRpc.sorted_requestBody method rfl] at hread
  have hrequest : Request.ofValue? (JsonRpc.requestBody method (params hash)) =
      some ⟨some "2.0", method, params hash, .ofNat 1⟩ := rfl
  rw [handle, hread]
  simp only [hrequest]
  rw [answer]
  simp [answer.call, parse_params]

theorem Error.code_bounds (e : Error) : -32700 ≤ e.code ∧ e.code ≤ -32000 := by
  cases e <;> simp [code]

/-- An error object is in order as it is written. -/
theorem sorted_errorObject (e : Error) :
    (Response.errorObject e).sorted = Response.errorObject e := by
  refine Value.ofFields_of_pairwise ?_
  have hnames : ["code", "message"].Pairwise (· < ·) := by decide
  exact List.pairwise_map.mp (show List.Pairwise _ (List.map Prod.fst _) from hnames)

/-- The response to a request whose id is one, as it is read back. -/
theorem ofBytes?_response (outcome : Except Error Value)
    (hvalue : ∀ v, outcome = .ok v → v.Legible (Tree.maxDepth - 1)) :
    Value.ofBytes? (Bytes.ofText (Response.toJson ⟨outcome, .ofNat 1⟩).compact) =
      some (Response.toJson ⟨outcome, .ofNat 1⟩).sorted := by
  refine Value.ofBytes?_compact ?_
  have hid : (Value.ofNat 1).Legible (Tree.maxDepth - 1) := by
    constructor <;> decide
  cases outcome with
  | ok v => exact ⟨trivial, hvalue v rfl, hid, trivial⟩
  | error e =>
    obtain ⟨hleast, hmost⟩ := e.code_bounds
    have hcode : (Value.number (.int e.code)).Legible (Tree.maxDepth - 2) := by
      constructor <;> omega
    exact ⟨trivial, ⟨hcode, trivial, trivial⟩, hid, trivial⟩

theorem readOutcome_ok (method : String) {v : Value} (h : v.Legible (Tree.maxDepth - 1)) :
    JsonRpc.readOutcome method
      (.answered 200 (some (Bytes.ofText (Response.toJson ⟨.ok v, .ofNat 1⟩).compact))) =
        .ok v.sorted := by
  have hread := ofBytes?_response (.ok v) fun w hw => Except.ok.inj hw ▸ h
  have hfields : (Response.toJson ⟨.ok v, .ofNat 1⟩).sorted =
      Value.ofFields [("jsonrpc", .string "2.0"), ("result", v.sorted), ("id", .ofNat 1)] := rfl
  have hsuccess : Http.isSuccess 200 = true := rfl
  simp only [JsonRpc.readOutcome, hsuccess, Option.bind_some, hread, hfields]
  simp [JsonRpc.readAnswer, JsonRpc.readAnswer.result, Value.field?_ofFields]

theorem readOutcome_error (method : String) (e : Error) :
    JsonRpc.readOutcome method
      (.answered 200 (some (Bytes.ofText (Response.toJson ⟨.error e, .ofNat 1⟩).compact))) =
        .error (.remote method e.code e.message) := by
  have hread := ofBytes?_response (.error e) (by intro v hv; cases hv)
  have hfields : (Response.toJson ⟨.error e, .ofNat 1⟩).sorted =
      Value.ofFields [("jsonrpc", .string "2.0"), ("error", (Response.errorObject e).sorted),
        ("id", .ofNat 1)] := rfl
  have hfound : (Value.ofFields [("jsonrpc", .string "2.0"), ("error", Response.errorObject e),
      ("id", .ofNat 1)]).field? "error" = some (Response.errorObject e) := by
    simp [Value.field?_ofFields]
  have hcode : (Number.int e.code).signed? = some e.code := by
    obtain ⟨-, hmost⟩ := e.code_bounds
    exact if_pos (by omega)
  have hsuccess : Http.isSuccess 200 = true := rfl
  simp only [JsonRpc.readOutcome, hsuccess, Option.bind_some, hread, hfields, sorted_errorObject,
    JsonRpc.readAnswer, hfound]
  simp [Response.errorObject, Value.field?, Value.text?, hcode]

def answering (layer : DataLayer W) : Network W where
  exchange request := do
    return .answered 200 (some (Bytes.ofText (← handle layer request.body).toJson.compact))

end Server

namespace Committee

variable {W : Type}

def received (hash : Hash) : Except DataLayer.Error Bytes → Except Error Bytes
  | .ok data => if keccak data = hash then .ok data else .error (.mismatch hash (keccak data))
  | .error e => .error (.rpc (.remote "sync_getOffChainData" (-32000)
      ("failed to retrieve the data from off-chain DA: " ++ e.message)))

theorem readResult_hex (hash : Hash) (data : Bytes) :
    readResult hash (.ok (.string (Hex.encode0x data))) = received hash (.ok data) := by
  have hdigits : JsonRpc.decodeHexResult method (.string (Hex.encode0x data)) = .ok data := by
    simp only [JsonRpc.decodeHexResult, Hex.encode0x, String.toList_ofList]
    rw [← Hex.encode, Hex.decode_encode]
    rfl
  have hbind : (Except.ok (Value.string (Hex.encode0x data)) >>= JsonRpc.decodeHexResult method) =
      (Except.ok data : Except JsonRpc.Error Bytes) := hdigits
  rw [readResult, hbind]
  rfl

def responseTo (outcome : Except DataLayer.Error Bytes) : Server.Response :=
  ⟨(outcome.map fun data => .string (Hex.encode0x data)).mapError .lookup, .ofNat 1⟩

theorem handle_request (layer : DataLayer W) (hash : Hash) :
    Server.handle layer (Bytes.ofText (JsonRpc.requestBody method (params hash)).compact) =
      responseTo <$> (layer.offChainData Signal.never hash).run := by
  rw [Server.handle_requestBody, Server.execute_eq, ← comp_map]
  rfl

/-- A response comes back as what it was made from. -/
theorem readResult_responseTo (hash : Hash) (outcome : Except DataLayer.Error Bytes) :
    readResult hash (JsonRpc.readOutcome method
      (.answered 200 (some (Bytes.ofText (responseTo outcome).toJson.compact)))) =
        received hash outcome := by
  cases outcome with
  | ok data =>
    have hread := Server.readOutcome_ok method (v := .string (Hex.encode0x data)) trivial
    rw [responseTo, Except.map, Except.mapError, hread]
    exact readResult_hex hash data
  | error e =>
    rw [responseTo, Except.map, Except.mapError, Server.readOutcome_error]
    rfl

theorem fetch_eq (layer : DataLayer W) (url : Url) (timeout : Duration) (hash : Hash) :
    fetch ⟨Server.answering layer, url, timeout⟩ hash =
      received hash <$> (layer.offChainData Signal.never hash).run := by
  have hanswer : (Server.answering layer).exchange
      ((JsonRpc.Client.mk (Server.answering layer) url timeout).request method (params hash)) =
      (fun outcome => .answered 200 (some (Bytes.ofText (responseTo outcome).toJson.compact))) <$>
        (layer.offChainData Signal.never hash).run := by
    have hhandle := handle_request layer hash
    funext w
    exact congrArg (fun action => ((fun response : Server.Response => Http.Outcome.answered 200
      (some (Bytes.ofText response.toJson.compact))) <$> action) w) hhandle
  have hreceived : received hash = fun outcome => readResult hash (JsonRpc.readOutcome method
      (.answered 200 (some (Bytes.ofText (responseTo outcome).toJson.compact)))) := by
    funext outcome
    exact (readResult_responseTo hash outcome).symm
  funext w
  rw [hreceived]
  exact congrArg (fun action => ((fun answer =>
    readResult hash (JsonRpc.readOutcome method answer)) <$> action) w) hanswer

/-- No answer of the server is one that the client cannot read. -/
theorem received_understood (hash : Hash) (outcome : Except DataLayer.Error Bytes)
    (called : String) (d : JsonRpc.Defect) :
    received hash outcome ≠ .error (.rpc (.invalidResponse called d)) := by
  cases outcome with
  | error e => simp [received]
  | ok data =>
    rw [received]
    split <;> simp

/-- What the client gets is what the data layer has, told in the client's words, and the world
is left as the data layer leaves it. No answer of the server is beyond the client. -/
theorem fetch_answering (layer : DataLayer W) (url : Url) (timeout : Duration) (hash : Hash) :
    fetch ⟨Server.answering layer, url, timeout⟩ hash =
        received hash <$> (layer.offChainData Signal.never hash).run ∧
      ∀ w called d, (fetch ⟨Server.answering layer, url, timeout⟩ hash w).1 ≠
        .error (.rpc (.invalidResponse called d)) := by
  refine ⟨fetch_eq layer url timeout hash, ?_⟩
  intro w called d
  rw [fetch_eq, map_apply]
  exact received_understood hash _ called d

end Committee

end Validium
