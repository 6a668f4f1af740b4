import Validium.Migration.Basic
import Validium.Proofs.Retry.Interruptible
import Validium.Proofs.Rollup.Sequenced

/-!
What a migrator makes of good answers. A block that is told as it is has the hashes of its calls,
and data that a committee serves as they are come back, or are refused for good, as their digest
decides; there is no second attempt in either case. A batch whose data came back ends as its upload
does.
-/
namespace Validium

variable {W : Type}

/-- A step that begins and ends before the signal fires is taken. -/
theorem Signal.await_of_unfired {α : Type} {signal : Signal W} {step : StateM W α} {w w' : W}
    {a : α} (hbefore : signal.fired w = false) (hstep : step w = (a, w'))
    (hafter : signal.fired w' = false) : (signal.await step).run w = (.ok a, w') := by
  rw [await, liftM_eq_lift, ExceptT.run_bind_lift, signal.isFired_bind_apply, hbefore]
  refine (signal.awaitBegun_run step w).trans ?_
  rw [hstep, hafter]
  rfl

namespace Retry

variable {α ε : Type} {policy : Policy} {signal : Signal W} {clock : Clock W}
  {op : UInt32 → Interruptible W (Except ε α)} {retryable : ε → Bool} {left : Nat}
  {attempt : UInt32} {w w' : W} (hfired : signal.fired w = false)

include hfired

theorem look_of_unfired :
    ExceptT.run (Pacing.interruptible signal clock).fired w = (.ok false, w) := by
  rw [← hfired]
  rfl

theorem runFrom_of_value {value : α} (hop : (op attempt).run w = (.ok (.ok value), w')) :
    (runFrom policy (.interruptible signal clock) op retryable left attempt).run w =
      (.ok (.ok value), w') := by
  rw [runFrom, run_bind_ok (look_of_unfired hfired), if_neg Bool.false_ne_true, run_bind_ok hop]
  rfl

variable {e : ε} (hop : (op attempt).run w = (.ok (.error e), w'))

include hop

/-- A failure that is not worth another attempt is the end. -/
theorem runFrom_of_fatal (he : retryable e = false) :
    (runFrom policy (.interruptible signal clock) op retryable left attempt).run w =
      (.ok (.error (.fatal attempt e)), w') := by
  rw [runFrom, run_bind_ok (look_of_unfired hfired), if_neg Bool.false_ne_true, run_bind_ok hop]
  simp only [he]
  rfl

variable (he : retryable e = true)

include he

theorem runFrom_of_last :
    (runFrom policy (.interruptible signal clock) op retryable 0 attempt).run w =
      (.ok (.error (.exhausted policy.attempts e)), w') := by
  rw [runFrom, run_bind_ok (look_of_unfired hfired), if_neg Bool.false_ne_true, run_bind_ok hop]
  simp only [he]
  rfl

/-- Where no time passes, a failure leads straight to the next attempt. -/
theorem runFrom_of_failure (hafter : signal.fired w' = false)
    (hsleep : ∀ d w, clock.sleep d w = ((), w)) (hspread : ∀ d w, (clock.spread d w).2 = w) :
    (runFrom policy (.interruptible signal clock) op retryable (left + 1) attempt).run w =
      (runFrom policy (.interruptible signal clock) op retryable left (attempt + 1)).run w' := by
  obtain ⟨d, hdelay⟩ : ∃ d,
      ExceptT.run (delay policy (.interruptible signal clock) attempt) w' = (.ok d, w') := by
    unfold delay
    cases policy.backoff with
    | fixed => exact ⟨_, rfl⟩
    | exponential => exact ⟨_, Prod.ext rfl (hspread _ _)⟩
  have hslept : ExceptT.run ((Pacing.interruptible signal clock).sleep d) w' = (.ok (), w') :=
    Signal.await_of_unfired hafter (hsleep d w') hafter
  rw [runFrom, run_bind_ok (look_of_unfired hfired), if_neg Bool.false_ne_true, run_bind_ok hop]
  simp only [he]
  exact (run_bind_ok hdelay _).trans
    ((run_bind_ok hslept _).trans (run_bind_ok (look_of_unfired hafter) _))

end Retry

def Server.telling (v : Json.Value) : Http.Outcome :=
  .answered 200 (some (Bytes.ofText (Response.toJson ⟨.ok v, .ofNat 1⟩).compact))

namespace Rollup

/-- A block that is told as it is. -/
theorem Scanner.batchHashes_of_telling {s : Scanner W} {block : UInt64} {ts : List Transaction}
    {cs : List SequenceCall} {w w' : W} (hts : Interleaved s.contract cs ts)
    (hanswer : s.client.network.exchange
      (s.client.request "eth_getBlockByNumber" (blockParams block)) w =
        (Server.telling (blockJson ts), w')) :
    s.batchHashes block w = (.ok (cs.flatMap SequenceCall.transactionsHashes), w') := by
  have hread := Server.readOutcome_ok "eth_getBlockByNumber" (v := blockJson ts)
    ⟨legible_items _ ts, trivial⟩
  rw [sorted_blockJson] at hread
  have hcall : s.client.call "eth_getBlockByNumber" (blockParams block) w =
      (.ok (blockJson ts), w') := by
    rw [JsonRpc.Client.call, bind_apply, hanswer]
    exact Prod.ext hread rfl
  rw [batchHashes, bind_apply, hcall, readBlock_of_transactions _ _ (blockOfTree?_blockJson ts),
    hashesOf_of_interleaved hts]
  rfl

def callFor (hashes : List Hash) : SequenceCall :=
  { Scanner.bareCall with batches := hashes.map fun hash => ⟨hash, Word.zero, 0, Word.zero⟩ }

theorem transactionsHashes_callFor (hashes : List Hash) :
    (callFor hashes).transactionsHashes = hashes := by
  rw [callFor, SequenceCall.transactionsHashes, List.map_map]
  exact List.map_id hashes

theorem length_encode_callFor (hashes : List Hash) :
    (callFor hashes).encode.length = 260 + 128 * hashes.length := by
  rw [SequenceCall.length_encode, SequenceCall.messageAt_eq, callFor, List.length_map]
  have hmessage : Abi.paddedLength Scanner.bareCall.message.length = 0 := rfl
  rw [hmessage]
  omega

/-- The answer that tells of a block in which these batches are sequenced twice, among other
traffic. -/
def twice (hashes : List Hash) : Http.Outcome :=
  Server.telling (blockJson (Scanner.mixedTraffic (callFor hashes)))

theorem Scanner.batchHashes_of_twice {s : Scanner W} {block : UInt64} {hashes : List Hash}
    {w w' : W} (hcontract : s.contract = anAddress) (hcount : hashes.length < 2 ^ 32)
    (hanswer : s.client.network.exchange
      (s.client.request "eth_getBlockByNumber" (blockParams block)) w = (twice hashes, w')) :
    s.batchHashes block w = (.ok (hashes ++ hashes), w') := by
  have hlength : (callFor hashes).encode.length < 2 ^ 64 := by
    rw [length_encode_callFor]
    omega
  have htraffic := interleaved_mixedTraffic (callFor hashes) hlength
  rw [← hcontract] at htraffic
  rw [batchHashes_of_telling htraffic hanswer, List.flatMap_cons, List.flatMap_singleton,
    transactionsHashes_callFor]

end Rollup

/-- Data that is told is compared with the hash. -/
theorem Committee.fetch_of_telling {client : JsonRpc.Client W} {hash : Hash} {data : Bytes}
    {w w' : W} (hanswer : client.network.exchange (client.request method (params hash)) w =
      (Server.telling (.string (Hex.encode0x data)), w')) :
    fetch client hash w =
      (if keccak data = hash then .ok data else .error (.mismatch hash (keccak data)), w') := by
  rw [fetch, JsonRpc.Client.call, bind_apply, bind_apply, hanswer]
  exact Prod.ext (readResult_responseTo hash (.ok data)) rfl

def Migration.BatchOutcome.ofUpload :
    Except Cancelled (Except (Retry.Error UploadError) (Completion Unit)) → BatchOutcome
  | .error _ => .cancelled
  | .ok (.error .cancelled) => .cancelled
  | .ok (.error _) => .uploadFailed
  | .ok (.ok (.returned ())) => .migrated
  | .ok (.ok .brokeDown) => .brokeDown

namespace Migrator

open Migration

section Served

variable {m : Migrator W} {signal : Signal W} {hash : Hash} {data : Bytes} {w w' : W}
  (hbefore : signal.fired w = false) (hafter : signal.fired w' = false)
  (hanswer : m.committee.network.exchange
    (m.committee.request Committee.method (Committee.params hash)) w =
      (Server.telling (.string (Hex.encode0x data)), w'))

include hbefore hafter hanswer

theorem fetch_of_served (hdigest : keccak data = hash) :
    (m.fetch signal hash).run w = (.ok (.ok data), w') := by
  have hfetch := Committee.fetch_of_telling hanswer
  rw [if_pos hdigest] at hfetch
  exact Retry.runFrom_of_value hbefore (Signal.await_of_unfired hbefore hfetch hafter)

/-- Wrong bytes end the batch. -/
theorem migrateBatch_of_misserved (hdigest : keccak data ≠ hash) :
    m.migrateBatch signal hash w = (.fetchFailed, w') := by
  have hfetch := Committee.fetch_of_telling hanswer
  rw [if_neg hdigest] at hfetch
  have hfatal : (m.fetch signal hash).run w =
      (.ok (.error (.fatal 1 (.mismatch hash (keccak data)))), w') :=
    Retry.runFrom_of_fatal hbefore (Signal.await_of_unfired hbefore hfetch hafter) rfl
  rw [migrateBatch, bind_apply, hfatal]
  rfl

/-- A batch whose data came back ends as its upload does. -/
theorem migrateBatch_of_served (hdigest : keccak data = hash) {w₂ : W}
    {ended : Except Cancelled (Except (Retry.Error UploadError) (Completion Unit))}
    (hupload : (m.upload signal hash data).run w' = (ended, w₂)) :
    m.migrateBatch signal hash w = (.ofUpload ended, w₂) := by
  have hfetched := fetch_of_served hbefore hafter hanswer hdigest
  rw [migrateBatch, bind_apply, hfetched]
  dsimp only
  rw [bind_apply, hupload]
  rcases ended with _ | ((_ | _ | _) | (⟨⟩ | _))
  all_goals rfl

end Served

/-- A migrator with a service and three attempts, among nodes that take no time. -/
def among (node committee service : Network W) (objects : Store.Objects W) : Migrator W :=
  let url : Url := ⟨['h', 't', 't', 'p'], none, ['/'], none, none⟩
  { scanner := ⟨⟨node, url, JsonRpc.Client.usualTimeout⟩, Rollup.Scanner.anAddress⟩
    committee := ⟨committee, url, JsonRpc.Client.usualTimeout⟩
    submission := some ⟨service, url, "key"⟩
    archive := ⟨objects, .standard⟩
    clock := ⟨fun _ => pure (), pure⟩
    policy := { Retry.Policy.standard with maxAttempts := 3 } }

end Migrator

end Validium
