import Validium.Migration.Basic
import Validium.Proofs.DataLayer.Attested
import Validium.Proofs.Retry.Course

/-!
Operations that start under a signal that has fired. A part that is asked under the signal is
not asked at all, and of the calls that are begun all the same, those of the chain, the results
are not waited for. So no operation comes to a result, and none of them turns to a store.
-/
namespace Validium

variable {W α β ε : Type}

namespace Signal

variable {signal : Signal W} {w : W}

/-- Nothing is begun under a fired signal. -/
theorem await_fired (h : signal.fired w = true) (step : StateM W α) :
    (signal.await step).run w = (.error .cancelled, w) := by
  rw [await, liftM_eq_lift, ExceptT.run_bind_lift, signal.isFired_bind_apply, h]
  rfl

theorem awaitBegun_fired {step : StateM W α} (h : signal.fired (step w).2 = true) :
    (signal.awaitBegun step).run w = (.error .cancelled, (step w).2) := by
  rw [awaitBegun_run, h]
  rfl

end Signal

namespace Store.Archive

variable (m : Archive W) {signal : Signal W} {w : W} (h : signal.fired w = true)

include h

theorem each_fired (keys : List String) (jobs : List (StateM W (Completion (Except Fault α)))) :
    m.each signal keys jobs w = (.error .cancelled, w) := by
  rw [each_eq, map_apply, Pool.run_apply, if_pos h]
  rfl

theorem putMultiple_fired (bodies : List Bytes) :
    m.putMultiple signal bodies w = (.error .cancelled, w) := by
  rw [putMultiple_eq]
  exact m.each_fired h _ _

theorem getMultiple_fired (hashes : List Hash) :
    m.getMultiple signal hashes w = (.error .cancelled, w) := by
  rw [getMultiple_eq]
  exact m.each_fired h _ _

end Store.Archive

namespace ProofService.Client

variable (c : Client W) (signal : Signal W) (blockHash : Hash) (index : UInt32)

theorem fetchProof_fired {w : W} (h : signal.fired w = true) :
    c.fetchProof signal blockHash index w = (.error .cancelled, w) := by
  have hrun : (c.asking signal blockHash index).run w = (.error .cancelled, w) :=
    Retry.Repetition.runFrom_fired _ _ h
  rw [fetchProof_eq, map_apply, hrun]
  rfl

end ProofService.Client

namespace Migrator

open Migration

/-- A migration under a signal that has fired reports nothing but the interruption. -/
theorem run_fired (m : Migrator W) {signal : Signal W} {w : W} (h : signal.fired w = true)
    {first last : UInt64} (hle : first ≤ last) :
    m.run signal first last w = (.returned Report.empty.interrupt, w) := by
  have hpos : 0 < blockCount first last := by
    have hnat := UInt64.le_iff_toNat_le.mp hle
    unfold blockCount
    omega
  obtain ⟨count, hcount⟩ := Nat.exists_eq_add_of_lt hpos
  rw [run, hcount, Nat.zero_add, runFrom, bind_apply, Signal.await_fired h]
  rfl

end Migrator

namespace DataLayer

def Fails (x : Step W α) (w : W) (p : Error × W) : Prop := x.run w = (.error p.1, p.2)

theorem Fails.bind {x : Step W α} {w : W} {p : Error × W} (h : Fails x w p) (f : α → Step W β) :
    Fails (x >>= f) w p :=
  run_bind_error h f

inductive Call where
  | submit (blob : Bytes)
  | fetch (l : Location)

def Call.leave (chain : Chain W) (w : W) : Call → W
  | .submit blob => (chain.submit blob w).2
  | .fetch l => (chain.fetch l.block l.index l.kind w).2

section Fired

variable (layer : DataLayer W) {signal : Signal W} {w : W}

def KeepsFired (signal : Signal W) : Prop :=
  ∀ chain ∈ layer.chain, ∀ (call : Call) (w : W), signal.fired w = true →
    signal.fired (call.leave chain w) = true

def begun (call : Call) (w : W) : Error × W :=
  match layer.chain with
  | some chain => (.cancelled, call.leave chain w)
  | none => (.notConfigured .chain, w)

def unasked (w : W) : Error × W :=
  if layer.attestations.isSome then (.cancelled, w) else (.notConfigured .attestations, w)

def unread (envelope : Bytes) (w : W) : Error × W :=
  match Message.decode envelope with
  | .error e => (.format e, w)
  | .ok (.blobPointer p) => layer.begun (.fetch ⟨p.blockHeight, p.extrinsicIndex, .extrinsic⟩) w
  | .ok (.inclusionProof _) => layer.unasked w

section Steps

variable (hfired : signal.fired w = true)

include hfired

theorem interrupted_fired (step : StateM W α) :
    Fails (interrupted (signal.await step)) w (.cancelled, w) := by
  rw [Fails, run_interrupted, Signal.await_fired hfired]
  rfl

theorem resolveLeaf_fired (leaf : Hash) :
    Fails (layer.resolveLeaf signal leaf) w (layer.unasked w) := by
  unfold resolveLeaf needAttestations unasked
  cases layer.attestations with
  | none => rfl
  | some reader => exact (interrupted_fired hfired (reader.read leaf)).bind _

/-- Data are asked for in the archive or looked up as a leaf, if there is a way to do either. -/
theorem offChainData_fired (hash : Hash) : Fails (layer.offChainData signal hash) w
    (if layer.archive.isSome ∨ layer.attestations.isSome ∧ layer.chain.isSome then (.cancelled, w)
      else (.notConfigured .storeOrAttestations, w)) := by
  unfold offChainData
  cases layer.archive with
  | some archive => exact (interrupted_fired hfired (archive.getByHash hash)).bind _
  | none =>
    unfold offChainDataFromLeaf
    cases hreader : layer.attestations with
    | none => rfl
    | some reader =>
      cases layer.chain with
      | none => rfl
      | some chain =>
        have hcut := layer.resolveLeaf_fired hfired hash
        rw [unasked, hreader] at hcut
        exact hcut.bind _

variable (hkeeps : layer.KeepsFired signal)

include hkeeps

/-- A call of the chain that meets the signal leaves what the call leaves, and its result is lost.
-/
theorem interrupted_call {chain : Chain W} (hchain : layer.chain = some chain) (call : Call)
    {step : StateM W α} (hstep : (step w).2 = call.leave chain w) :
    Fails (interrupted (signal.awaitBegun step)) w (.cancelled, call.leave chain w) := by
  have hlater := hkeeps chain hchain call w hfired
  rw [← hstep] at hlater ⊢
  rw [Fails, run_interrupted, Signal.awaitBegun_fired hlater]
  rfl

theorem post_fired (batches : List Bytes) :
    Fails (layer.post signal batches) w (layer.begun (.submit (Batches.encode batches)) w) := by
  unfold post needChain begun
  cases hchain : layer.chain with
  | none => rfl
  | some chain =>
    have hcut := layer.interrupted_call hfired hkeeps hchain (.submit (Batches.encode batches)) rfl
    exact hcut.bind _

theorem fetch_fired (l : Location) :
    Fails (layer.fetch signal l) w (layer.begun (.fetch l) w) := by
  unfold fetch needChain begun
  cases hchain : layer.chain with
  | none => rfl
  | some chain => exact (layer.interrupted_call hfired hkeeps hchain (.fetch l) rfl).bind _

theorem retrieveFromChain_fired (envelope : Bytes) :
    Fails (layer.retrieveFromChain signal envelope) w (layer.unread envelope w) := by
  unfold retrieveFromChain unread
  cases Message.decode envelope with
  | error e => rfl
  | ok message =>
    cases message with
    | blobPointer p =>
      have hfetch := layer.fetch_fired hfired hkeeps ⟨p.blockHeight, p.extrinsicIndex, .extrinsic⟩
      exact hfetch.bind _
    | inclusionProof p => exact (layer.resolveLeaf_fired hfired p.leaf).bind _

/-- An archive that would be asked is not, and ends the operation. -/
theorem retrieve_fired (hashes : List Hash) (envelope : Bytes) :
    Fails (layer.retrieve signal hashes envelope) w
      (if layer.archive.isSome ∧ hashes ≠ [] then (.cancelled, w)
        else layer.unread envelope w) := by
  have hchain := layer.retrieveFromChain_fired hfired hkeeps envelope
  unfold retrieve
  cases layer.archive with
  | none => exact hchain
  | some archive =>
    cases hashes with
    | nil => exact hchain
    | cons hash rest =>
      have hslots : (liftM (archive.getMultiple signal (hash :: rest)) : Step W _).run w =
          (.ok (.error .cancelled), w) := by
        rw [run_liftM, archive.getMultiple_fired hfired]
      have hcut : Fails (retrieveFromArchive archive signal (hash :: rest)) w (.cancelled, w) :=
        (run_bind_ok hslots _).trans rfl
      rw [if_pos ⟨rfl, List.cons_ne_nil hash rest⟩]
      exact hcut.bind _

end Steps

/-- An error, after one call of the chain at the most. -/
inductive GivenUp (w : W) : Error × W → Prop where
  | cancelled : GivenUp w (.cancelled, w)
  | notConfigured (missing : Missing) : GivenUp w (.notConfigured missing, w)
  | format (e : FormatError) : GivenUp w (.format e, w)
  | begun {chain : Chain W} (hchain : layer.chain = some chain) (call : Call) :
      GivenUp w (.cancelled, call.leave chain w)

theorem givenUp_begun (call : Call) : layer.GivenUp w (layer.begun call w) := by
  unfold begun
  cases hchain : layer.chain with
  | none => exact .notConfigured .chain
  | some chain => exact .begun hchain call

theorem givenUp_unasked : layer.GivenUp w (layer.unasked w) := by
  unfold unasked
  split
  · exact .cancelled
  · exact .notConfigured .attestations

theorem givenUp_unread (envelope : Bytes) : layer.GivenUp w (layer.unread envelope w) := by
  unfold unread
  cases Message.decode envelope with
  | error e => exact .format e
  | ok message =>
    cases message with
    | blobPointer p => exact layer.givenUp_begun _
    | inclusionProof p => exact layer.givenUp_unasked

def withObjects (objects : Store.Objects W) : DataLayer W :=
  { layer with archive := layer.archive.map fun archive => ⟨objects, archive.policy⟩ }

/-- No operation of the layer comes to a result from this world on, or turns to a store: what
it comes to is the same with any other store. -/
structure Superseded (signal : Signal W) (w : W) : Prop where
  post : ∀ batches, ∃ p, Fails (layer.post signal batches) w p ∧ layer.GivenUp w p
  retrieve : ∀ hashes envelope, ∃ p,
    Fails (layer.retrieve signal hashes envelope) w p ∧ layer.GivenUp w p
  offChainData : ∀ hash, ∃ p, Fails (layer.offChainData signal hash) w p ∧ layer.GivenUp w p
  post_storeless : ∀ objects batches,
    ((layer.withObjects objects).post signal batches).run w = (layer.post signal batches).run w
  retrieve_storeless : ∀ objects hashes envelope,
    ((layer.withObjects objects).retrieve signal hashes envelope).run w =
      (layer.retrieve signal hashes envelope).run w
  offChainData_storeless : ∀ objects hash,
    ((layer.withObjects objects).offChainData signal hash).run w =
      (layer.offChainData signal hash).run w

/-- Under a signal that has fired every operation ends as cancelled. -/
theorem superseded (hkeeps : layer.KeepsFired signal) (hfired : signal.fired w = true) :
    layer.Superseded signal w where
  post := by
    intro batches
    exact ⟨_, layer.post_fired hfired hkeeps batches, layer.givenUp_begun _⟩
  retrieve := by
    intro hashes envelope
    refine ⟨_, layer.retrieve_fired hfired hkeeps hashes envelope, ?_⟩
    split
    · exact .cancelled
    · exact layer.givenUp_unread envelope
  offChainData := by
    intro hash
    refine ⟨_, layer.offChainData_fired hfired hash, ?_⟩
    split
    · exact .cancelled
    · exact .notConfigured .storeOrAttestations
  post_storeless := by
    intro objects batches
    have hother := (layer.withObjects objects).post_fired hfired hkeeps batches
    exact hother.trans (layer.post_fired hfired hkeeps batches).symm
  retrieve_storeless := by
    intro objects hashes envelope
    have hother := (layer.withObjects objects).retrieve_fired hfired hkeeps hashes envelope
    rw [withObjects, Option.isSome_map] at hother
    exact hother.trans (layer.retrieve_fired hfired hkeeps hashes envelope).symm
  offChainData_storeless := by
    intro objects hash
    have hother := (layer.withObjects objects).offChainData_fired hfired hash
    rw [withObjects, Option.isSome_map] at hother
    exact hother.trans (layer.offChainData_fired hfired hash).symm

end Fired

end DataLayer

end Validium
