import Validium.DataLayer.Basic
import Validium.Proofs.Chain.Growth
import Validium.Proofs.Store.Archive

/-!
What happens to a chain in memory over time: layers post to it, blobs are submitted and
blocks are pushed, and all else that changes leaves its blocks as they are. Whatever the
order, and whatever becomes of the stores, the chain only grows.
-/
namespace Validium.DataLayer

open Chain.Memory (growth growth_of_untouched growth_admits_submit growth_admits_push)

variable {W α : Type}

structure OnMemory (part : Part W Chain.Memory) (layer : DataLayer W) : Prop where
  chain : ∃ delay, (∀ d, (Passage.untouched part).Admits (delay d)) ∧
    layer.chain = some (Chain.Memory.chain part delay)
  put : ∀ a ∈ layer.archive, ∀ key body expires,
    (Passage.untouched part).Admits (a.objects.put key body expires)
  get : ∀ a ∈ layer.archive, ∀ key, (Passage.untouched part).Admits (a.objects.get key)
  exchange : ∀ s ∈ layer.proofs, ∀ r, (Passage.untouched part).Admits (s.network.exchange r)
  sleep : ∀ s ∈ layer.proofs, ∀ d, (Passage.untouched part).Admits (s.clock.sleep d)
  spread : ∀ s ∈ layer.proofs, ∀ d, (Passage.untouched part).Admits (s.clock.spread d)

section Passages

variable (p : Passage W)

theorem admits_interrupted (step : Interruptible W α) (h : p.Admits step.run) :
    p.Admits (interrupted step).run := by
  intro w
  exact h w

theorem admits_orFail {ε : Type} (error : ε → Error) (r : Except ε α) :
    p.Admits (orFail (W := W) error r).run := by
  cases r with
  | ok a => exact p.admits_pure _
  | error e => exact p.admits_pure _

theorem admits_fetchProof (service : ProofService.Client W) (signal : Signal W)
    (blockHash : Hash) (index : UInt32) (hexchange : ∀ r, p.Admits (service.network.exchange r))
    (hsleep : ∀ d, p.Admits (service.clock.sleep d))
    (hspread : ∀ d, p.Admits (service.clock.spread d)) :
    p.Admits (service.fetchProof signal blockHash index) := by
  refine p.admits_bind _ _ (p.admits_runFrom _ signal _ hsleep hspread _ _ ?_ _ _) ?_
  · intro attempt
    unfold ProofService.Client.fetchOnce
    cases Url.parse (service.proofUrl blockHash index) with
    | none => exact p.admits_pure _
    | some url => exact p.admits_map _ _ (hexchange _)
  · intro outcome
    exact p.admits_pure _

theorem admits_messageFor (layer : DataLayer W) (signal : Signal W) (commitment : Hash)
    (inclusion : Inclusion) (hproof : ∀ s ∈ layer.proofs,
      p.Admits (s.fetchProof signal inclusion.blockHash inclusion.index)) :
    p.Admits (layer.messageFor signal commitment inclusion).run := by
  unfold messageFor
  cases hservice : layer.proofs with
  | none => exact p.admits_pure _
  | some service =>
    refine p.admits_run_bind _ _ (p.admits_run_lift _ (hproof service hservice)) ?_
    intro outcome
    refine p.admits_run_bind _ _ (admits_orFail p _ outcome) ?_
    intro proof
    exact p.admits_pure _

/-- Posting is a submission, a message for it and copies for the archive. -/
theorem admits_post (layer : DataLayer W) (signal : Signal W) (batches : List Bytes)
    (hsubmit : ∀ c ∈ layer.chain, p.Admits (c.submit (Batches.encode batches)))
    (hmessage : ∀ commitment inclusion, p.Admits (layer.messageFor signal commitment inclusion).run)
    (hput : ∀ a ∈ layer.archive, p.Admits (a.putMultiple signal batches)) :
    p.Admits (layer.post signal batches).run := by
  cases hchain : layer.chain with
  | none =>
    rw [post, needChain, hchain]
    exact p.admits_pure _
  | some chain =>
    have hneed : layer.needChain = pure chain := by
      rw [needChain, hchain]
    rw [post, hneed, pure_bind]
    have hsubmitted := p.admits_awaitBegun signal _ (hsubmit chain hchain)
    refine p.admits_run_bind _ _ (admits_interrupted p _ hsubmitted) ?_
    intro outcome
    refine p.admits_run_bind _ _ (admits_orFail p _ _) ?_
    intro inclusion
    refine p.admits_run_bind _ _ (hmessage _ inclusion) ?_
    intro message
    cases harchive : layer.archive with
    | none => exact p.admits_pure _
    | some archive =>
      refine p.admits_run_bind _ _ (p.admits_run_lift _ (hput archive harchive)) ?_
      intro outcome
      refine p.admits_run_bind _ _ (admits_orFail p _ outcome) ?_
      intro slots
      exact p.admits_pure _

end Passages

variable {part : Part W Chain.Memory} {layer : DataLayer W}

/-- The chain of such a layer is the one in memory, behind some delay. -/
theorem OnMemory.needChain_eq (h : OnMemory part layer) :
    ∃ delay, (∀ d, (Passage.untouched part).Admits (delay d)) ∧
      layer.needChain = pure (Chain.Memory.chain part delay) := by
  obtain ⟨delay, hdelay, hchain⟩ := h.chain
  refine ⟨delay, hdelay, ?_⟩
  rw [needChain, hchain]

theorem OnMemory.admits_messageFor (h : OnMemory part layer) (signal : Signal W)
    (commitment : Hash) (inclusion : Inclusion) :
    (Passage.untouched part).Admits (layer.messageFor signal commitment inclusion).run := by
  apply DataLayer.admits_messageFor
  intro service hservice
  exact admits_fetchProof (Passage.untouched part) service signal inclusion.blockHash
    inclusion.index (h.exchange service hservice) (h.sleep service hservice)
    (h.spread service hservice)

/-- Posting makes the chain grow, whether it ends well or not. -/
theorem OnMemory.growth_admits_post (h : OnMemory part layer) (hpart : part.Lawful)
    (signal : Signal W) (batches : List Bytes) :
    (growth part).Admits (layer.post signal batches).run := by
  apply admits_post
  · intro chain hchain
    obtain ⟨delay, hdelay, hmemory⟩ := h.chain
    cases hmemory.symm.trans hchain
    exact growth_admits_submit part delay hdelay hpart (Batches.encode batches)
  · intro commitment inclusion
    exact (h.admits_messageFor signal commitment inclusion).mono (growth_of_untouched part)
  · intro archive harchive
    exact (archive.admits_putMultiple (Passage.untouched part) signal batches
      fun body => h.put archive harchive _ body none).mono (growth_of_untouched part)

inductive Event (part : Part W Chain.Memory) : W → W → Prop
  | post (layer : DataLayer W) (h : OnMemory part layer) (signal : Signal W)
      (batches : List Bytes) (w : W) : Event part w ((layer.post signal batches).run w).2
  | submit (delay : Duration → StateM W Unit)
      (hdelay : ∀ d, (Passage.untouched part).Admits (delay d)) (blob : Bytes) (w : W) :
      Event part w ((Chain.Memory.chain part delay).submit blob w).2
  | push (blobs : List Bytes) (w : W) :
      Event part w (part.run (fun m => m.pushBlock blobs) w).2
  | elsewhere (w w' : W) (h : (part.view w').blocks = (part.view w).blocks) : Event part w w'

def Later (part : Part W Chain.Memory) : W → W → Prop := Relation.ReflTransGen (Event part)

theorem growth_of_event (hpart : part.Lawful) {w w' : W} (h : Event part w w') :
    (growth part).leads w w' := by
  cases h with
  | post layer hlayer signal batches => exact hlayer.growth_admits_post hpart signal batches w
  | submit delay hdelay blob => exact growth_admits_submit part delay hdelay hpart blob w
  | push blobs => exact growth_admits_push part hpart blobs w
  | elsewhere _ _ hblocks =>
    show (part.view w).blocks <+: (part.view w').blocks
    rw [hblocks]

theorem growth_of_later (hpart : part.Lawful) {w w' : W} (h : Later part w w') :
    (growth part).leads w w' := by
  induction h with
  | refl => exact (growth part).refl w
  | tail _ hevent ih => exact (growth part).trans ih (growth_of_event hpart hevent)

end Validium.DataLayer
