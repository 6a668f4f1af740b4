import Validium.Proofs.DataLayer.Retrieval
import Validium.Proofs.Migration.Tour
import Validium.Proofs.Store.Addressed
import Validium.Proofs.Store.Slotwise

/-!
The two writers of a store: layers that post sequences, and migrators. A layer puts bodies
under the digests it takes of them; a migrator puts what a committee served under the hash
it asked for, which was compared with the digest when the data came. So, whatever networks
answer and wherever a signal cuts a call short, a store that is addressed stays addressed.
-/
namespace Validium

variable {W : Type}

open Store (Archive Contents addressing addressing_of_steady)

namespace Committee

theorem digest_of_readResult (hash : Hash) (result : Except JsonRpc.Error Json.Value)
    (data : Bytes) (h : readResult hash result = .ok data) : keccak data = hash := by
  unfold readResult at h
  cases hdecoded : result >>= JsonRpc.decodeHexResult method with
  | error e =>
    rw [hdecoded] at h
    cases h
  | ok served =>
    rw [hdecoded] at h
    by_cases hdigest : keccak served = hash
    · simp only [if_pos hdigest] at h
      cases h
      exact hdigest
    · simp only [if_neg hdigest] at h
      cases h

end Committee

namespace Migrator

variable (m : Migrator W) (signal : Signal W)

structure Around (p : Passage W) (m : Migrator W) : Prop where
  scan : ∀ r, p.Admits (m.scanner.client.network.exchange r)
  ask : ∀ r, p.Admits (m.committee.network.exchange r)
  submit : ∀ c ∈ m.submission, ∀ r, p.Admits (c.network.exchange r)
  sleep : ∀ d, p.Admits (m.clock.sleep d)
  spread : ∀ d, p.Admits (m.clock.spread d)

theorem Around.mono {p q : Passage W} {m : Migrator W}
    (hsub : ∀ w w', p.leads w w' → q.leads w w') (h : Around p m) : Around q m :=
  ⟨fun r => (h.scan r).mono hsub, fun r => (h.ask r).mono hsub,
    fun c hc r => (h.submit c hc r).mono hsub, fun d => (h.sleep d).mono hsub,
    fun d => (h.spread d).mono hsub⟩

/-- The clock of such a migrator takes no time, so only its three nodes can lead anywhere. -/
theorem around_among {p : Passage W} {node committee service : Network W}
    (hnode : ∀ r, p.Admits (node.exchange r)) (hcommittee : ∀ r, p.Admits (committee.exchange r))
    (hservice : ∀ r, p.Admits (service.exchange r)) (objects : Store.Objects W) :
    Around p (among node committee service objects) where
  scan := hnode
  ask := hcommittee
  submit := by
    intro client hclient
    cases hclient
    exact hservice
  sleep := fun _ w => p.refl w
  spread := fun _ w => p.refl w

/-- Data that was fetched has the hash that was asked for, whatever was served before. -/
theorem digest_of_fetch (hash : Hash) (data : Bytes) (w w' : W)
    (h : (m.fetch signal hash).run w = (.ok (.ok data), w')) : keccak data = hash := by
  obtain ⟨n, w₁, hattempt⟩ := Retry.exists_attempt_of_value _ _ _ _ _ _ _ w w' data h
  have hfetched := congrArg Prod.fst (Signal.step_of_await hattempt)
  exact Committee.digest_of_readResult hash _ data hfetched

theorem admits_fetch (p : Passage W) (hask : ∀ r, p.Admits (m.committee.network.exchange r))
    (hsleep : ∀ d, p.Admits (m.clock.sleep d)) (hspread : ∀ d, p.Admits (m.clock.spread d))
    (hash : Hash) : p.Admits (m.fetch signal hash).run := by
  refine p.admits_interruptible _ signal _ hsleep hspread _ _ ?_ _ _
  intro attempt
  exact p.admits_await signal _ (p.admits_map _ _ (p.admits_map _ _ (hask _)))

section Steps

variable {m} {p : Passage W} (h : Around p m)

include h

variable (hash : Hash) (data : Bytes) (hput : p.Admits (m.archive.put data hash none))

include hput

theorem Around.admits_upload : p.Admits (m.upload signal hash data).run := by
  have hkeep : p.Admits (m.keep signal hash data).run := by
    refine p.admits_run_bind _ _ (p.admits_await signal _ hput) ?_
    rintro ((fault | ⟨⟩) | _)
    · exact p.admits_pure _
    · exact p.admits_pure _
    · exact p.admits_pure _
  refine p.admits_interruptible _ signal _ h.sleep h.spread _ _ ?_ _ _
  intro attempt
  unfold uploadOnce
  cases hsubmission : m.submission with
  | none => exact hkeep
  | some client =>
    have hsubmit : p.Admits (client.submit data) := by
      unfold RawSubmission.Client.submit
      by_cases hkey : RawSubmission.Client.isHeaderText client.apiKey = true
      · rw [if_pos hkey]
        exact p.admits_map _ _ (h.submit client hsubmission _)
      · rw [if_neg hkey]
        exact p.admits_pure _
    refine p.admits_run_bind _ _ (p.admits_await signal _ hsubmit) ?_
    intro outcome
    cases outcome with
    | error e => exact p.admits_pure _
    | ok answer => exact hkeep

end Steps

section Runs

variable {m} {p : Passage W} (h : Around p m)
  (hput : ∀ data, p.Admits (m.archive.put data (keccak data) none))

include h hput

/-- A batch is put under its own digest if it is put at all. -/
theorem Around.admits_migrateBatch (hash : Hash) :
    p.Admits (m.migrateBatch signal hash) := by
  refine p.admits_bind_result _ _ (m.admits_fetch signal p h.ask h.sleep h.spread hash) ?_
  intro w
  cases hfetched : ((m.fetch signal hash).run w).1 with
  | error e => exact p.refl _
  | ok outcome =>
    cases outcome with
    | error e => cases e <;> exact p.refl _
    | ok data =>
      have hdigest := m.digest_of_fetch signal hash data w _ (Prod.ext hfetched rfl)
      have hdata := hput data
      rw [hdigest] at hdata
      refine p.admits_bind (m.upload signal hash data).run _
        (h.admits_upload signal hash data hdata) ?_ _
      intro ended
      rcases ended with e | (e | (⟨⟩ | _))
      · exact p.admits_pure _
      · cases e <;> exact p.admits_pure _
      · exact p.admits_pure _
      · exact p.admits_pure _

theorem Around.admits_migrateBatches (hashes : List Hash) (report : Migration.Report) :
    p.Admits (m.migrateBatches signal hashes report) := by
  induction hashes generalizing report with
  | nil => exact p.admits_pure _
  | cons hash rest ih =>
    refine p.admits_bind _ _ (h.admits_migrateBatch signal hput hash) ?_
    intro outcome
    cases outcome with
    | cancelled => exact p.admits_pure _
    | brokeDown => exact p.admits_pure _
    | migrated => exact ih _
    | fetchFailed => exact ih _
    | uploadFailed => exact ih _

theorem Around.admits_runFrom (count : Nat) (block : UInt64) (report : Migration.Report) :
    p.Admits (m.runFrom signal count block report) := by
  induction count generalizing block report with
  | zero => exact p.admits_pure _
  | succ count ih =>
    have hscan : p.Admits (m.scanner.batchHashes block) :=
      p.admits_map _ _ (p.admits_map _ _ (h.scan _))
    refine p.admits_bind _ _ (p.admits_await signal _ hscan) ?_
    intro outcome
    cases outcome with
    | error e => exact p.admits_pure _
    | ok scanned =>
      cases scanned with
      | error e => exact ih _ _
      | ok hashes =>
        refine p.admits_bind _ _ (h.admits_migrateBatches signal hput hashes _) ?_
        rintro (counted | _)
        · by_cases hinterrupted : counted.interrupted = true
          · simp only [if_pos hinterrupted]
            exact p.admits_pure _
          · simp only [if_neg hinterrupted]
            exact ih _ _
        · exact p.admits_pure _

end Runs

end Migrator

namespace DataLayer

structure Around (p : Passage W) (layer : DataLayer W) : Prop where
  submit : ∀ c ∈ layer.chain, ∀ blob, p.Admits (c.submit blob)
  exchange : ∀ s ∈ layer.proofs, ∀ r, p.Admits (s.network.exchange r)
  sleep : ∀ s ∈ layer.proofs, ∀ d, p.Admits (s.clock.sleep d)
  spread : ∀ s ∈ layer.proofs, ∀ d, p.Admits (s.clock.spread d)

theorem Around.mono {p q : Passage W} {layer : DataLayer W}
    (hsub : ∀ w w', p.leads w w' → q.leads w w') (h : Around p layer) : Around q layer :=
  ⟨fun c hc blob => (h.submit c hc blob).mono hsub, fun s hs r => (h.exchange s hs r).mono hsub,
    fun s hs d => (h.sleep s hs d).mono hsub, fun s hs d => (h.spread s hs d).mono hsub⟩

theorem Around.admits_post {p : Passage W} {layer : DataLayer W} (h : Around p layer)
    (signal : Signal W) (batches : List Bytes)
    (hput : ∀ a ∈ layer.archive, p.Admits (a.putMultiple signal batches)) :
    p.Admits (layer.post signal batches).run := by
  apply DataLayer.admits_post
  · intro chain hchain
    exact h.submit chain hchain _
  · intro commitment inclusion
    apply admits_messageFor
    intro service hservice
    exact admits_fetchProof p service signal _ _ (h.exchange service hservice)
      (h.sleep service hservice) (h.spread service hservice)
  · exact hput

end DataLayer

namespace Store

/-- A call of a writer on these contents; a put that an earlier call has left running; or
time between calls, in which objects may go but none may come or change. -/
inductive Write (contents : W → Contents) : W → W → Prop
  | post (layer : DataLayer W) (hstore : ∀ a ∈ layer.archive, a.objects.Holds contents)
      (haround : DataLayer.Around (Passage.steady contents) layer) (signal : Signal W)
      (batches : List Bytes) (w : W) : Write contents w ((layer.post signal batches).run w).2
  | migrate (m : Migrator W) (hstore : m.archive.objects.Holds contents)
      (haround : Migrator.Around (Passage.steady contents) m) (signal : Signal W)
      (first last : UInt64) (w : W) : Write contents w (m.run signal first last w).2
  | late (archive : Archive W) (hstore : archive.objects.Holds contents) (body : Bytes)
      (expires : Option Nat) (w : W) :
      Write contents w (archive.objects.put (archive.objectKey (keccak body)) body expires w).2
  | between (w w' : W)
      (h : ∀ key body, contents w' key = some body → contents w key = some body) :
      Write contents w w'

variable {contents : W → Contents} {w w' : W}

theorem addressing_of_write (head : String) (h : Write contents w w') :
    (addressing contents head).leads w w' := by
  have hsteady := addressing_of_steady contents head
  cases h with
  | post layer hstore haround signal batches =>
    apply (haround.mono hsteady).admits_post
    intro archive harchive
    exact archive.addressing_admits_putMultiple (hstore archive harchive) head signal batches
  | migrate m hstore haround signal first last =>
    apply (haround.mono hsteady).admits_runFrom
    intro data
    exact m.archive.addressing_admits_put hstore head data (keccak data) none rfl
  | late archive hstore body expires =>
    exact archive.addressing_admits_objects_put hstore head body expires w
  | between _ _ hkept =>
    intro haddressed hash body hbody
    exact haddressed hash body (hkept _ body hbody)

/-- Whatever sequence of writes there is, what stands under a digest keeps to it. -/
theorem addressing_of_writes (head : String)
    (h : Relation.ReflTransGen (Write contents) w w') :
    (addressing contents head).leads w w' := by
  induction h with
  | refl => exact (addressing contents head).refl w
  | tail _ hwrite ih => exact (addressing contents head).trans ih (addressing_of_write head hwrite)

/-- Contents that are addressed stay so under both writers, whatever these meet with and
wherever they are cut short, and no archive on them reports a corrupt object afterwards. -/
theorem addressed_of_writes {head : String} (haddressed : (contents w).Addressed head)
    (hwrites : Relation.ReflTransGen (Write contents) w w') :
    (contents w').Addressed head ∧
      ∀ archive : Archive W, archive.objects.Holds contents → archive.policy.keyHead = head →
        (∀ hash key, (archive.getByHash hash w').1 ≠ .returned (.error (.corrupt key))) ∧
        ∀ signal hashes slots, (archive.getMultiple signal hashes w').1 = .ok slots →
          ∀ f ∈ slots.errors.failures, ∀ key, f.fault ≠ .corrupt key := by
  have hlater : (contents w').Addressed head := addressing_of_writes head hwrites haddressed
  refine ⟨hlater, ?_⟩
  intro archive hstore hhead
  rw [← hhead] at hlater
  constructor
  · intro hash key
    exact archive.getByHash_ne_corrupt hstore hash w' hlater key
  · intro signal hashes slots hslots f hf key
    exact archive.getMultiple_ne_corrupt hstore signal hashes w' hlater slots hslots f hf key

open Archive (unkept keccak_ne_unkept)
open DataLayer (Pair mirrored storePart storePart_lawful)

/-- A migrator into the memory of the pair. Each block of its node has two batches, and its
committee serves the first of them for both. -/
def mover : Migrator Pair :=
  .among ⟨fun _ => pure (Rollup.twice [keccak [1], unkept])⟩
    ⟨fun _ => pure (Server.telling (.string (Hex.encode0x [1])))⟩
    ⟨fun _ => pure (.answered 202 (some []))⟩ (Memory.objects storePart)

def kept (w : Pair) : Pair := (w.1, w.2.insert (mover.archive.objectKey (keccak [1])) [1] none)

theorem getByHash_kept (w : Pair) :
    (mover.archive.getByHash (keccak [1]) (kept w)).1 = .returned (.ok [1]) := by
  have hbody : (kept w).2.body? (mover.archive.objectKey (keccak [1])) = some [1] := by
    rw [kept, Memory.body?_insert, Function.update_self]
  have hget := Memory.get_objects storePart_lawful (mover.archive.objectKey (keccak [1])) (kept w)
  have hview : storePart.view (kept w) = (kept w).2 := rfl
  rw [hview, hbody] at hget
  exact (mover.archive.getByHash_eq_ok_iff _ _ _).mpr ⟨congrArg Prod.fst hget, rfl⟩

/-- It keeps the one batch and refuses the other, twice each. -/
theorem run_mover (w : Pair) :
    mover.run .never 1 1 w = (.returned ⟨1, 0, 4, 2, 2, 0, false⟩, kept (kept w)) := by
  have hcount : [keccak [1], unkept].length < 2 ^ 32 := by decide
  have hscan : (Signal.never.await (mover.scanner.batchHashes 1)).run w =
      (.ok (.ok [keccak [1], unkept, keccak [1], unkept]), w) :=
    Signal.await_of_unfired rfl (Rollup.Scanner.batchHashes_of_twice rfl hcount rfl) rfl
  have hput : ∀ w, (mover.upload .never (keccak [1]) [1]).run w =
      (.ok (.ok (.returned ())), kept w) := fun w => Retry.runFrom_of_value rfl rfl
  have hright : ∀ w, mover.migrateBatch .never (keccak [1]) w = (.migrated, kept w) :=
    fun w => Migrator.migrateBatch_of_served rfl rfl rfl rfl (hput w)
  have hwrong : ∀ w, mover.migrateBatch .never unkept w = (.fetchFailed, w) :=
    fun w => Migrator.migrateBatch_of_misserved rfl rfl rfl keccak_ne_unkept
  have htour : mover.Tour .never (Migrator.blockCount 1 1) 1 w _ .completed (kept (kept w)) :=
    .read hscan (.cons (hright _) ⟨nofun, nofun⟩ (.cons (hwrong _) ⟨nofun, nofun⟩
      (.cons (hright _) ⟨nofun, nofun⟩ (.cons (hwrong _) ⟨nofun, nofun⟩ (.nil _)))))
      (.completed _ _)
  exact htour.run_eq

/-- A sequence is posted on a store that was empty, and then a block is migrated. -/
theorem addressed_of_writes_mirrored :
    ∃ w : Pair, mover.run .never 1 1 ((mirrored.post .never Batches.mixed).run (.empty, .empty)).2 =
        (.returned ⟨1, 0, 4, 2, 2, 0, false⟩, w) ∧
      Contents.Addressed w.2.body? "" ∧
      (mover.archive.getByHash (keccak [1]) w).1 = .returned (.ok [1]) ∧
      ∀ key, (mover.archive.getByHash unkept w).1 ≠ .returned (.error (.corrupt key)) := by
  have hstore := Memory.holds_objects storePart_lawful
  have hlayer : DataLayer.Around (Passage.steady fun w : Pair => w.2.body?) mirrored := by
    refine ⟨?_, nofun, nofun, nofun⟩
    intro chain hchain blob
    cases hchain
    refine Passage.admits_bind _ (Chain.Memory.pass DataLayer.chainPart fun _ => pure ()) _
      (Chain.Memory.admits_pass _ _ _ fun d w => rfl) ?_
    intro _ w
    rfl
  have hmover : Migrator.Around (Passage.steady fun w : Pair => w.2.body?) mover :=
    Migrator.around_among (fun _ _ => rfl) (fun _ _ => rfl) (fun _ _ => rfl) _
  have hempty : Contents.Addressed Memory.empty.body? "" := nofun
  have hposted : Write (fun w : Pair => w.2.body?) (.empty, .empty)
      ((mirrored.post .never Batches.mixed).run (.empty, .empty)).2 := by
    apply Write.post mirrored _ hlayer
    intro archive harchive
    cases harchive
    exact hstore
  have hmigrated := Write.migrate mover hstore hmover .never 1 1
    ((mirrored.post .never Batches.mixed).run (.empty, .empty)).2
  rw [run_mover] at hmigrated
  obtain ⟨haddressed, hreads⟩ := addressed_of_writes (w := (.empty, .empty)) hempty
    (.tail (.single hposted) hmigrated)
  exact ⟨_, run_mover _, haddressed, getByHash_kept _, (hreads mover.archive hstore rfl).1 unkept⟩

end Store

end Validium
