import Validium.Chain.Traffic
import Validium.Proofs.Bytes
import Validium.Proofs.Chain.Growth
import Validium.Proofs.Positions

/-!
What holds of a chain in memory whatever calls go together. The blocks are never changed or moved,
so a submission that has made its block finds it again under the number it was told, whoever has
made blocks meanwhile. A number is told once, because the next one lies beyond all blocks, and the
number stands in front of what the hash of its block is taken from.
-/
namespace Validium.Chain.Memory

variable {m : Memory}

def sealed (number : UInt32) (blobs : List Bytes) : Block :=
  ⟨keccak (preimage number blobs), blobs⟩

def Sealed (m : Memory) : Prop :=
  ∀ number b, m.block? number = some b → b = sealed number b.submissions

theorem preimage_ne {number number' : UInt32} (h : number ≠ number') (blobs blobs' : List Bytes) :
    preimage number blobs ≠ preimage number' blobs' := by
  intro heq
  have hlength : (Bytes.ofNat 4 number.toNat).length = (Bytes.ofNat 4 number'.toNat).length := by
    rw [Bytes.length_ofNat, Bytes.length_ofNat]
  have hfront := congrArg Bytes.toNat (List.append_inj_left heq hlength)
  rw [Bytes.toNat_ofNat_of_lt 4 _ number.toNat_lt, Bytes.toNat_ofNat_of_lt 4 _ number'.toNat_lt]
    at hfront
  exact h (UInt32.toNat_inj.mp hfront)

section Reading

/-- Behind the one extrinsic that stands first, places differ by one. -/
theorem position?_succ {index : UInt32} (h : index.toNat < 2 ^ 32 - 1) :
    position? (index + 1) .extrinsic = position? index .leaf := by
  have hone : (1 : UInt32).toNat = 1 := rfl
  have hsucc : (index + 1).toNat = index.toNat + 1 := by
    rw [UInt32.toNat_add, hone]
    omega
  have hlate : ¬ index + 1 < inherents := by
    rw [UInt32.lt_iff_toNat_lt, hsucc, inherents, hone]
    omega
  rw [position?, position?, if_neg hlate, inherents, UInt32.add_sub_cancel]

/-- Counted with the inherents, a blob stands one place further than among the leaves. -/
theorem fetch_extrinsic_iff (number : UInt32) {index : UInt32} (h : index.toNat < 2 ^ 32 - 1)
    (blob : Bytes) :
    m.fetch number (index + 1) .extrinsic = .ok blob ↔ m.fetch number index .leaf = .ok blob := by
  rw [fetch_eq_ok_iff, fetch_eq_ok_iff, position?_succ h]

theorem fetch_inherent (number : UInt32) (blob : Bytes) :
    m.fetch number 0 .extrinsic ≠ .ok blob := by
  intro h
  obtain ⟨_, p, -, hplace, -⟩ := (fetch_eq_ok_iff m _ _ _ _).mp h
  cases hplace

theorem toNat_height (hlen : m.blocks.length < 2 ^ 32) : m.height.toNat = m.blocks.length :=
  UInt32.toNat_ofNat_of_lt' hlen

theorem block?_eq_none_iff (hlen : m.blocks.length < 2 ^ 32) (number : UInt32) :
    m.block? number = none ↔ number = 0 ∨ m.height < number := by
  rw [block?]
  by_cases hzero : number = 0
  · simp [hzero]
  · have hpos : number.toNat ≠ 0 := fun h => hzero (UInt32.toNat_inj.mp h)
    rw [if_neg hzero, List.getElem?_eq_none_iff, UInt32.lt_iff_toNat_lt, toNat_height hlen]
    constructor
    · intro h
      exact .inr (by omega)
    · rintro (h | h)
      · exact absurd h hzero
      · omega

/-- A block is called unknown by its own number, and only if there is none. -/
theorem fetch_eq_unknownBlock_iff (hlen : m.blocks.length < 2 ^ 32)
    (number other index : UInt32) (kind : IndexKind) :
    m.fetch number index kind = .error (.unknownBlock other) ↔
      other = number ∧ (number = 0 ∨ m.height < number) := by
  rw [← block?_eq_none_iff hlen, fetch]
  cases m.block? number with
  | none => simp [eq_comm]
  | some b => cases h : (position? index kind).bind fun p => b.submissions[p]? <;> simp [h]

end Reading

section Pushing

variable (blobs : List Bytes) (hroom : (m.pushBlock blobs).2.blocks.length < 2 ^ 32)

include hroom

theorem length_of_pushBlock : m.blocks.length < 2 ^ 32 - 1 := by
  rw [pushBlock, List.length_append, List.length_singleton] at hroom
  omega

/-- The number told next is no block's yet. -/
theorem block?_nextNumber : m.block? m.nextNumber = none := by
  have hlen := length_of_pushBlock blobs hroom
  rw [block?, if_neg (nextNumber_ne_zero m hlen), toNat_nextNumber m hlen]
  exact List.getElem?_eq_none (Nat.le_refl _)

/-- Pushing a block changes no other block. -/
theorem block?_pushBlock_cases {number : UInt32} {b : Block}
    (h : (m.pushBlock blobs).2.block? number = some b) :
    m.block? number = some b ∨ number = m.nextNumber ∧ b = sealed number blobs := by
  have hlen := length_of_pushBlock blobs hroom
  by_cases hnext : number = m.nextNumber
  · rw [hnext, block?_pushBlock m blobs hlen] at h
    exact .inr ⟨hnext, hnext ▸ (Option.some.inj h).symm⟩
  · refine .inl ?_
    have hne : number.toNat ≠ m.blocks.length + 1 := by
      rw [← toNat_nextNumber m hlen]
      exact fun heq => hnext (UInt32.toNat_inj.mp heq)
    unfold block? at h ⊢
    by_cases hzero : number = 0
    · rw [if_pos hzero] at h
      cases h
    · have hpos : number.toNat ≠ 0 := fun heq => hzero (UInt32.toNat_inj.mp heq)
      rw [if_neg hzero] at h ⊢
      have hbound := (List.getElem?_eq_some_iff.mp h).1
      rw [pushBlock, List.length_append, List.length_singleton] at hbound
      rw [pushBlock, List.getElem?_append_left (by omega)] at h
      exact h

theorem Sealed.pushBlock (h : m.Sealed) : (m.pushBlock blobs).2.Sealed := by
  intro number b hb
  rcases block?_pushBlock_cases blobs hroom hb with hold | ⟨-, rfl⟩
  · exact h number b hold
  · rfl

end Pushing

namespace Traffic

variable {t t' : Traffic} {e : Event} {events : List Event}

def Stage.number? : Stage → Option UInt32
  | .placed number => some number
  | .ended (.returned (.ok i)) => some i.blockNumber
  | _ => none

/-- A submission has not lost its block: the block that it has made holds its blob alone, and
what it has told of this block is so. -/
structure Submission.Placed (m : Memory) (s : Submission) : Prop where
  whole : s.stage ≠ .ended .brokeDown
  block : ∀ number, s.stage.number? = some number → m.block? number = some (sealed number [s.blob])
  told : ∀ i, s.stage = .ended (.returned (.ok i)) →
    i.blockHash = (sealed i.blockNumber [s.blob]).hash ∧ i.index = inherents

theorem Submission.Placed.mono {m' : Memory} {s : Submission} (h : s.Placed m)
    (hext : m.Extends m') : s.Placed m' :=
  ⟨h.whole, fun number hnumber => block?_mono m m' hext number _ (h.block number hnumber), h.told⟩

section Turns

variable {blob : Bytes} {m' : Memory} {stage stage' : Stage}

/-- All that a submission can do next. -/
theorem advance_cases (h : advance blob m stage = some (m', stage')) :
    (∃ reason, stage = .called ∧ m' = m ∧
      stage' = .ended (.returned (.error (.rejected reason)))) ∨
    (stage = .called ∧ m' = m ∧ stage' = .admitted) ∨
    (stage = .admitted ∧ m' = (m.pushBlock [blob]).2 ∧ stage' = .placed m.nextNumber) ∨
    (∃ number b, stage = .placed number ∧ m.block? number = some b ∧ m' = m ∧
      stage' = .ended (.returned (.ok ⟨number, b.hash, inherents⟩))) ∨
    (∃ number, stage = .placed number ∧ m.block? number = none ∧ m' = m ∧
      stage' = .ended .brokeDown) := by
  cases stage with
  | called =>
    rw [advance] at h
    split at h
    · cases h
      exact .inl ⟨_, rfl, rfl, rfl⟩
    · cases h
      exact .inr (.inl ⟨rfl, rfl, rfl⟩)
  | admitted =>
    cases h
    exact .inr (.inr (.inl ⟨rfl, rfl, rfl⟩))
  | placed number =>
    rw [advance] at h
    split at h
    · rename_i b hb
      cases h
      exact .inr (.inr (.inr (.inl ⟨number, b, rfl, hb, rfl, rfl⟩)))
    · rename_i hb
      cases h
      exact .inr (.inr (.inr (.inr ⟨number, rfl, hb, rfl, rfl⟩)))
  | ended result => cases h

theorem extends_advance (h : advance blob m stage = some (m', stage')) : m.Extends m' := by
  rcases advance_cases h with ⟨_, -, rfl, -⟩ | ⟨-, rfl, -⟩ | ⟨-, rfl, -⟩ | ⟨_, _, -, -, rfl, -⟩ |
    ⟨_, -, -, rfl, -⟩
  · exact Extends.refl _
  · exact Extends.refl _
  · exact extends_pushBlock m [blob]
  · exact Extends.refl _
  · exact Extends.refl _

/-- The next step of a submission leaves it with its block, which it keeps or has made just now. -/
theorem placed_advance (h : advance blob m stage = some (m', stage'))
    (hroom : m'.blocks.length < 2 ^ 32) (hplaced : Submission.Placed m ⟨blob, stage⟩) :
    Submission.Placed m' ⟨blob, stage'⟩ ∧
      (stage'.number? = stage.number? ∨ stage'.number? = some m.nextNumber ∧
        m.block? m.nextNumber = none) := by
  rcases advance_cases h with ⟨reason, rfl, rfl, rfl⟩ | ⟨rfl, rfl, rfl⟩ | ⟨rfl, rfl, rfl⟩ |
    ⟨number, b, rfl, hb, rfl, rfl⟩ | ⟨number, rfl, hb, rfl, rfl⟩
  · exact ⟨⟨nofun, nofun, nofun⟩, .inl rfl⟩
  · exact ⟨⟨nofun, nofun, nofun⟩, .inl rfl⟩
  · refine ⟨⟨nofun, ?_, nofun⟩, .inr ⟨rfl, block?_nextNumber [blob] hroom⟩⟩
    rintro number ⟨⟩
    exact block?_pushBlock m [blob] (length_of_pushBlock [blob] hroom)
  · have hown := hplaced.block number rfl
    obtain rfl : b = sealed number [blob] := Option.some.inj (hb.symm.trans hown)
    refine ⟨⟨nofun, ?_, ?_⟩, .inl rfl⟩
    · rintro number ⟨⟩
      exact hown
    · rintro i ⟨⟩
      exact ⟨rfl, rfl⟩
  · rw [hplaced.block number rfl] at hb
    cases hb

end Turns

theorem extends_step (h : Step t e t') : t.memory.Extends t'.memory := by
  cases h with
  | call blob => exact Extends.refl _
  | turn i s m stage hs hturn => exact extends_advance hturn
  | push blobs => exact extends_pushBlock _ blobs
  | refuse reason => exact Extends.refl t.memory
  | delay d => exact Extends.refl t.memory

theorem extends_run (h : Run t events t') : t.memory.Extends t'.memory := by
  induction h with
  | nil => exact Extends.refl _
  | snoc _ hstep ih => exact ih.trans (extends_step hstep)

structure Sound (t : Traffic) : Prop where
  blocks : t.memory.Sealed
  placed : ∀ (i : Nat) (s : Submission), t.submissions[i]? = some s → s.Placed t.memory
  apart : ∀ (i : Nat) (s : Submission), t.submissions[i]? = some s →
    ∀ (j : Nat) (s' : Submission), t.submissions[j]? = some s' →
      ∀ number, s.stage.number? = some number → s'.stage.number? = some number → i = j

theorem sound_start : Sound start := by
  refine ⟨?_, nofun, nofun⟩
  intro number b hb
  simp [block?, start, empty] at hb

/-- What changes the memory alone keeps all blocks where they are. -/
theorem Sound.grow (h : Sound t) {m : Memory} (hext : t.memory.Extends m) (hsealed : m.Sealed) :
    Sound { t with memory := m } :=
  ⟨hsealed, fun i s hs => (h.placed i s hs).mono hext, h.apart⟩

theorem Sound.call (h : Sound t) (blob : Bytes) :
    Sound { t with submissions := t.submissions ++ [⟨blob, .called⟩] } := by
  refine ⟨h.blocks, forall_concat ⟨nofun, nofun, nofun⟩ h.placed, ?_⟩
  refine forall_concat nofun ?_
  intro i s hs
  exact forall_concat nofun (h.apart i s hs)

/-- A turn of one submission keeps the places of all. -/
theorem Sound.turn (h : Sound t) {i : Nat} {s : Submission} {m : Memory} {stage : Stage}
    (hs : t.submissions[i]? = some s) (hturn : advance s.blob t.memory s.stage = some (m, stage))
    (hroom : m.blocks.length < 2 ^ 32) :
    Sound ⟨m, t.submissions.set i { s with stage := stage }⟩ := by
  have hext := extends_advance hturn
  obtain ⟨hplaced, hnumber⟩ := placed_advance hturn hroom (h.placed i s hs)
  -- No other submission has the number that this one has now.
  have hothers : ∀ (j : Nat) (s' : Submission), j ≠ i → t.submissions[j]? = some s' →
      ∀ number, s'.stage.number? = some number → stage.number? ≠ some number := by
    intro j s' hne hs' number hown hsame
    rcases hnumber with hkept | ⟨hnew, hfree⟩
    · exact hne (h.apart j s' hs' i s hs number hown (hkept ▸ hsame))
    · obtain rfl : t.memory.nextNumber = number := Option.some.inj (hnew.symm.trans hsame)
      rw [(h.placed j s' hs').block _ hown] at hfree
      cases hfree
  refine ⟨?_, forall_set hs hplaced fun j s' _ hs' => (h.placed j s' hs').mono hext, ?_⟩
  · rcases advance_cases hturn with ⟨_, -, rfl, -⟩ | ⟨-, rfl, -⟩ | ⟨-, rfl, -⟩ |
      ⟨_, _, -, -, rfl, -⟩ | ⟨_, -, -, rfl, -⟩
    · exact h.blocks
    · exact h.blocks
    · exact h.blocks.pushBlock [s.blob] hroom
    · exact h.blocks
    · exact h.blocks
  · refine forall_set hs ?_ ?_
    · refine forall_set hs (fun _ _ _ => rfl) ?_
      intro j s' hne hs' number hsame hown
      exact absurd hsame (hothers j s' hne hs' number hown)
    · intro j s' hne hs'
      refine forall_set hs ?_ fun k s'' _ hs'' => h.apart j s' hs' k s'' hs''
      intro number hown hsame
      exact absurd hsame (hothers j s' hne hs' number hown)

theorem step_sound (h : Step t e t') (hsound : Sound t) (hroom : t'.memory.blocks.length < 2 ^ 32) :
    Sound t' := by
  cases h with
  | call blob => exact hsound.call blob
  | turn i s m stage hs hturn => exact hsound.turn hs hturn hroom
  | push blobs =>
    exact hsound.grow (extends_pushBlock _ blobs) (hsound.blocks.pushBlock blobs hroom)
  | refuse reason => exact hsound.grow (Extends.refl t.memory) hsound.blocks
  | delay d => exact hsound.grow (Extends.refl t.memory) hsound.blocks

theorem run_sound (h : Run start events t) (hroom : t.memory.blocks.length < 2 ^ 32) : Sound t := by
  induction h with
  | nil => exact sound_start
  | snoc _ hstep ih =>
    have hle := (extends_step hstep).length_le
    exact step_sound hstep (ih (by omega)) hroom

/-- The submission that was called last takes its next step. -/
theorem Run.snoc_turn {submissions : List Submission} {blob : Bytes} {m' : Memory}
    {stage stage' : Stage} (h : Run t events ⟨m, submissions ++ [⟨blob, stage⟩]⟩)
    (hturn : advance blob m stage = some (m', stage')) :
    Run t (events ++ [.turn submissions.length]) ⟨m', submissions ++ [⟨blob, stage'⟩]⟩ := by
  have hstep := @Step.turn ⟨m, submissions ++ [⟨blob, stage⟩]⟩ submissions.length ⟨blob, stage⟩ m'
    stage' List.getElem?_concat_length hturn
  simp only [set_length_append] at hstep
  exact h.snoc hstep

theorem advance_placed (blob : Bytes) {number : UInt32} {b : Block}
    (h : m.block? number = some b) : advance blob m (.placed number) =
      some (m, .ended (.returned (.ok ⟨number, m.blockHash number, inherents⟩))) := by
  rw [advance, blockHash, h]

/-- A submission that nothing comes between is one call, as long as block numbers do not run
out. -/
theorem exists_run_of_submit (t : Traffic) (blob : Bytes) : ∃ events stage,
    Run t events ⟨(t.memory.submit blob).2, t.submissions ++ [⟨blob, stage⟩]⟩ ∧
      (t.memory.blocks.length < 2 ^ 32 - 1 →
        stage = .ended (.returned (t.memory.submit blob).1)) := by
  have hcalled : Run t [.call blob] ⟨t.memory, t.submissions ++ [⟨blob, .called⟩]⟩ :=
    Steps.nil.snoc (.call t blob)
  cases hreason : t.memory.rejectReason with
  | some reason =>
    have hrefused : t.memory.submit blob = (.error (.rejected reason), t.memory) := by
      rw [submit, hreason]
    rw [hrefused]
    exact ⟨_, _, hcalled.snoc_turn (by rw [advance, hreason]), fun _ => rfl⟩
  | none =>
    have hnext : advance blob t.memory .called = some (t.memory, .admitted) := by
      rw [advance, hreason]
    have hadmitted := hcalled.snoc_turn hnext
    have hplaced : Run t _ ⟨(t.memory.pushBlock [blob]).2, t.submissions ++
        [⟨blob, .placed t.memory.nextNumber⟩]⟩ := hadmitted.snoc_turn rfl
    rw [submit_of_accepts t.memory blob hreason]
    by_cases hlen : t.memory.blocks.length < 2 ^ 32 - 1
    · have hblock := block?_pushBlock t.memory [blob] hlen
      exact ⟨_, _, hplaced.snoc_turn (advance_placed blob hblock), fun _ => rfl⟩
    · exact ⟨_, _, hplaced, fun h => absurd h hlen⟩

/-- Whatever calls go together on a chain in memory, what is read at a place is read there for good,
and the two ways to count places differ by the one extrinsic that stands first. A block is unknown
when its number is zero or beyond the height. An accepted submission was told the number and the
hash of a block that holds its blob alone, and the number was told to no other. What the hashes of
blocks are taken from differs with their numbers. A submission that nothing comes between does what
the call does. -/
theorem append_only (hrun : Run start events t) (hroom : t.memory.blocks.length < 2 ^ 32) :
    (∀ (number index : UInt32) (blob : Bytes), index.toNat < 2 ^ 32 - 1 →
      (t.memory.fetch number (index + 1) .extrinsic = .ok blob ↔
        t.memory.fetch number index .leaf = .ok blob)) ∧
    (∀ (number : UInt32) (blob : Bytes), t.memory.fetch number 0 .extrinsic ≠ .ok blob) ∧
    (∀ (number index : UInt32) (kind : IndexKind) (blob : Bytes),
      t.memory.fetch number index kind = .ok blob → ∀ later t', Run t later t' →
        t'.memory.fetch number index kind = .ok blob) ∧
    (∀ (number other index : UInt32) (kind : IndexKind),
      t.memory.fetch number index kind = .error (.unknownBlock other) ↔
        other = number ∧ (number = 0 ∨ t.memory.height < number)) ∧
    (∀ (i : Nat) (s : Submission), t.submissions[i]? = some s →
      s.stage ≠ .ended .brokeDown ∧
      ∀ told, s.stage = .ended (.returned (.ok told)) →
        (∃ b, t.memory.block? told.blockNumber = some b ∧ b.submissions = [s.blob] ∧
          b.hash = told.blockHash ∧ told.index = inherents) ∧
        ∀ (j : Nat) (s' : Submission) (told' : Inclusion), t.submissions[j]? = some s' → j ≠ i →
          s'.stage = .ended (.returned (.ok told')) → told'.blockNumber ≠ told.blockNumber) ∧
    (∀ (number : UInt32) (b : Block), t.memory.block? number = some b →
      b.hash = keccak (preimage number b.submissions) ∧
      ∀ number' blobs, number' ≠ number →
        preimage number' blobs ≠ preimage number b.submissions) ∧
    (∀ blob, ∃ events stage,
      Run t events ⟨(t.memory.submit blob).2, t.submissions ++ [⟨blob, stage⟩]⟩ ∧
      (t.memory.blocks.length < 2 ^ 32 - 1 →
        stage = .ended (.returned (t.memory.submit blob).1))) := by
  have hsound := run_sound hrun hroom
  refine ⟨fun number _ blob hindex => fetch_extrinsic_iff number hindex blob,
    fetch_inherent, ?_, fetch_eq_unknownBlock_iff hroom, ?_, ?_, exists_run_of_submit t⟩
  · intro number index kind blob hread later t' hlater
    exact fetch_mono _ _ (extends_run hlater) number index kind blob hread
  · intro i s hs
    have hplaced := hsound.placed i s hs
    refine ⟨hplaced.whole, fun told htold => ⟨?_, ?_⟩⟩
    · have hblock := hplaced.block told.blockNumber (by rw [htold]; rfl)
      obtain ⟨hhash, hindex⟩ := hplaced.told told htold
      exact ⟨_, hblock, rfl, hhash.symm, hindex⟩
    · intro j s' told' hs' hne htold' hsame
      refine hne (hsound.apart j s' hs' i s hs told'.blockNumber ?_ ?_)
      · rw [htold']
        rfl
      · rw [htold, hsame]
        rfl
  · intro number b hb
    refine ⟨congrArg Block.hash (hsound.blocks number b hb), ?_⟩
    intro number' blobs hne
    exact preimage_ne hne blobs b.submissions

/-- Two submissions of which the first makes its block last, after others have been refused and a
block has been pushed, and reads its hash last as well. -/
def crossing : List Event := [
  .call [1], .call [2], .turn 0, .turn 1, .turn 1, .refuse "full", .push [[3], [4]], .turn 0,
  .turn 1, .turn 0]

def crossed : Traffic where
  memory := ⟨[sealed 1 [[2]], sealed 2 [[3], [4]], sealed 3 [[1]]], some "full", none⟩
  submissions := [
    ⟨[1], .ended (.returned (.ok ⟨3, (sealed 3 [[1]]).hash, 1⟩))⟩,
    ⟨[2], .ended (.returned (.ok ⟨1, (sealed 1 [[2]]).hash, 1⟩))⟩]

theorem run_crossing : Run start crossing crossed := by
  have hadmitted : Run start [.call [1], .call [2], .turn 0, .turn 1]
      ⟨empty, [⟨[1], .admitted⟩, ⟨[2], .admitted⟩]⟩ :=
    (((Steps.nil (s := start)).snoc (.call _ [1])).snoc (.call _ [2])).snoc
      (.turn _ 0 ⟨[1], .called⟩ empty .admitted rfl rfl) |>.snoc
      (.turn _ 1 ⟨[2], .called⟩ empty .admitted rfl rfl)
  have hsecond := hadmitted.snoc
    (.turn _ 1 ⟨[2], .admitted⟩ ⟨[sealed 1 [[2]]], none, none⟩ (.placed 1) rfl rfl)
  have hothers := (hsecond.snoc (.refuse _ "full")).snoc (.push _ [[3], [4]])
  have hfirst := hothers.snoc (.turn _ 0 ⟨[1], .admitted⟩ crossed.memory (.placed 3) rfl rfl)
  have hread := hfirst.snoc (.turn _ 1 ⟨[2], .placed 1⟩ crossed.memory
    (.ended (.returned (.ok ⟨1, (sealed 1 [[2]]).hash, 1⟩))) rfl rfl)
  exact hread.snoc (.turn _ 0 ⟨[1], .placed 3⟩ crossed.memory
    (.ended (.returned (.ok ⟨3, (sealed 3 [[1]]).hash, 1⟩))) rfl rfl)

/-- The blobs of the block that was pushed in between stay where they are, and the submission that
is last learns of the block that holds its own blob. -/
theorem append_only_crossed :
    Run start crossing crossed ∧ crossed.memory.blocks.length < 2 ^ 32 ∧
    crossed.memory.fetch 2 2 .extrinsic = .ok [4] ∧
    (∀ later t', Run crossed later t' → t'.memory.fetch 2 2 .extrinsic = .ok [4]) ∧
    crossed.memory.fetch 4 0 .leaf = .error (.unknownBlock 4) ∧
    (∃ b, crossed.memory.block? 3 = some b ∧ b.submissions = [[1]] ∧
      b.hash = (sealed 3 [[1]]).hash ∧ (1 : UInt32) = inherents) ∧
    (3 : UInt32) ≠ 1 := by
  have hroom : crossed.memory.blocks.length < 2 ^ 32 := by decide
  obtain ⟨hkinds, -, hkept, hunknown, hown, -⟩ := append_only run_crossing hroom
  have hread : crossed.memory.fetch 2 2 .extrinsic = .ok [4] :=
    (hkinds 2 1 [4] (by decide)).mpr rfl
  obtain ⟨hblock, hothers⟩ := (hown 0 _ rfl).2 _ rfl
  exact ⟨run_crossing, hroom, hread, hkept 2 2 .extrinsic [4] hread,
    (hunknown 4 4 0 .leaf).mpr ⟨rfl, .inr (by decide)⟩, hblock,
    fun h => hothers 1 _ _ rfl (by decide) rfl h.symm⟩

end Traffic

end Validium.Chain.Memory
