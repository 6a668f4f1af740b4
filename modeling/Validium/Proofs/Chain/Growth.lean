import Validium.Chain.Memory
import Validium.Proofs.World.Passage

/-!
The growth of a chain in memory. Blocks are only ever added at the end, so a blob read at a
place of a block is read there for good. A submission that is not refused is read back at
the place it was given, as long as block numbers fit 32 bits.
-/
namespace Validium.Chain.Memory

variable {W : Type}

def Extends (m m' : Memory) : Prop := m.blocks <+: m'.blocks

theorem Extends.refl (m : Memory) : m.Extends m := List.prefix_rfl

theorem Extends.trans {a b c : Memory} (hab : a.Extends b) (hbc : b.Extends c) : a.Extends c :=
  List.IsPrefix.trans hab hbc

theorem extends_pushBlock (m : Memory) (blobs : List Bytes) :
    m.Extends (m.pushBlock blobs).2 :=
  List.prefix_append m.blocks _

theorem extends_submit (m : Memory) (blob : Bytes) : m.Extends (m.submit blob).2 := by
  unfold submit
  cases m.rejectReason with
  | some reason => exact Extends.refl m
  | none => exact extends_pushBlock m [blob]

theorem block?_mono (m m' : Memory) (hext : m.Extends m') (number : UInt32) (b : Block)
    (h : m.block? number = some b) : m'.block? number = some b := by
  unfold block? at h ⊢
  by_cases hzero : number = 0
  · rw [if_pos hzero] at h
    cases h
  · rw [if_neg hzero] at h ⊢
    obtain ⟨added, hadded⟩ := hext
    obtain ⟨hlt, -⟩ := List.getElem?_eq_some_iff.mp h
    rw [← hadded, List.getElem?_append_left hlt]
    exact h

/-- A blob is read where a block with submissions has it at the place meant. -/
theorem fetch_eq_ok_iff (m : Memory) (number index : UInt32) (kind : IndexKind)
    (blob : Bytes) : m.fetch number index kind = .ok blob ↔
      ∃ b p, m.block? number = some b ∧ position? index kind = some p ∧
        b.submissions[p]? = some blob := by
  unfold fetch
  cases m.block? number with
  | none => simp
  | some b =>
    cases position? index kind with
    | none => simp
    | some p =>
      cases hfound : b.submissions[p]? with
      | none => simp [hfound]
      | some found => simp [hfound]

/-- A blob that was found is found in every longer chain. -/
theorem fetch_mono (m m' : Memory) (hext : m.Extends m') (number index : UInt32)
    (kind : IndexKind) (blob : Bytes) (h : m.fetch number index kind = .ok blob) :
    m'.fetch number index kind = .ok blob := by
  obtain ⟨b, p, hblock, hplace, hfound⟩ := (fetch_eq_ok_iff m _ _ _ _).mp h
  exact (fetch_eq_ok_iff m' _ _ _ _).mpr
    ⟨b, p, block?_mono m m' hext number b hblock, hplace, hfound⟩

theorem toNat_nextNumber (m : Memory) (hlen : m.blocks.length < 2 ^ 32 - 1) :
    m.nextNumber.toNat = m.blocks.length + 1 := by
  have hheight : m.height.toNat = m.blocks.length := by
    rw [height, UInt32.toNat_ofNat']
    omega
  rw [nextNumber, UInt32.toNat_add, hheight]
  have hone : (1 : UInt32).toNat = 1 := rfl
  omega

theorem nextNumber_ne_zero (m : Memory) (hlen : m.blocks.length < 2 ^ 32 - 1) :
    m.nextNumber ≠ 0 := by
  have hnumber := toNat_nextNumber m hlen
  intro hzero
  rw [hzero] at hnumber
  cases hnumber

/-- A block that was pushed is found under its number. -/
theorem block?_pushBlock (m : Memory) (blobs : List Bytes)
    (hlen : m.blocks.length < 2 ^ 32 - 1) :
    (m.pushBlock blobs).2.block? m.nextNumber =
      some ⟨keccak (preimage m.nextNumber blobs), blobs⟩ := by
  rw [block?, if_neg (nextNumber_ne_zero m hlen), toNat_nextNumber m hlen]
  exact List.getElem?_concat_length

/-- A submission that is not refused makes one block with the blob in it. -/
theorem submit_of_accepts (m : Memory) (blob : Bytes) (haccepts : m.rejectReason = none) :
    m.submit blob =
      (.ok ⟨m.nextNumber, (m.pushBlock [blob]).2.blockHash m.nextNumber, inherents⟩,
        (m.pushBlock [blob]).2) := by
  rw [submit, haccepts]
  rfl

/-- A submission is read back at the place it was given, and as the first leaf of its block. -/
theorem fetch_submit (m : Memory) (blob : Bytes) (haccepts : m.rejectReason = none)
    (hlen : m.blocks.length < 2 ^ 32 - 1) :
    ∃ i : Inclusion, (m.submit blob).1 = .ok i ∧
      (m.submit blob).2.fetch i.blockNumber i.index .extrinsic = .ok blob ∧
      i.blockNumber ≠ 0 ∧ (m.submit blob).2.fetch i.blockNumber 0 .leaf = .ok blob := by
  have hblock := block?_pushBlock m [blob] hlen
  have hextrinsic : position? inherents .extrinsic = some 0 := by decide
  have hleaf : position? 0 .leaf = some 0 := by decide
  rw [submit_of_accepts m blob haccepts]
  refine ⟨_, rfl, (fetch_eq_ok_iff _ _ _ _ _).mpr ⟨_, 0, hblock, hextrinsic, rfl⟩,
    nextNumber_ne_zero m hlen, (fetch_eq_ok_iff _ _ _ _ _).mpr ⟨_, 0, hblock, hleaf, rfl⟩⟩

section World

variable (part : Part W Memory) (delay : Duration → StateM W Unit)

def growth : Passage W :=
  ⟨fun w w' => (part.view w).Extends (part.view w'), fun w => Extends.refl (part.view w),
    Extends.trans⟩

theorem growth_of_untouched (w w' : W) (h : (Passage.untouched part).leads w w') :
    (growth part).leads w w' := by
  have hview : part.view w' = part.view w := h
  show (part.view w).Extends (part.view w')
  rw [hview]
  exact Extends.refl (part.view w)

def pass : StateM W Unit := do
  match (part.view (← get)).latency with
  | some d => delay d
  | none => return ()

theorem admits_pass (p : Passage W) (hdelay : ∀ d, p.Admits (delay d)) :
    p.Admits (pass part delay) := by
  refine p.admits_bind _ _ p.admits_get ?_
  intro now
  cases (part.view now).latency with
  | some d => exact hdelay d
  | none => exact p.admits_pure ()

section Calls

variable (hdelay : ∀ d, (Passage.untouched part).Admits (delay d))

include hdelay

/-- What a submission returns and leaves is what the chain makes of it, whatever time it
takes. -/
theorem submit_chain (hpart : part.Lawful) (blob : Bytes) (w : W) :
    ((chain part delay).submit blob w).1 = .returned ((part.view w).submit blob).1 ∧
      part.view ((chain part delay).submit blob w).2 = ((part.view w).submit blob).2 := by
  have hpass : part.view (pass part delay w).2 = part.view w :=
    admits_pass part delay (Passage.untouched part) hdelay w
  have hrun : (chain part delay).submit blob w =
      part.run (fun m => (.returned (m.submit blob).1, (m.submit blob).2))
        (pass part delay w).2 := rfl
  rw [hrun, ← hpass]
  exact ⟨rfl, hpart.view_put _ _⟩

theorem fetch_chain (number index : UInt32) (kind : IndexKind) (w : W) :
    ((chain part delay).fetch number index kind w).1 =
      .returned ((part.view w).fetch number index kind) := by
  have hpass : part.view (pass part delay w).2 = part.view w :=
    admits_pass part delay (Passage.untouched part) hdelay w
  have hrun : (chain part delay).fetch number index kind w =
      part.run (fun m => (.returned (m.fetch number index kind), m)) (pass part delay w).2 := rfl
  rw [hrun, ← hpass]
  rfl

theorem untouched_admits_fetch (hpart : part.Lawful) (number index : UInt32)
    (kind : IndexKind) :
    (Passage.untouched part).Admits ((chain part delay).fetch number index kind) := by
  intro w
  exact (hpart.view_put _ _).trans (admits_pass part delay (Passage.untouched part) hdelay w)

theorem growth_admits_submit (hpart : part.Lawful) (blob : Bytes) :
    (growth part).Admits ((chain part delay).submit blob) := by
  intro w
  obtain ⟨-, hview⟩ := submit_chain part delay hdelay hpart blob w
  have hext := extends_submit (part.view w) blob
  rw [← hview] at hext
  exact hext

end Calls

theorem growth_admits_push (hpart : part.Lawful) (blobs : List Bytes) :
    (growth part).Admits (part.run fun m => m.pushBlock blobs) := by
  intro w
  have hview : part.view (part.run (fun m => m.pushBlock blobs) w).2 =
      ((part.view w).pushBlock blobs).2 := hpart.view_put _ _
  have hext := extends_pushBlock (part.view w) blobs
  rw [← hview] at hext
  exact hext

end World

end Validium.Chain.Memory
