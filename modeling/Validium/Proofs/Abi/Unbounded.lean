import Validium.Abi.Reader
import Validium.Proofs.Abi.Reading
import Validium.Proofs.Bytes

/-!
Reading contract data with positions that are natural numbers. Nothing goes over in these
readings, so they are what reading with 64-bit positions is meant to be. Each also notes what
it has done on its way: the sums and products of positions that nothing checks, and the
stretches of data that it has taken. The readers agree with these readings one by one, and
putting readings in a row keeps the agreement, so a format agrees as soon as its steps do.
-/
namespace Validium.Abi

inductive Deed where
  /-- A sum or product of positions was worked out, and nothing has looked at its size. -/
  | reckoned (n : Nat)
  /-- The bytes from `start` to `stop` were taken out of `size`. -/
  | taken (start stop size : Nat)

def Deed.Sound : Deed → Prop
  | .reckoned n => n < 2 ^ 64
  | .taken start stop size => start ≤ stop ∧ stop ≤ size

structure Reading (ε α : Type) where
  deeds : List Deed
  result : Except ε α

namespace Reading

variable {ε δ α β : Type}

instance : Monad (Reading ε) where
  pure a := ⟨[], .ok a⟩
  bind x f :=
    match x.result with
    | .ok a => ⟨x.deeds ++ (f a).deeds, (f a).result⟩
    | .error e => ⟨x.deeds, .error e⟩

def fail (e : ε) : Reading ε α := ⟨[], .error e⟩

def reckon (n : Nat) : Reading ε Nat := ⟨[.reckoned n], .ok n⟩

def mapError (f : ε → δ) (x : Reading ε α) : Reading δ α := ⟨x.deeds, x.result.mapError f⟩

def each (item : Nat → Reading ε α) : Nat → Nat → Reading ε (List α)
  | 0, _ => pure []
  | count + 1, index => do
    let a ← item index
    let rest ← each item count (index + 1)
    return a :: rest

theorem bind_pure (x : Reading ε α) : x >>= Pure.pure = x := by
  obtain ⟨deeds, result⟩ := x
  cases result with
  | ok a => exact congrArg (Reading.mk · (.ok a)) (List.append_nil deeds)
  | error e => rfl

end Reading

def Error.saturated : Error → Error
  | .outOfRange offset value => .outOfRange offset (min value (2 ^ 64 - 1))
  | e => e

namespace Unbounded

open Reading

def sub (r : Region) (offset : Nat) : Reading Error Region :=
  if offset ≤ r.size then ⟨[.taken offset r.size r.size], .ok ⟨r.data.drop offset⟩⟩
  else fail (.outOfRange offset offset)

def slice (r : Region) (offset needed : Nat) : Reading Error Bytes :=
  if offset + needed ≤ r.size then
    ⟨[.taken offset (offset + needed) r.size], .ok ((r.data.drop offset).take needed)⟩
  else fail (.truncated offset needed r.size)

def wordAt (r : Region) (offset : Nat) : Reading Error Word :=
  if h : offset + 32 ≤ r.data.length then
    ⟨[.taken offset (offset + 32) r.size], .ok ⟨(r.data.drop offset).take 32, by simp; omega⟩⟩
  else fail (.truncated offset 32 r.size)

def uintAt (r : Region) (offset bits : Nat) : Reading Error Nat := do
  let w ← wordAt r offset
  if w.toNat < 2 ^ bits then return w.toNat else fail (.overflow offset bits)

def numberAt (r : Region) (offset : Nat) : Reading Error Nat := do
  return (← wordAt r offset).toNat

def offsetAt (r : Region) (offset : Nat) : Reading Error Nat := do
  let w ← wordAt r offset
  if w.toNat ≤ r.size then return w.toNat else fail (.outOfRange offset w.toNat)

def bytesAt (r : Region) (start : Nat) : Reading Error Bytes := do
  let length ← offsetAt r start
  slice r (← reckon (start + 32)) length

def room (r : Region) (start stride : Nat) : Nat := (r.size - start) / stride

def wordOf (r : Region) (start index : Nat) : Reading Error Word := do
  let step ← reckon (index * 32)
  wordAt r (← reckon (start + step))

def wordsAt (r : Region) (start : Nat) : Reading Error (List Word) := do
  let count ← offsetAt r start
  let first ← reckon (start + 32)
  if count ≤ room r first 32 then each (wordOf r first) count 0
  else fail (.outOfRange start count)

def decodeSingle (data : Bytes) : Reading Error Bytes := do
  let r : Region := ⟨data⟩
  bytesAt r (← offsetAt r 0)

end Unbounded

/-- A reader and an unbounded reading end in the same way, and all that the reading did on
its way is sound. Values are compared by a relation, errors as they are shown. -/
structure Agree {ε α β : Type} (shown : ε → ε) (same : α → β → Prop) (x : Except ε α)
    (u : Reading ε β) : Prop where
  sound : ∀ deed ∈ u.deeds, deed.Sound
  ends : (∃ a b, x = .ok a ∧ u.result = .ok b ∧ same a b) ∨
    ∃ e, x = .error (shown e) ∧ u.result = .error e

namespace Agree

variable {ε δ α β γ η : Type} {shown : ε → ε}

theorem pure {same : α → β → Prop} {a : α} {b : β} (h : same a b) :
    Agree shown same (.ok a) (Pure.pure b : Reading ε β) := by
  refine ⟨?_, Or.inl ⟨a, b, rfl, rfl, h⟩⟩
  intro deed hdeed
  cases hdeed

theorem fail {same : α → β → Prop} {e e' : ε} (h : e = shown e') :
    Agree shown same (.error e) (Reading.fail e' : Reading ε β) := by
  subst h
  refine ⟨?_, Or.inr ⟨e', rfl, rfl⟩⟩
  intro deed hdeed
  cases hdeed

/-- Readings that agree can be put one behind the other. -/
theorem bind {same : α → β → Prop} {same' : γ → η → Prop} {x : Except ε α} {u : Reading ε β}
    {f : α → Except ε γ} {g : β → Reading ε η} (h : Agree shown same x u)
    (hf : ∀ a b, same a b → Agree shown same' (f a) (g b)) :
    Agree shown same' (x >>= f) (u >>= g) := by
  obtain ⟨deeds, result⟩ := u
  obtain ⟨hsound, hends⟩ := h
  rcases hends with ⟨a, b, rfl, hresult, hab⟩ | ⟨e, rfl, hresult⟩
  · cases hresult
    obtain ⟨hsound', hends'⟩ := hf a b hab
    refine ⟨?_, hends'⟩
    intro deed hdeed
    rcases List.mem_append.mp hdeed with hfirst | hrest
    · exact hsound deed hfirst
    · exact hsound' deed hrest
  · cases hresult
    exact ⟨hsound, Or.inr ⟨e, rfl, rfl⟩⟩

/-- A sum or product that does not reach `2^64` may be worked out unchecked. -/
theorem reckon {same : α → β → Prop} {x : Except ε α} {n : Nat} {g : Nat → Reading ε β}
    (hn : n < 2 ^ 64) (h : Agree shown same x (g n)) :
    Agree shown same x (Reading.reckon n >>= g) := by
  obtain ⟨hsound, hends⟩ := h
  refine ⟨?_, hends⟩
  intro deed hdeed
  rcases List.mem_cons.mp hdeed with rfl | hrest
  · exact hn
  · exact hsound deed hrest

theorem mono {same same' : α → β → Prop} {x : Except ε α} {u : Reading ε β}
    (h : Agree shown same x u) (hsub : ∀ a b, same a b → same' a b) :
    Agree shown same' x u := by
  obtain ⟨hsound, hends⟩ := h
  refine ⟨hsound, ?_⟩
  rcases hends with ⟨a, b, hx, hu, hab⟩ | herror
  · exact Or.inl ⟨a, b, hx, hu, hsub a b hab⟩
  · exact Or.inr herror

theorem mapError {same : α → β → Prop} {x : Except ε α} {u : Reading ε β}
    (h : Agree shown same x u) (shown' : δ → δ) (f : ε → δ)
    (hshown : ∀ e, shown' (f e) = f (shown e)) :
    Agree shown' same (x.mapError f) (u.mapError f) := by
  obtain ⟨deeds, result⟩ := u
  obtain ⟨hsound, hends⟩ := h
  refine ⟨hsound, ?_⟩
  rcases hends with ⟨a, b, rfl, hresult, hab⟩ | ⟨e, rfl, hresult⟩
  · cases hresult
    exact Or.inl ⟨a, b, rfl, rfl, hab⟩
  · cases hresult
    exact Or.inr ⟨f e, by rw [hshown]; rfl, rfl⟩

end Agree

/-- A reader that gives exactly what an unbounded reading gives, errors as they are shown,
of which all deeds are sound and all values are within a bound. -/
structure Safe {ε α : Type} (shown : ε → ε) (bound : α → Prop) (x : Except ε α)
    (u : Reading ε α) : Prop where
  result : x = u.result.mapError shown
  sound : ∀ deed ∈ u.deeds, deed.Sound
  bounded : ∀ a, x = .ok a → bound a

/-- Agreement with the same result and a bound on it is safety. -/
theorem Agree.safe {ε α : Type} {shown : ε → ε} {bound : α → Prop} {x : Except ε α}
    {u : Reading ε α} (h : Agree shown (fun a b => a = b ∧ bound a) x u) :
    Safe shown bound x u := by
  obtain ⟨hsound, ⟨a, b, rfl, hresult, rfl, hbound⟩ | ⟨e, rfl, hresult⟩⟩ := h
  · refine ⟨by rw [hresult]; rfl, hsound, ?_⟩
    intro a' ha
    cases ha
    exact hbound
  · refine ⟨by rw [hresult]; rfl, hsound, ?_⟩
    intro a' ha
    cases ha

namespace Region

theorem toNat_saturate (w : Word) : (saturate w).toNat = min w.toNat (2 ^ 64 - 1) := by
  have hpow : UInt64.size = 2 ^ 64 := rfl
  unfold saturate
  by_cases hfits : w.toNat < UInt64.size
  · rw [if_pos hfits, UInt64.toNat_ofNat_of_lt' hfits]
    omega
  · rw [if_neg hfits]
    have hlargest : (0xffffffffffffffff : UInt64).toNat = 2 ^ 64 - 1 := rfl
    omega

/-- A number is read exactly when the whole word spells it and it is narrow enough. -/
theorem uintAt_eq_ok_iff (r : Region) (offset : UInt64) (bits : Nat) (h8 : bits % 8 = 0)
    (h128 : bits ≤ 128) (v : Nat) :
    r.uintAt offset bits = .ok v ↔
      ∃ w, r.wordAt offset = .ok w ∧ w.toNat = v ∧ v < 2 ^ bits := by
  unfold uintAt
  cases r.wordAt offset with
  | error e => simp [bind, Except.bind]
  | ok w =>
    simp only [bind, Except.bind, uint_of_word offset.toNat w bits h8 h128]
    by_cases hlt : w.toNat < 2 ^ bits
    · rw [if_pos hlt]
      constructor
      · rintro ⟨⟩
        exact ⟨w, rfl, rfl, hlt⟩
      · rintro ⟨w', ⟨⟩, rfl, -⟩
        rfl
    · rw [if_neg hlt]
      constructor
      · rintro ⟨⟩
      · rintro ⟨w', ⟨⟩, rfl, hlt'⟩
        exact absurd hlt' hlt

theorem room_eq (r : Region) (start : UInt64) (first stride : Nat) (h : start.toNat = first) :
    r.room start stride = Unbounded.room r first stride := by
  rw [room, Unbounded.room, h]

section Agreement

variable (r : Region) (hsize : r.size < 2 ^ 63)

theorem agree_sub (offset : UInt64) :
    Agree Error.saturated (fun s t => s = t ∧ s.size ≤ r.size) (r.sub offset)
      (Unbounded.sub r offset.toNat) := by
  unfold sub Unbounded.sub
  by_cases hle : offset.toNat ≤ r.size
  · rw [if_pos hle, if_pos hle]
    refine ⟨?_, Or.inl ⟨_, _, rfl, rfl, rfl, ?_⟩⟩
    · intro deed hdeed
      cases List.mem_singleton.mp hdeed
      exact ⟨hle, Nat.le_refl _⟩
    · simp [size]
  · rw [if_neg hle, if_neg hle]
    have hlt := offset.toNat_lt
    have hmin : min offset.toNat (2 ^ 64 - 1) = offset.toNat := by omega
    exact Agree.fail (by rw [Error.saturated, hmin])

include hsize

theorem agree_slice (offset needed : UInt64) :
    Agree Error.saturated (fun a b => a = b ∧ offset.toNat + a.length ≤ r.size)
      (r.slice offset needed) (Unbounded.slice r offset.toNat needed.toNat) := by
  unfold slice Unbounded.slice
  by_cases hle : offset.toNat + needed.toNat ≤ r.size
  · have hfits : offset.toNat + needed.toNat < UInt64.size ∧
        offset.toNat + needed.toNat ≤ r.size := by
      refine ⟨?_, hle⟩
      have hpow : UInt64.size = 2 ^ 64 := rfl
      omega
    dsimp only
    rw [if_pos hfits, if_pos hle]
    refine ⟨?_, Or.inl ⟨_, _, rfl, rfl, rfl, ?_⟩⟩
    · intro deed hdeed
      cases List.mem_singleton.mp hdeed
      exact ⟨Nat.le_add_right _ _, hle⟩
    · have hlen := List.length_take_le needed.toNat (r.data.drop offset.toNat)
      omega
  · have hnot : ¬ (offset.toNat + needed.toNat < UInt64.size ∧
        offset.toNat + needed.toNat ≤ r.size) := fun h => hle h.2
    dsimp only
    rw [if_neg hnot, if_neg hle]
    exact Agree.fail rfl

theorem agree_wordAt (offset : UInt64) :
    Agree Error.saturated (fun a b => a = b ∧ offset.toNat + 32 ≤ r.size) (r.wordAt offset)
      (Unbounded.wordAt r offset.toNat) := by
  unfold wordAt Unbounded.wordAt
  by_cases hle : offset.toNat + 32 ≤ r.data.length
  · have hfits : offset.toNat + 32 < UInt64.size ∧ offset.toNat + 32 ≤ r.data.length := by
      refine ⟨?_, hle⟩
      have hpow : UInt64.size = 2 ^ 64 := rfl
      have hdata : r.data.length = r.size := rfl
      omega
    rw [dif_pos hfits, dif_pos hle]
    refine ⟨?_, Or.inl ⟨_, _, rfl, rfl, rfl, hle⟩⟩
    intro deed hdeed
    cases List.mem_singleton.mp hdeed
    exact ⟨Nat.le_add_right _ _, hle⟩
  · have hnot : ¬ (offset.toNat + 32 < UInt64.size ∧ offset.toNat + 32 ≤ r.data.length) :=
      fun h => hle h.2
    rw [dif_neg hnot, dif_neg hle]
    exact Agree.fail rfl

theorem agree_uintAt (offset : UInt64) (bits : Nat) (h8 : bits % 8 = 0) (h128 : bits ≤ 128) :
    Agree Error.saturated (fun a b => a = b ∧ a < 2 ^ bits) (r.uintAt offset bits)
      (Unbounded.uintAt r offset.toNat bits) := by
  refine Agree.bind (agree_wordAt r hsize offset) ?_
  rintro w _ ⟨rfl, -⟩
  rw [uint_of_word offset.toNat w bits h8 h128]
  by_cases hlt : w.toNat < 2 ^ bits
  · rw [if_pos hlt, if_pos hlt]
    exact Agree.pure ⟨rfl, hlt⟩
  · rw [if_neg hlt, if_neg hlt]
    exact Agree.fail rfl

theorem agree_numberAt (offset : UInt64) :
    Agree Error.saturated (fun a b => a = b ∧ True) (r.numberAt offset)
      (Unbounded.numberAt r offset.toNat) := by
  have hmap : r.numberAt offset = r.wordAt offset >>= fun w => .ok w.toNat := by
    unfold numberAt
    cases r.wordAt offset <;> rfl
  rw [hmap]
  refine Agree.bind (agree_wordAt r hsize offset) ?_
  rintro w _ ⟨rfl, -⟩
  exact Agree.pure ⟨rfl, trivial⟩

theorem agree_offsetAt (offset : UInt64) :
    Agree Error.saturated
      (fun a n => a.toNat = n ∧ n ≤ r.size ∧ offset.toNat + 32 ≤ r.size) (r.offsetAt offset)
      (Unbounded.offsetAt r offset.toNat) := by
  refine Agree.bind (agree_wordAt r hsize offset) ?_
  rintro w _ ⟨rfl, hroom⟩
  have hsaturate := toNat_saturate w
  by_cases hle : w.toNat ≤ r.size
  · have hvalue : (saturate w).toNat = w.toNat := by omega
    dsimp only
    rw [hvalue, if_pos hle, if_pos hle]
    exact Agree.pure ⟨hvalue, hle, hroom⟩
  · have hover : ¬ (saturate w).toNat ≤ r.size := by omega
    dsimp only
    rw [if_neg hover, if_neg hle]
    exact Agree.fail (by rw [Error.saturated, hsaturate])

/-- A word that is too large for an offset is refused, however large it is. -/
theorem offsetAt_of_large (offset : UInt64) (w : Word) (hw : r.wordAt offset = .ok w)
    (hlarge : r.size < w.toNat) :
    r.offsetAt offset = .error (.outOfRange offset.toNat (min w.toNat (2 ^ 64 - 1))) := by
  have hover : ¬ min w.toNat (2 ^ 64 - 1) ≤ r.size := by omega
  simp only [offsetAt, hw, bind, Except.bind, toNat_saturate, if_neg hover]

theorem agree_bytesAt (start : UInt64) :
    Agree Error.saturated (fun a b => a = b ∧ start.toNat + 32 + a.length ≤ r.size)
      (r.bytesAt start) (Unbounded.bytesAt r start.toNat) := by
  refine Agree.bind (agree_offsetAt r hsize start) ?_
  rintro length _ ⟨rfl, -, hroom⟩
  have hadd := toNat_add_32 r start (by omega) hroom
  have hslice := agree_slice r hsize (start + 32) length
  rw [hadd] at hslice
  exact Agree.reckon (by omega) hslice

/-- The cursor does not wrap while the table has room for the words. -/
theorem agree_wordsFrom (start : Nat) (count index : Nat) (cursor : UInt64)
    (hcursor : cursor.toNat = start + index * 32)
    (hroom : start + (index + count) * 32 ≤ r.size) :
    Agree Error.saturated (fun a b => a = b ∧ a.length = count) (r.wordsFrom count cursor)
      (Reading.each (Unbounded.wordOf r start) count index) := by
  induction count generalizing index cursor with
  | zero => exact Agree.pure ⟨rfl, rfl⟩
  | succ count ih =>
    have hword := agree_wordAt r hsize cursor
    rw [hcursor] at hword
    have hitem : Agree Error.saturated (fun a b => a = b ∧ start + index * 32 + 32 ≤ r.size)
        (r.wordAt cursor) (Unbounded.wordOf r start index) :=
      Agree.reckon (by omega) (Agree.reckon (by omega) hword)
    refine Agree.bind hitem ?_
    rintro w _ ⟨rfl, hend⟩
    have hadd := toNat_add_32 r cursor (by omega) (by omega)
    have hrest := ih (index + 1) (cursor + 32) (by omega) (by omega)
    refine Agree.bind hrest ?_
    rintro rest _ ⟨rfl, hlen⟩
    exact Agree.pure ⟨rfl, by rw [List.length_cons, hlen]⟩

theorem agree_wordsAt (start : UInt64) :
    Agree Error.saturated (fun a b => a = b ∧ start.toNat + 32 + 32 * a.length ≤ r.size)
      (r.wordsAt start) (Unbounded.wordsAt r start.toNat) := by
  refine Agree.bind (agree_offsetAt r hsize start) ?_
  rintro count _ ⟨rfl, hcount, hroom⟩
  have hadd := toNat_add_32 r start (by omega) hroom
  refine Agree.reckon (by omega) ?_
  rw [room_eq r (start + 32) _ 32 hadd]
  by_cases hfits : count.toNat ≤ Unbounded.room r (start.toNat + 32) 32
  · have hend : start.toNat + 32 + count.toNat * 32 ≤ r.size := by
      have hmul := Nat.mul_le_of_le_div 32 _ _ hfits
      omega
    rw [if_pos hfits, if_pos hfits]
    refine (agree_wordsFrom r hsize (start.toNat + 32) count.toNat 0 (start + 32) (by omega)
      (by omega)).mono ?_
    rintro a b ⟨rfl, hlen⟩
    exact ⟨rfl, by omega⟩
  · have hvalue : min count.toNat (2 ^ 64 - 1) = count.toNat := by omega
    rw [if_neg hfits, if_neg hfits]
    exact Agree.fail (by rw [Error.saturated, hvalue])

omit hsize in
/-- The room is counted so that the product with the stride need not be formed. -/
theorem toNat_le_room_iff (count start : UInt64) (stride : Nat) (hstride : 0 < stride)
    (hle : start.toNat ≤ r.size) :
    count.toNat ≤ r.room start stride ↔ start.toNat + stride * count.toNat ≤ r.size := by
  rw [room, Nat.le_div_iff_mul_le hstride, Nat.mul_comm]
  omega

theorem exists_wordAt (offset : UInt64) (h : offset.toNat + 32 ≤ r.size) :
    ∃ w, r.wordAt offset = .ok w := by
  have hpow : UInt64.size = 2 ^ 64 := rfl
  have hdata : r.data.length = r.size := rfl
  have hfits : offset.toNat + 32 < UInt64.size ∧ offset.toNat + 32 ≤ r.data.length := by omega
  exact ⟨_, dif_pos hfits⟩

/-- No word is out of range where there is room for all of them. -/
theorem exists_wordsFrom (count : Nat) (cursor : UInt64)
    (h : cursor.toNat + 32 * count ≤ r.size) :
    ∃ ws, r.wordsFrom count cursor = .ok ws ∧ ws.length = count := by
  induction count generalizing cursor with
  | zero => exact ⟨[], rfl, rfl⟩
  | succ count ih =>
    obtain ⟨w, hw⟩ := exists_wordAt r hsize cursor (by omega)
    have hadd := toNat_add_32 r cursor (by omega) (by omega)
    obtain ⟨rest, hrest, hlen⟩ := ih (cursor + 32) (by omega)
    refine ⟨w :: rest, ?_, by rw [List.length_cons, hlen]⟩
    rw [wordsFrom, hw, hrest]
    rfl

end Agreement

end Region

theorem agree_decodeSingle (data : Bytes) (hsize : data.length < 2 ^ 63) :
    Agree Error.saturated (fun a b => a = b ∧ a.length + 32 ≤ data.length) (decodeSingle data)
      (Unbounded.decodeSingle data) := by
  refine Agree.bind (Region.agree_offsetAt ⟨data⟩ hsize 0) ?_
  rintro start _ ⟨rfl, -, -⟩
  refine (Region.agree_bytesAt ⟨data⟩ hsize start).mono ?_
  rintro a b ⟨rfl, hlen⟩
  have hdata : Region.size ⟨data⟩ = data.length := rfl
  exact ⟨rfl, by omega⟩

end Validium.Abi
