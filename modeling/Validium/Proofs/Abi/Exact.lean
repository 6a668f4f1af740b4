import Validium.Proofs.Abi.Unbounded

/-!
What the readers accept. A reader returns a value only where the region holds the bytes that the
writer has for the value, so reading adds nothing to the data and overlooks nothing in them.
Only the places of dynamic parts are free: a frame may lead to its payload wherever it stands.
-/
namespace Validium

theorem Word.ofNat_toNat (w : Word) : Word.ofNat w.toNat = w := by
  obtain ⟨bytes, hlength⟩ := w
  have hbytes := Bytes.ofNat_toNat bytes
  rw [hlength] at hbytes
  simp only [Word.ofNat, Word.toNat, hbytes]

/-- Two steps of reading end well only if both do. -/
theorem exists_of_bind {ε α β : Type} {x : Except ε α} {f : α → Except ε β} {b : β}
    (h : x >>= f = .ok b) : ∃ a, x = .ok a ∧ f a = .ok b := by
  cases x with
  | error e => cases h
  | ok a => exact ⟨a, rfl, h⟩

theorem mapError_eq_ok_iff {ε ε' α : Type} (f : ε → ε') (x : Except ε α) (a : α) :
    x.mapError f = .ok a ↔ x = .ok a := by
  cases x with
  | error e => simp [Except.mapError]
  | ok b => simp [Except.mapError]

namespace Abi

namespace Region

/-- Bytes that are held from the start on and are as long as the data are the data. -/
theorem eq_of_holds {data b : Bytes} (h : Holds ⟨data⟩ 0 b) (hlength : b.length = data.length) :
    b = data := by
  have hprefix : b <+: data := h
  exact hprefix.eq_of_length hlength

variable (r : Region)

theorem holds_of_wordAt {offset : UInt64} {w : Word} (h : r.wordAt offset = .ok w) :
    r.Holds offset.toNat w.bytes := by
  unfold wordAt at h
  split at h
  · cases h
    exact List.take_prefix 32 _
  · cases h

theorem holds_of_numberAt {offset : UInt64} {n : Nat} (h : r.numberAt offset = .ok n) :
    n < 2 ^ 256 ∧ r.Holds offset.toNat (Word.ofNat n).bytes := by
  unfold numberAt at h
  cases hword : r.wordAt offset with
  | error e =>
    rw [hword] at h
    cases h
  | ok w =>
    rw [hword] at h
    cases h
    have hbound := Bytes.toNat_lt w.bytes
    rw [w.length_bytes] at hbound
    rw [Word.ofNat_toNat]
    exact ⟨hbound, r.holds_of_wordAt hword⟩

/-- A number that was read stands at its place, with nothing in front of its bits. -/
theorem holds_of_uintAt {offset : UInt64} {bits n : Nat} (h8 : bits % 8 = 0) (h128 : bits ≤ 128)
    (h : r.uintAt offset bits = .ok n) :
    n < 2 ^ bits ∧ r.Holds offset.toNat (Word.ofNat n).bytes := by
  obtain ⟨w, hword, rfl, hbound⟩ := (uintAt_eq_ok_iff r offset bits h8 h128 n).mp h
  rw [Word.ofNat_toNat]
  exact ⟨hbound, r.holds_of_wordAt hword⟩

/-- A number is read from the whole of its word. -/
theorem uintAt_eq_ok_iff_take (data : Bytes) (offset : UInt64) (bits n : Nat)
    (hoffset : offset.toNat + 32 < UInt64.size) (h8 : bits % 8 = 0) (h128 : bits ≤ 128) :
    uintAt ⟨data⟩ offset bits = .ok n ↔ offset.toNat + 32 ≤ data.length ∧
      Bytes.toNat ((data.drop offset.toNat).take 32) = n ∧ n < 2 ^ bits := by
  rw [uintAt_eq_ok_iff _ _ _ h8 h128]
  unfold wordAt
  by_cases hle : offset.toNat + 32 ≤ data.length
  · simp [hoffset, hle, Word.toNat]
  · simp [hle]

theorem holds_of_slice {offset needed : UInt64} {b : Bytes} (h : r.slice offset needed = .ok b) :
    b.length = needed.toNat ∧ r.Holds offset.toNat b := by
  unfold slice at h
  dsimp only at h
  split at h
  · rename_i hfits
    obtain ⟨-, hle⟩ := hfits
    cases h
    refine ⟨?_, List.take_prefix _ _⟩
    rw [List.length_take, List.length_drop]
    unfold size at hle
    omega
  · cases h

section Sized

variable (hsize : r.size < 2 ^ 63)

include hsize

theorem holds_of_offsetAt {offset n : UInt64} (h : r.offsetAt offset = .ok n) :
    n.toNat ≤ r.size ∧ r.Holds offset.toNat (Word.ofNat n.toNat).bytes := by
  obtain ⟨w, hword, hvalue⟩ := exists_of_bind h
  dsimp only at hvalue
  have hsaturate := toNat_saturate w
  split at hvalue
  · rename_i hle
    cases hvalue
    have hsame : (saturate w).toNat = w.toNat := by omega
    refine ⟨hle, ?_⟩
    rw [hsame, Word.ofNat_toNat]
    exact r.holds_of_wordAt hword
  · cases hvalue

theorem holds_of_bytesAt {start : UInt64} {b : Bytes} (h : r.bytesAt start = .ok b) :
    r.Holds start.toNat ((Word.ofNat b.length).bytes ++ b) := by
  obtain ⟨length, hoffset, hslice⟩ := exists_of_bind h
  obtain ⟨-, hword⟩ := r.holds_of_offsetAt hsize hoffset
  obtain ⟨hlength, hbytes⟩ := r.holds_of_slice hslice
  have hle := hword.length_le (by rw [Word.length_bytes]; decide)
  rw [Word.length_bytes] at hle
  rw [r.toNat_add_32 start (by omega) hle] at hbytes
  rw [holds_append, Word.length_bytes, hlength]
  exact ⟨hword, hbytes⟩

/-- Words for which there is room are read one behind the other. -/
theorem holds_of_wordsFrom {count : Nat} {start : UInt64} {ws : List Word}
    (hroom : start.toNat + 32 * count ≤ r.size) (h : r.wordsFrom count start = .ok ws) :
    ws.length = count ∧ r.Holds start.toNat (ws.flatMap Word.bytes) := by
  induction count generalizing start ws with
  | zero =>
    cases h
    exact ⟨rfl, List.nil_prefix⟩
  | succ count ih =>
    obtain ⟨w, hword, h⟩ := exists_of_bind h
    obtain ⟨rest, hrest, h⟩ := exists_of_bind h
    cases h
    have hnext := r.toNat_add_32 start (by omega) (by omega)
    obtain ⟨hlength, hholds⟩ := ih (by omega) hrest
    rw [hnext] at hholds
    refine ⟨by rw [List.length_cons, hlength], ?_⟩
    rw [List.flatMap_cons, holds_append, w.length_bytes]
    exact ⟨r.holds_of_wordAt hword, hholds⟩

theorem holds_of_wordsAt {start : UInt64} {ws : List Word} (h : r.wordsAt start = .ok ws) :
    r.Holds start.toNat (Piece.words ws).encode := by
  obtain ⟨count, hoffset, h⟩ := exists_of_bind h
  obtain ⟨-, hword⟩ := r.holds_of_offsetAt hsize hoffset
  have hle := hword.length_le (by rw [Word.length_bytes]; decide)
  rw [Word.length_bytes] at hle
  have hnext := r.toNat_add_32 start (by omega) hle
  split at h
  · rename_i hroom
    have hend := (toNat_le_room_iff r count (start + 32) 32 (by decide) (by omega)).mp hroom
    obtain ⟨hlength, hholds⟩ := r.holds_of_wordsFrom hsize hend h
    rw [Piece.encode, holds_append, Word.length_bytes, hlength, ← hnext]
    exact ⟨hword, hholds⟩
  · cases h

end Sized

end Region

/-- The first word of the data leads to a length and, behind it, the payload. -/
def Frames (data payload : Bytes) : Prop :=
  ∃ start, Region.Holds ⟨data⟩ 0 (Word.ofNat start).bytes ∧
    Region.Holds ⟨data⟩ start ((Word.ofNat payload.length).bytes ++ payload)

theorem decodeSingle_eq_ok_iff (data payload : Bytes) (hsize : data.length < 2 ^ 63) :
    decodeSingle data = .ok payload ↔ Frames data payload := by
  have hregion : Region.size ⟨data⟩ < 2 ^ 63 := hsize
  constructor
  · intro h
    obtain ⟨start, hoffset, hbytes⟩ := exists_of_bind h
    obtain ⟨-, hword⟩ := Region.holds_of_offsetAt _ hregion hoffset
    exact ⟨start.toNat, hword, Region.holds_of_bytesAt _ hregion hbytes⟩
  · rintro ⟨start, hword, hbytes⟩
    have hle := hbytes.length_le (by rw [List.length_append, Word.length_bytes]; omega)
    rw [List.length_append, Word.length_bytes] at hle
    have hstart : (UInt64.ofNat start).toNat = start :=
      UInt64.toNat_ofNat_of_lt' (by change _ < 2 ^ 64; omega)
    have hoffset := Region.offsetAt_of_holds ⟨data⟩ 0 start (by omega) (by omega) hword
    have hread := Region.bytesAt_of_holds ⟨data⟩ (UInt64.ofNat start) payload (by omega)
      (by rw [hstart]; exact hbytes)
    simp only [decodeSingle, hoffset, bind, Except.bind, hread]

end Abi

end Validium
