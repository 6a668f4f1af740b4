import Validium.Abi.Reader
import Validium.Abi.Selector
import Validium.Abi.Writer
import Validium.Proofs.Bytes

/-!
Reading back what was written. A region holds bytes at a position when they stand there
whatever is before and behind them. Each reader gives back what each kind of piece has
written, and writing pieces in a row puts each of them where those before it end.
-/
namespace Validium

theorem Word.toNat_ofNat (n : Nat) (h : n < 2 ^ 256) : (Word.ofNat n).toNat = n :=
  Bytes.toNat_ofNat_of_lt 32 n h

namespace Abi

theorem length_selector (signature : String) : (selector signature).length = 4 := by
  simp [selector, Word.length_bytes]

theorem le_paddedLength (n : Nat) : n ≤ paddedLength n := by
  unfold paddedLength
  omega

namespace Piece

@[simp] theorem encode_word (w : Word) : (Piece.word w).encode = w.bytes := rfl

@[simp] theorem encode_number (n : Nat) : (Piece.number n).encode = (Word.ofNat n).bytes := rfl

@[simp] theorem length_encode_word (w : Word) : (Piece.word w).encode.length = 32 :=
  w.length_bytes

@[simp] theorem length_encode_number (n : Nat) : (Piece.number n).encode.length = 32 :=
  (Word.ofNat n).length_bytes

theorem length_flatMap_bytes (items : List Word) :
    (items.flatMap Word.bytes).length = 32 * items.length := by
  induction items with
  | nil => rfl
  | cons w items ih =>
    rw [List.flatMap_cons, List.length_append, w.length_bytes, ih, List.length_cons]
    omega

@[simp] theorem length_encode_words (items : List Word) :
    (Piece.words items).encode.length = 32 + 32 * items.length := by
  rw [encode, List.length_append, length_flatMap_bytes, Word.length_bytes]

@[simp] theorem length_encode_bytes (data : Bytes) :
    (Piece.bytes data).encode.length = 32 + paddedLength data.length := by
  have h := le_paddedLength data.length
  simp only [encode, List.length_append, Word.length_bytes, List.length_replicate]
  omega

end Piece

@[simp] theorem write_nil : write [] = [] := rfl

@[simp] theorem write_cons (p : Piece) (ps : List Piece) :
    write (p :: ps) = p.encode ++ write ps := rfl

theorem write_append (ps qs : List Piece) : write (ps ++ qs) = write ps ++ write qs :=
  List.flatMap_append

namespace Region

def Holds (r : Region) (start : Nat) (b : Bytes) : Prop := b <+: r.data.drop start

theorem holds_whole (b : Bytes) : Holds ⟨b⟩ 0 b := List.prefix_refl b

/-- Bytes in a row are held one behind the other. -/
theorem holds_append (r : Region) (start : Nat) (a b : Bytes) :
    r.Holds start (a ++ b) ↔ r.Holds start a ∧ r.Holds (start + a.length) b := by
  constructor
  · rintro ⟨rest, hrest⟩
    refine ⟨⟨b ++ rest, by rw [← hrest, List.append_assoc]⟩, ⟨rest, ?_⟩⟩
    rw [← List.drop_drop, ← hrest, List.append_assoc, List.drop_left]
  · rintro ⟨⟨rest, hrest⟩, ⟨rest', hrest'⟩⟩
    rw [← List.drop_drop, ← hrest, List.drop_left] at hrest'
    exact ⟨rest', by rw [List.append_assoc, hrest', hrest]⟩

/-- Pieces stand behind one another. -/
theorem holds_write_cons (r : Region) (start : Nat) (p : Piece) (ps : List Piece) :
    r.Holds start (write (p :: ps)) ↔
      r.Holds start p.encode ∧ r.Holds (start + p.encode.length) (write ps) :=
  holds_append r start p.encode (write ps)

theorem Holds.length_le {r : Region} {start : Nat} {b : Bytes} (h : r.Holds start b)
    (hb : 0 < b.length) : start + b.length ≤ r.size := by
  have hle := List.IsPrefix.length_le h
  rw [List.length_drop] at hle
  unfold size
  omega

theorem Holds.take_drop {r : Region} {start : Nat} {b : Bytes} (h : r.Holds start b) :
    (r.data.drop start).take b.length = b := (List.prefix_iff_eq_take.mp h).symm

/-! Each reader at a position that holds what it looks for. -/

theorem wordAt_of_holds (r : Region) (offset : UInt64) (w : Word) (hsize : r.size < 2 ^ 64)
    (h : r.Holds offset.toNat w.bytes) : r.wordAt offset = .ok w := by
  have hle := h.length_le (by simp [w.length_bytes])
  have htake := h.take_drop
  rw [w.length_bytes] at hle htake
  have hfits : offset.toNat + 32 < UInt64.size ∧ offset.toNat + 32 ≤ r.data.length :=
    ⟨Nat.lt_of_le_of_lt hle hsize, hle⟩
  rw [wordAt, dif_pos hfits]
  simp only [htake]

theorem numberAt_of_holds (r : Region) (offset : UInt64) (n : Nat) (hsize : r.size < 2 ^ 64)
    (hn : n < 2 ^ 256) (h : r.Holds offset.toNat (Word.ofNat n).bytes) :
    r.numberAt offset = .ok n := by
  rw [numberAt, wordAt_of_holds r offset _ hsize h, Except.map, Word.toNat_ofNat n hn]

theorem two_pow_eq (bits : Nat) (h8 : bits % 8 = 0) : 2 ^ bits = 256 ^ (bits / 8) := by
  have hbits : bits = 8 * (bits / 8) := by omega
  have hpow : (256 : Nat) = 2 ^ 8 := rfl
  rw [hpow, ← Nat.pow_mul, ← hbits]

/-- A word has at most `bits` bits when the bytes in front of so many are zero. -/
theorem toNat_lt_two_pow_iff (w : Word) (bits : Nat) (h8 : bits % 8 = 0) (h256 : bits ≤ 256) :
    w.toNat < 2 ^ bits ↔ (w.bytes.take (32 - bits / 8)).any (· != 0) = false := by
  have hlow : (w.bytes.drop (32 - bits / 8)).length = bits / 8 := by
    rw [List.length_drop, w.length_bytes]
    omega
  have hiff := Bytes.toNat_append_lt_iff (w.bytes.take (32 - bits / 8))
    (w.bytes.drop (32 - bits / 8))
  rw [List.take_append_drop, hlow, ← two_pow_eq bits h8] at hiff
  rw [Word.toNat, hiff]
  simp

/-- A number of at most 128 bits is spelled by the last sixteen bytes. -/
theorem toNat_drop_16 (w : Word) (h : w.toNat < 2 ^ 128) :
    Bytes.toNat (w.bytes.drop 16) = w.toNat := by
  have hlow : (w.bytes.drop 16).length = 16 := by
    rw [List.length_drop, w.length_bytes]
  have hsplit := Bytes.toNat_append (w.bytes.take 16) (w.bytes.drop 16)
  have hiff := Bytes.toNat_append_lt_iff (w.bytes.take 16) (w.bytes.drop 16)
  rw [List.take_append_drop, hlow] at hsplit hiff
  have hhigh : Bytes.toNat (w.bytes.take 16) = 0 :=
    (Bytes.toNat_eq_zero_iff _).mpr (hiff.mp h)
  rw [hhigh, Nat.zero_mul, Nat.zero_add] at hsplit
  exact hsplit.symm

/-- Zeros in front and the last sixteen bytes make up the whole word. -/
theorem uint_of_word (offset : Nat) (w : Word) (bits : Nat) (h8 : bits % 8 = 0)
    (h128 : bits ≤ 128) :
    (if (w.bytes.take (32 - bits / 8)).any (· != 0) then
        .error (.overflow offset bits) else .ok (Bytes.toNat (w.bytes.drop 16))) =
      if w.toNat < 2 ^ bits then (.ok w.toNat : Except Error Nat)
      else .error (.overflow offset bits) := by
  have hiff := toNat_lt_two_pow_iff w bits h8 (by omega)
  by_cases hlt : w.toNat < 2 ^ bits
  · have hclean := hiff.mp hlt
    have hvalue := toNat_drop_16 w
      (Nat.lt_of_lt_of_le hlt (Nat.pow_le_pow_right (by decide) h128))
    rw [if_pos hlt, hclean, hvalue]
    rfl
  · have hdirty : (w.bytes.take (32 - bits / 8)).any (· != 0) = true := by
      rw [← Bool.not_eq_false]
      exact fun hclean => hlt (hiff.mpr hclean)
    rw [if_neg hlt, if_pos hdirty]

/-- A number that is held is read in each width that holds it, and refused in any other. -/
theorem uintAt_eq_of_holds (r : Region) (offset : UInt64) (bits n : Nat)
    (hsize : r.size < 2 ^ 64) (h8 : bits % 8 = 0) (h128 : bits ≤ 128) (hn : n < 2 ^ 256)
    (h : r.Holds offset.toNat (Word.ofNat n).bytes) :
    r.uintAt offset bits =
      if n < 2 ^ bits then .ok n else .error (.overflow offset.toNat bits) := by
  have hread := uint_of_word offset.toNat (Word.ofNat n) bits h8 h128
  rw [Word.toNat_ofNat n hn] at hread
  simp only [uintAt, wordAt_of_holds r offset _ hsize h, bind, Except.bind]
  exact hread

theorem uintAt_of_holds (r : Region) (offset : UInt64) (bits n : Nat)
    (hsize : r.size < 2 ^ 64) (h8 : bits % 8 = 0) (h128 : bits ≤ 128) (hn : n < 2 ^ bits)
    (h : r.Holds offset.toNat (Word.ofNat n).bytes) : r.uintAt offset bits = .ok n := by
  have hlarge : n < 2 ^ 256 :=
    Nat.lt_of_lt_of_le hn (Nat.pow_le_pow_right (by decide) (by omega))
  rw [uintAt_eq_of_holds r offset bits n hsize h8 h128 hlarge h, if_pos hn]

theorem saturate_ofNat (n : Nat) (h : n < 2 ^ 64) :
    saturate (Word.ofNat n) = UInt64.ofNat n := by
  have hvalue := Word.toNat_ofNat n (Nat.lt_trans h (by decide))
  have hfits : n < UInt64.size := h
  rw [saturate, hvalue, if_pos hfits]

theorem offsetAt_of_holds (r : Region) (offset : UInt64) (n : Nat) (hsize : r.size < 2 ^ 64)
    (hn : n ≤ r.size) (h : r.Holds offset.toNat (Word.ofNat n).bytes) :
    r.offsetAt offset = .ok (UInt64.ofNat n) := by
  have hvalue : (UInt64.ofNat n).toNat = n :=
    UInt64.toNat_ofNat_of_lt' (Nat.lt_of_le_of_lt hn hsize)
  simp only [offsetAt, wordAt_of_holds r offset _ hsize h, bind, Except.bind,
    saturate_ofNat n (Nat.lt_of_le_of_lt hn hsize), hvalue, if_pos hn]

/-- A step inside a region does not leave the 64 bits of a position. -/
theorem toNat_add_of_le (r : Region) (start n : UInt64) (hsize : r.size < 2 ^ 64)
    (h : start.toNat + n.toNat ≤ r.size) : (start + n).toNat = start.toNat + n.toNat := by
  rw [UInt64.toNat_add]
  exact Nat.mod_eq_of_lt (by omega)

theorem toNat_add_32 (r : Region) (start : UInt64) (hsize : r.size < 2 ^ 64)
    (h : start.toNat + 32 ≤ r.size) : (start + 32).toNat = start.toNat + 32 :=
  r.toNat_add_of_le start 32 hsize h

/-- Behind what stands in front of it a region is a region of its own. -/
theorem sub_append (front rest : Bytes) (offset : UInt64) (h : offset.toNat = front.length) :
    sub ⟨front ++ rest⟩ offset = .ok ⟨rest⟩ := by
  have hle : offset.toNat ≤ size ⟨front ++ rest⟩ := by
    rw [size, List.length_append]
    omega
  rw [sub, if_pos hle, List.drop_left' h.symm]

theorem slice_of_holds (r : Region) (offset needed : UInt64) (b : Bytes)
    (hsize : r.size < 2 ^ 64) (hle : offset.toNat ≤ r.size) (hlen : b.length = needed.toNat)
    (h : r.Holds offset.toNat b) : r.slice offset needed = .ok b := by
  have hstop : offset.toNat + b.length ≤ r.size := by
    have hbound := List.IsPrefix.length_le h
    rw [List.length_drop] at hbound
    change _ ≤ r.size - _ at hbound
    omega
  have htake := h.take_drop
  rw [hlen] at hstop htake
  have hfits : offset.toNat + needed.toNat < UInt64.size ∧
      offset.toNat + needed.toNat ≤ r.size :=
    ⟨Nat.lt_of_le_of_lt hstop hsize, hstop⟩
  simp only [slice, if_pos hfits, htake]

theorem bytesAt_of_holds (r : Region) (start : UInt64) (data : Bytes) (hsize : r.size < 2 ^ 64)
    (h : r.Holds start.toNat ((Word.ofNat data.length).bytes ++ data)) :
    r.bytesAt start = .ok data := by
  have hword := ((holds_append _ _ _ _).mp h).1
  have hdata := ((holds_append _ _ _ _).mp h).2
  have hle := h.length_le (by rw [List.length_append, Word.length_bytes]; omega)
  rw [List.length_append, Word.length_bytes] at hle
  rw [Word.length_bytes] at hdata
  have hadd := r.toNat_add_32 start hsize (by omega)
  have hlen : (UInt64.ofNat data.length).toNat = data.length :=
    UInt64.toNat_ofNat_of_lt' (by change _ < 2 ^ 64; omega)
  simp only [bytesAt, offsetAt_of_holds r start _ hsize (by omega) hword, bind, Except.bind]
  exact slice_of_holds r _ _ data hsize (by omega) hlen.symm (by rwa [hadd])

theorem wordsFrom_of_holds (r : Region) (start : UInt64) (items : List Word)
    (hsize : r.size < 2 ^ 64) (h : r.Holds start.toNat (items.flatMap Word.bytes)) :
    r.wordsFrom items.length start = .ok items := by
  induction items generalizing start with
  | nil => rfl
  | cons w items ih =>
    rw [List.flatMap_cons, holds_append, w.length_bytes] at h
    have hle := h.1.length_le (by simp [w.length_bytes])
    rw [w.length_bytes] at hle
    have hrest := ih (start + 32) (by rw [r.toNat_add_32 start hsize hle]; exact h.2)
    simp only [List.length_cons, wordsFrom, wordAt_of_holds r start w hsize h.1, hrest, bind,
      Except.bind]
    rfl

theorem wordsAt_of_holds (r : Region) (start : UInt64) (items : List Word)
    (hsize : r.size < 2 ^ 64) (h : r.Holds start.toNat (Piece.words items).encode) :
    r.wordsAt start = .ok items := by
  have hle := h.length_le (by rw [Piece.length_encode_words]; omega)
  rw [Piece.length_encode_words] at hle
  have hword := ((holds_append _ _ _ _).mp h).1
  have hitems := ((holds_append _ _ _ _).mp h).2
  rw [Word.length_bytes] at hitems
  have hadd := r.toNat_add_32 start hsize (by omega)
  have hlen : (UInt64.ofNat items.length).toNat = items.length :=
    UInt64.toNat_ofNat_of_lt' (by change _ < 2 ^ 64; omega)
  have hroom : items.length ≤ r.room (start + 32) 32 := by
    rw [room, hadd, Nat.le_div_iff_mul_le (by decide)]
    omega
  simp only [wordsAt, offsetAt_of_holds r start _ hsize (by omega) hword, bind, Except.bind,
    hlen, if_pos hroom]
  exact wordsFrom_of_holds r _ items hsize (by rwa [hadd])

end Region

theorem decodeSingle_encodeSingle (data : Bytes) (hsize : (encodeSingle data).length < 2 ^ 64) :
    decodeSingle (encodeSingle data) = .ok data := by
  have hwhole := Region.holds_whole (write [.number 32, .bytes data])
  rw [Region.holds_write_cons, Region.holds_write_cons] at hwhole
  obtain ⟨hstart, hbytes, -⟩ := hwhole
  have hle := hbytes.length_le (by rw [Piece.length_encode_bytes]; omega)
  rw [Piece.length_encode_bytes, Piece.length_encode_number] at hle
  have hbody := ((Region.holds_append _ _ _ _).mp hbytes).1
  have hroom : 32 ≤ Region.size ⟨encodeSingle data⟩ :=
    Nat.le_trans (by omega) hle
  have hoffset := Region.offsetAt_of_holds ⟨encodeSingle data⟩ 0 32 hsize hroom hstart
  simp only [decodeSingle, bind, Except.bind, hoffset]
  exact Region.bytesAt_of_holds ⟨encodeSingle data⟩ 32 data hsize hbody

end Abi

end Validium
