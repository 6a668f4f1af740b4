import Validium.Proofs.Abi.Reading

/-!
Where written pieces are found again. A piece stands where the writer was when it came to it,
whatever is in front of it and behind it, so the reader of its kind gives it back from there.
This needs no alignment: behind raw bytes the words of a piece may start anywhere. Pieces other
than raw bytes are whole words, and bytes take as few words as hold them, with zeros in the rest
of the last one.
-/
namespace Validium.Abi

namespace Piece

/-- The reader of its kind finds the piece at the position. A number is read in each width that
holds it, and in no other. -/
def ReadsBack (r : Region) (start : UInt64) : Piece → Prop
  | .word w => r.wordAt start = .ok w
  | .number n => n < 2 ^ 256 →
      r.numberAt start = .ok n ∧
      ∀ bits, bits % 8 = 0 → bits ≤ 128 →
        r.uintAt start bits =
          if n < 2 ^ bits then .ok n else .error (.overflow start.toNat bits)
  | .bytes data => r.bytesAt start = .ok data
  | .words items => r.wordsAt start = .ok items
  | .raw data => r.slice start (UInt64.ofNat data.length) = .ok data

end Piece

section Padding

theorem dvd_paddedLength (m : Nat) : 32 ∣ paddedLength m := Nat.dvd_mul_left 32 _

theorem isLeast_paddedLength (m : Nat) : IsLeast {n | 32 ∣ n ∧ m ≤ n} (paddedLength m) := by
  refine ⟨⟨dvd_paddedLength m, le_paddedLength m⟩, ?_⟩
  intro n hn
  obtain ⟨hdvd, hle⟩ := hn
  unfold paddedLength
  omega

def paddedSize (n : UInt64) : UInt64 :=
  (n / 32 + if n % 32 = 0 then 0 else 1) * 32

/-- Nothing wraps around on the way to a padded length that 64 bits hold. -/
theorem toNat_paddedSize (n : UInt64) (h : n.toNat ≤ 2 ^ 64 - 32) :
    (paddedSize n).toNat = paddedLength n.toNat := by
  have hrest : n % 32 = 0 ↔ n.toNat % 32 = 0 := by
    rw [← UInt64.toNat_inj, UInt64.toNat_mod]
    exact Iff.rfl
  have hcount : (n / 32 + if n % 32 = 0 then 0 else 1 : UInt64).toNat = (n.toNat + 31) / 32 := by
    by_cases hwhole : n.toNat % 32 = 0
    · rw [if_pos (hrest.mpr hwhole), UInt64.add_zero, UInt64.toNat_div]
      show n.toNat / 32 = _
      omega
    · rw [if_neg (mt hrest.mp hwhole), UInt64.toNat_add, UInt64.toNat_div]
      show (n.toNat / 32 + 1) % 2 ^ 64 = _
      omega
  rw [paddedSize, UInt64.toNat_mul, hcount, paddedLength]
  show (n.toNat + 31) / 32 * 32 % 2 ^ 64 = _
  omega

end Padding

namespace Piece

theorem dvd_length_encode (p : Piece) (hraw : ∀ data, p ≠ .raw data) :
    32 ∣ p.encode.length := by
  cases p with
  | word w => rw [length_encode_word]
  | number n => rw [length_encode_number]
  | bytes data =>
    rw [length_encode_bytes]
    exact Nat.dvd_add (Nat.dvd_refl 32) (dvd_paddedLength _)
  | words items =>
    rw [length_encode_words]
    exact Nat.dvd_add (Nat.dvd_refl 32) (Nat.dvd_mul_right 32 _)
  | raw data => exact absurd rfl (hraw data)

section Held

variable {r : Region} {start : UInt64} (hsize : r.size < 2 ^ 64)

include hsize

/-- Whatever is held is read back, in one way for each kind of piece. -/
theorem readsBack_of_holds (p : Piece) (hstart : start.toNat ≤ r.size)
    (h : r.Holds start.toNat p.encode) : p.ReadsBack r start := by
  cases p with
  | word w => exact Region.wordAt_of_holds r start w hsize h
  | number n =>
    intro hn
    refine ⟨Region.numberAt_of_holds r start n hsize hn h, ?_⟩
    intro bits h8 h128
    exact Region.uintAt_eq_of_holds r start bits n hsize h8 h128 hn h
  | bytes data =>
    rw [encode, Region.holds_append] at h
    exact Region.bytesAt_of_holds r start data hsize h.1
  | words items => exact Region.wordsAt_of_holds r start items hsize h
  | raw data =>
    have hfits : start.toNat + data.length ≤ r.size := by
      have hlength := List.IsPrefix.length_le h
      rw [List.length_drop] at hlength
      change data.length ≤ r.size - start.toNat at hlength
      omega
    have hlength : data.length = (UInt64.ofNat data.length).toNat :=
      (UInt64.toNat_ofNat_of_lt' (by change _ < 2 ^ 64; omega)).symm
    exact Region.slice_of_holds r start _ data hsize hstart hlength h

end Held

end Piece

section Written

variable (front back : List Piece)

/-- A piece stands where what is written in front of it ends. -/
theorem holds_write_piece (p : Piece) :
    Region.Holds ⟨write (front ++ p :: back)⟩ (write front).length p.encode := by
  have hwhole := Region.holds_whole (write (front ++ p :: back))
  rw [write_append, Region.holds_append, Nat.zero_add, ← write_append,
    Region.holds_write_cons] at hwhole
  exact hwhole.2.1

theorem length_write_le (p : Piece) :
    (write front).length ≤ (write (front ++ p :: back)).length := by
  rw [write_append, List.length_append]
  exact Nat.le_add_right _ _

theorem write_append_singleton (p : Piece) : write (front ++ [p]) = write front ++ p.encode := by
  rw [write_append, write_cons, write_nil, List.append_nil]

/-- Behind bytes there are zeros as far as they are padded. -/
theorem holds_write_padding (data : Bytes) :
    Region.Holds ⟨write (front ++ .bytes data :: back)⟩
      ((write front).length + (32 + data.length))
      (List.replicate (paddedLength data.length - data.length) 0) := by
  have hpiece := holds_write_piece front back (.bytes data)
  rw [Piece.encode, Region.holds_append, List.length_append, Word.length_bytes] at hpiece
  exact hpiece.2

/-- The readers find every piece where the writer was before it, whatever else is written. -/
theorem readsBack_write (p : Piece) (hsize : (write (front ++ p :: back)).length < 2 ^ 64) :
    (UInt64.ofNat (write front).length).toNat = (write front).length ∧
      p.ReadsBack ⟨write (front ++ p :: back)⟩ (UInt64.ofNat (write front).length) := by
  have hle := length_write_le front back p
  have hstart : (UInt64.ofNat (write front).length).toNat = (write front).length :=
    UInt64.toNat_ofNat_of_lt' (by change _ < 2 ^ 64; omega)
  refine ⟨hstart, ?_⟩
  apply Piece.readsBack_of_holds hsize
  · rw [hstart]
    exact hle
  · rw [hstart]
    exact holds_write_piece front back p

end Written

/-- Writers and readers undo each other at every position. The readers give back each piece from
where the writer was before it. All pieces but raw bytes add whole words, bytes as few behind
their length as hold them, with zeros behind the bytes. Padding is exact in 64 bits wherever
these hold a padded length. -/
theorem written_pieces_read_back :
    (∀ (front back : List Piece) (p : Piece), (write (front ++ p :: back)).length < 2 ^ 64 →
      (UInt64.ofNat (write front).length).toNat = (write front).length ∧
      p.ReadsBack ⟨write (front ++ p :: back)⟩ (UInt64.ofNat (write front).length)) ∧
    (∀ (front : List Piece) (p : Piece), (∀ data, p ≠ .raw data) →
      ∃ added, write (front ++ [p]) = write front ++ added ∧ 32 ∣ added.length) ∧
    (∀ (front back : List Piece) (data : Bytes),
      (write (front ++ [.bytes data])).length =
        (write front).length + (32 + paddedLength data.length) ∧
      Region.Holds ⟨write (front ++ .bytes data :: back)⟩
        ((write front).length + (32 + data.length))
        (List.replicate (paddedLength data.length - data.length) 0)) ∧
    (∀ m, IsLeast {n | 32 ∣ n ∧ m ≤ n} (paddedLength m)) ∧
    ∀ m : UInt64, m.toNat ≤ 2 ^ 64 - 32 → (paddedSize m).toNat = paddedLength m.toNat := by
  refine ⟨readsBack_write, ?_, ?_, isLeast_paddedLength, toNat_paddedSize⟩
  · intro front p hraw
    exact ⟨p.encode, write_append_singleton front p, p.dvd_length_encode hraw⟩
  · intro front back data
    refine ⟨?_, holds_write_padding front back data⟩
    rw [write_append_singleton, List.length_append, Piece.length_encode_bytes]

/-- Behind four raw bytes, nothing stands at a multiple of 32. A number of 65 bits is read in 72
bits and not in 64. -/
theorem written_pieces_read_back_unaligned :
    let pieces : List Piece := [.raw [0xde, 0xad, 0xbe, 0xef], .number (2 ^ 64), .bytes [1, 2, 3],
      .words [Word.ofNat 7, Word.ofNat (2 ^ 256 - 1)]]
    let r : Region := ⟨write pieces⟩
    r.uintAt 4 72 = .ok (2 ^ 64) ∧ r.uintAt 4 64 = .error (.overflow 4 64) ∧
    r.numberAt 4 = .ok (2 ^ 64) ∧ r.bytesAt 36 = .ok [1, 2, 3] ∧
    r.wordsAt 100 = .ok [Word.ofNat 7, Word.ofNat (2 ^ 256 - 1)] ∧
    r.Holds 71 (List.replicate 29 0) ∧ (paddedSize 3).toNat = 32 := by
  intro pieces r
  have hsize : (write pieces).length < 2 ^ 64 := by decide +kernel
  obtain ⟨hread, -, hpadded, -, hpadding⟩ := written_pieces_read_back
  obtain ⟨-, hnumber⟩ := hread [.raw [0xde, 0xad, 0xbe, 0xef]] [.bytes [1, 2, 3],
    .words [Word.ofNat 7, Word.ofNat (2 ^ 256 - 1)]] (.number (2 ^ 64)) hsize
  obtain ⟨hwhole, hwidth⟩ := hnumber (by decide)
  obtain ⟨-, hbytes⟩ := hread [.raw [0xde, 0xad, 0xbe, 0xef], .number (2 ^ 64)]
    [.words [Word.ofNat 7, Word.ofNat (2 ^ 256 - 1)]] (.bytes [1, 2, 3]) hsize
  obtain ⟨-, hwords⟩ := hread [.raw [0xde, 0xad, 0xbe, 0xef], .number (2 ^ 64), .bytes [1, 2, 3]]
    [] (.words [Word.ofNat 7, Word.ofNat (2 ^ 256 - 1)]) hsize
  obtain ⟨-, hzeros⟩ := hpadded [.raw [0xde, 0xad, 0xbe, 0xef], .number (2 ^ 64)]
    [.words [Word.ofNat 7, Word.ofNat (2 ^ 256 - 1)]] [1, 2, 3]
  exact ⟨hwidth 72 (by decide) (by decide), hwidth 64 (by decide) (by decide), hwhole, hbytes,
    hwords, hzeros, hpadding 3 (by decide)⟩

end Validium.Abi
