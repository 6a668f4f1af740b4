import Validium.Proofs.Abi.Exact
import Validium.Proofs.Rollup.RoundTrip

/-!
What call data are taken for a sequencing call. The arguments are read from the words at their
start and from the batches and the message that these lead to, and from nothing else: a call is
read exactly where its parts stand in the data, at whatever places.
-/
namespace Validium.Rollup.SequenceCall

open Abi

section Readers

variable (r : Region) (hsize : r.size < 2 ^ 63)

include hsize

theorem holds_of_readBatch {start : UInt64} {b : Batch} (hroom : start.toNat + 128 ≤ r.size)
    (h : readBatch r start = .ok b) : r.Holds start.toNat (write (batchPieces b)) := by
  obtain ⟨transactionsHash, hhash, h⟩ := exists_of_bind h
  obtain ⟨forcedGlobalExitRoot, hroot, h⟩ := exists_of_bind h
  obtain ⟨forcedTimestamp, htime, h⟩ := exists_of_bind h
  obtain ⟨forcedBlockHash, hblock, h⟩ := exists_of_bind h
  cases h
  have hadd : ∀ n : UInt64, n.toNat ≤ 96 → (start + n).toNat = start.toNat + n.toNat := by
    intro n hn
    exact r.toNat_add_of_le start n (by omega) (by omega)
  have h1 := r.holds_of_wordAt hhash
  have h2 := r.holds_of_wordAt hroot
  obtain ⟨hnarrow, h3⟩ := r.holds_of_uintAt (by decide) (by decide) htime
  have h4 := r.holds_of_wordAt hblock
  rw [hadd 32 (by decide)] at h2
  rw [hadd 64 (by decide)] at h3
  rw [hadd 96 (by decide)] at h4
  simp only [batchPieces, Region.holds_write_cons, Piece.length_encode_word,
    Piece.length_encode_number, UInt64.toNat_ofNat_of_lt' hnarrow]
  exact ⟨h1, h2, h3, h4, List.nil_prefix⟩

/-- Batches for which there is room are read one behind the other. -/
theorem holds_of_readBatches {count : Nat} {start : UInt64} {batches : List Batch}
    (hroom : start.toNat + count * 128 ≤ r.size)
    (h : readBatches r count start = .ok batches) :
    batches.length = count ∧ r.Holds start.toNat (write (batches.flatMap batchPieces)) := by
  induction count generalizing start batches with
  | zero =>
    cases h
    exact ⟨rfl, List.nil_prefix⟩
  | succ count ih =>
    obtain ⟨b, hbatch, h⟩ := exists_of_bind h
    obtain ⟨rest, hrest, h⟩ := exists_of_bind h
    cases h
    have hnext : (start + batchSize).toNat = start.toNat + 128 :=
      r.toNat_add_of_le start batchSize (by omega) (by change _ + 128 ≤ _; omega)
    obtain ⟨hlength, hholds⟩ := ih (by omega) hrest
    rw [hnext] at hholds
    refine ⟨by rw [List.length_cons, hlength], ?_⟩
    rw [List.flatMap_cons, write_append, Region.holds_append, length_batchPieces]
    exact ⟨holds_of_readBatch r hsize (by omega) hbatch, hholds⟩

omit hsize in
/-- An address is read from a word that has nothing but zeros in front of it. -/
theorem holds_of_readAddress {offset : UInt64} {a : { b : Bytes // b.length = 20 }}
    (h : readAddress r offset = .ok a) :
    r.Holds offset.toNat (List.replicate 12 0 ++ a.val) := by
  obtain ⟨w, hword, h⟩ := exists_of_bind h
  split at h
  · cases h
  · rename_i hclean
    cases h
    have hzeros : w.bytes.take 12 = List.replicate 12 0 := by
      rw [List.eq_replicate_iff, List.length_take, w.length_bytes]
      refine ⟨rfl, ?_⟩
      simpa using hclean
    have hsplit : List.replicate 12 0 ++ w.bytes.drop 12 = w.bytes := by
      rw [← hzeros, List.take_append_drop]
    rw [hsplit]
    exact r.holds_of_wordAt hword

end Readers

section Sized

variable {data : Bytes} (hsize : data.length < 2 ^ 63) (c : SequenceCall)

include hsize

theorem standsIn_of_readArguments (h : readArguments data = .ok c) : c.StandsIn data := by
  have hregion : Region.size ⟨data⟩ < 2 ^ 63 := hsize
  obtain ⟨first, hfirst, h⟩ := exists_of_bind h
  obtain ⟨count, hcount, h⟩ := exists_of_bind h
  obtain ⟨hfirstEnd, h1⟩ := Region.holds_of_offsetAt _ hregion hfirst
  obtain ⟨-, hnumber⟩ := Region.holds_of_offsetAt _ hregion hcount
  have hnumberEnd := hnumber.length_le (by rw [Word.length_bytes]; decide)
  rw [Word.length_bytes] at hnumberEnd
  have hstart := Region.toNat_add_32 ⟨data⟩ first (by omega) hnumberEnd
  dsimp only at h
  split at h
  · cases h
  rename_i hroom
  have hend : (first + 32).toNat + count.toNat * 128 ≤ Region.size ⟨data⟩ := by
    have hmul := Nat.mul_le_of_le_div 128 _ _ (Nat.not_lt.mp hroom)
    omega
  obtain ⟨batches, hbatches, h⟩ := exists_of_bind h
  obtain ⟨coinbase, hcoinbase, h⟩ := exists_of_bind h
  obtain ⟨last, hlast, h⟩ := exists_of_bind h
  obtain ⟨leafCount, hleaves, h⟩ := exists_of_bind h
  obtain ⟨maxTimestamp, htime, h⟩ := exists_of_bind h
  obtain ⟨expectedHash, hexpected, h⟩ := exists_of_bind h
  obtain ⟨message, hmessage, h⟩ := exists_of_bind h
  cases h
  obtain ⟨hlength, hlist⟩ := holds_of_readBatches _ hregion hend hbatches
  obtain ⟨hleavesBound, h2⟩ := Region.holds_of_uintAt _ (by decide) (by decide) hleaves
  obtain ⟨htimeBound, h3⟩ := Region.holds_of_uintAt _ (by decide) (by decide) htime
  have h4 := Region.holds_of_wordAt _ hexpected
  have h5 := holds_of_readAddress _ hcoinbase
  obtain ⟨-, h6⟩ := Region.holds_of_offsetAt _ hregion hlast
  refine ⟨first.toNat, last.toNat, ?_, ?_, Region.holds_of_bytesAt _ hregion hmessage⟩
  · simp only [headPieces, Region.holds_write_cons, Piece.length_encode_number,
      Piece.length_encode_word, UInt32.toNat_ofNat_of_lt' hleavesBound,
      UInt64.toNat_ofNat_of_lt' htimeBound]
    exact ⟨h1, h2, h3, h4, h5, h6, List.nil_prefix⟩
  · rw [batchList, Region.holds_append, Word.length_bytes, hlength, ← hstart]
    exact ⟨hnumber, hlist⟩

theorem readArguments_eq_ok_iff : readArguments data = .ok c ↔ c.StandsIn data :=
  ⟨standsIn_of_readArguments hsize c, c.readArguments_of_standsIn data (by omega)⟩

end Sized

/-- Other data than those that start with the selector are other calls. -/
theorem decode_eq_otherCall (data : Bytes) (h : ∀ rest, data ≠ selector ++ rest) :
    decode data = .error .otherCall := by
  have hother : data.length < 4 ∨ data.take 4 ≠ selector := by
    rw [or_iff_not_imp_right, not_not]
    intro htake
    exact absurd (by rw [← htake, List.take_append_drop]) (h (data.drop 4))
  rw [decode, if_pos hother]

theorem decode_eq_ok_iff (data : Bytes) (hsize : data.length < 2 ^ 63) (c : SequenceCall) :
    decode data = .ok c ↔ ∃ rest, data = selector ++ rest ∧ c.StandsIn rest := by
  by_cases hcall : ∃ rest, data = selector ++ rest
  · obtain ⟨rest, rfl⟩ := hcall
    rw [List.length_append] at hsize
    rw [decode_append, mapError_eq_ok_iff, readArguments_eq_ok_iff (by omega)]
    simp
  · rw [decode_eq_otherCall data fun rest h => hcall ⟨rest, h⟩]
    constructor
    · rintro ⟨⟩
    · rintro ⟨rest, h, -⟩
      exact absurd ⟨rest, h⟩ hcall

end Validium.Rollup.SequenceCall
