import Validium.Proofs.Message.Dispatch

/-!
The one form of a pointer. A pointer takes four words, and the numbers in the first three leave
zeros in front of their own bytes. Data of another length are no pointer, nor are data with
something else in front of a number, and the fault names the first word with which it is so.
-/
namespace Validium

open Abi

def Bytes.Zeros (data : Bytes) (start count : Nat) : Prop :=
  ∀ b ∈ (data.drop start).take count, b = 0

instance (data : Bytes) (start count : Nat) : Decidable (data.Zeros start count) :=
  inferInstanceAs (Decidable (∀ b ∈ (data.drop start).take count, b = 0))

/-- A number in a word for which there is room is read exactly when there are zeros in front of
its own bytes. -/
theorem Abi.Region.uintAt_eq_ite (data : Bytes) (offset : UInt64) (bits : Nat)
    (hroom : offset.toNat + 32 ≤ data.length) (hsize : data.length < 2 ^ 64) :
    uintAt ⟨data⟩ offset bits =
      if data.Zeros offset.toNat (32 - bits / 8) then
        .ok (Bytes.toNat (((data.drop offset.toNat).take 32).drop 16))
      else .error (.overflow offset.toNat bits) := by
  have hfits : offset.toNat + 32 < UInt64.size ∧ offset.toNat + 32 ≤ data.length :=
    ⟨Nat.lt_of_le_of_lt hroom hsize, hroom⟩
  have hzeros : ((((data.drop offset.toNat).take 32).take (32 - bits / 8)).any (· != 0)) = false ↔
      data.Zeros offset.toNat (32 - bits / 8) := by
    rw [List.take_take, Nat.min_eq_left (Nat.sub_le 32 _)]
    simp [Bytes.Zeros]
  rw [uintAt, wordAt, dif_pos hfits]
  simp only [bind, Except.bind]
  by_cases h : data.Zeros offset.toNat (32 - bits / 8)
  · rw [if_pos h, hzeros.mpr h]
    rfl
  · rw [if_neg h, if_pos (by simpa using mt hzeros.mp h)]

namespace Message.BlobPointer

/-- Why data are no pointer: the first thing that is wrong with them. -/
inductive Refused (data : Bytes) : Abi.Error → Prop where
  | length (h : data.length ≠ 128) : Refused data (.length 128 data.length)
  | version (hlength : data.length = 128) (h : ¬ data.Zeros 0 31) :
      Refused data (.overflow 0 8)
  | blockHeight (hlength : data.length = 128) (hversion : data.Zeros 0 31)
      (h : ¬ data.Zeros 32 28) : Refused data (.overflow 32 32)
  | extrinsicIndex (hlength : data.length = 128) (hversion : data.Zeros 0 31)
      (hheight : data.Zeros 32 28) (h : ¬ data.Zeros 64 28) : Refused data (.overflow 64 32)

structure Formed (data : Bytes) : Prop where
  length_eq : data.length = 128
  version : data.Zeros 0 31
  blockHeight : data.Zeros 32 28
  extrinsicIndex : data.Zeros 64 28

theorem formed_or_refused (data : Bytes) : Formed data ∨ ∃ fault, Refused data fault := by
  by_cases hlength : data.length = 128
  · by_cases hversion : data.Zeros 0 31
    · by_cases hheight : data.Zeros 32 28
      · by_cases hindex : data.Zeros 64 28
        · exact .inl ⟨hlength, hversion, hheight, hindex⟩
        · exact .inr ⟨_, .extrinsicIndex hlength hversion hheight hindex⟩
      · exact .inr ⟨_, .blockHeight hlength hversion hheight⟩
    · exact .inr ⟨_, .version hlength hversion⟩
  · exact .inr ⟨_, .length hlength⟩

section Reading

variable {data : Bytes}

/-- The three numbers, read one after another. -/
theorem uintAt_of_length (hlength : data.length = 128) :
    Region.uintAt ⟨data⟩ 0 8 =
        (if data.Zeros 0 31 then .ok (Bytes.toNat (((data.drop 0).take 32).drop 16))
          else .error (.overflow 0 8)) ∧
      Region.uintAt ⟨data⟩ 32 32 =
        (if data.Zeros 32 28 then .ok (Bytes.toNat (((data.drop 32).take 32).drop 16))
          else .error (.overflow 32 32)) ∧
      Region.uintAt ⟨data⟩ 64 32 =
        (if data.Zeros 64 28 then .ok (Bytes.toNat (((data.drop 64).take 32).drop 16))
          else .error (.overflow 64 32)) := by
  have hsize : data.length < 2 ^ 64 := by omega
  refine ⟨Region.uintAt_eq_ite data 0 8 ?_ hsize, Region.uintAt_eq_ite data 32 32 ?_ hsize,
    Region.uintAt_eq_ite data 64 32 ?_ hsize⟩
  all_goals
    rw [hlength]
    decide

theorem exists_read_of_formed (h : Formed data) : ∃ p, read data = .ok p := by
  obtain ⟨hversion, hheight, hindex⟩ := uintAt_of_length h.length_eq
  rw [if_pos h.version] at hversion
  rw [if_pos h.blockHeight] at hheight
  rw [if_pos h.extrinsicIndex] at hindex
  have hroom : (96 : UInt64).toNat + 32 < UInt64.size ∧
      (96 : UInt64).toNat + 32 ≤ data.length := by
    rw [h.length_eq]
    decide
  have hlast : ∃ commitment, Region.wordAt ⟨data⟩ 96 = .ok commitment :=
    ⟨_, by rw [Region.wordAt, dif_pos hroom]⟩
  obtain ⟨commitment, hcommitment⟩ := hlast
  have hsize : ¬ data.length ≠ size := not_not_intro h.length_eq
  rw [read, if_neg hsize]
  simp only [hversion, hheight, hindex, hcommitment, bind, Except.bind]
  exact ⟨_, rfl⟩

theorem Refused.read_eq {fault : Abi.Error} (h : Refused data fault) :
    read data = .error fault := by
  cases h with
  | length h =>
    have hsize : data.length ≠ size := h
    rw [read, if_pos hsize]
    rfl
  | version hlength h =>
    obtain ⟨hversion, -, -⟩ := uintAt_of_length hlength
    have hsize : ¬ data.length ≠ size := not_not_intro hlength
    rw [if_neg h] at hversion
    rw [read, if_neg hsize]
    simp only [hversion, bind, Except.bind]
  | blockHeight hlength hversion h =>
    obtain ⟨hfirst, hheight, -⟩ := uintAt_of_length hlength
    have hsize : ¬ data.length ≠ size := not_not_intro hlength
    rw [if_pos hversion] at hfirst
    rw [if_neg h] at hheight
    rw [read, if_neg hsize]
    simp only [hfirst, hheight, bind, Except.bind]
  | extrinsicIndex hlength hversion hheight h =>
    obtain ⟨hfirst, hsecond, hindex⟩ := uintAt_of_length hlength
    have hsize : ¬ data.length ≠ size := not_not_intro hlength
    rw [if_pos hversion] at hfirst
    rw [if_pos hheight] at hsecond
    rw [if_neg h] at hindex
    rw [read, if_neg hsize]
    simp only [hfirst, hsecond, hindex, bind, Except.bind]

theorem exists_read_iff_formed : (∃ p, read data = .ok p) ↔ Formed data := by
  constructor
  · rintro ⟨p, hread⟩
    rcases formed_or_refused data with hformed | ⟨fault, hrefused⟩
    · exact hformed
    · rw [hrefused.read_eq] at hread
      cases hread
  · exact exists_read_of_formed

theorem read_eq_error_iff (fault : Abi.Error) :
    read data = .error fault ↔ Refused data fault := by
  constructor
  · intro hread
    rcases formed_or_refused data with hformed | ⟨other, hrefused⟩
    · obtain ⟨p, hp⟩ := exists_read_of_formed hformed
      rw [hp] at hread
      cases hread
    · rw [hrefused.read_eq] at hread
      cases hread
      exact hrefused
  · exact Refused.read_eq

end Reading

theorem decode_eq_ok_iff_read (data : Bytes) (p : BlobPointer) :
    decode data = .ok p ↔ read data = .ok p := by
  unfold decode
  cases read data <;> simp [Except.mapError]

/-- A pointer is refused with the fault of the reader of its payload. -/
theorem decode_eq_error_iff_read (data : Bytes) (e : FormatError) :
    decode data = .error e ↔ ∃ fault, e = .payload .blobPointer fault ∧
      read data = .error fault := by
  unfold decode
  cases read data <;> simp [Except.mapError, eq_comm]

/-- Data are read as a pointer exactly when they are its one encoding, so when they are four
words long with zeros in front of the three numbers; all other data are refused as a pointer's
payload, by the first thing that is wrong with them. -/
theorem decode_exact (data : Bytes) :
    (∀ p, decode data = .ok p ↔ data = p.encode) ∧
    ((∃ p, decode data = .ok p) ↔ data.length = 128 ∧ data.Zeros 0 31 ∧ data.Zeros 32 28 ∧
      data.Zeros 64 28) ∧
    (∀ e, decode data = .error e ↔
      ∃ fault, e = .payload .blobPointer fault ∧ Refused data fault) ∧
    ∀ other p, decode data = .ok p → decode other = .ok p → data = other := by
  have hok : ∀ (bytes : Bytes) p, decode bytes = .ok p ↔ bytes = p.encode := by
    intro bytes p
    rw [decode_eq_ok_iff_read, read_eq_ok_iff]
  refine ⟨hok data, ?_, ?_, ?_⟩
  · simp only [decode_eq_ok_iff_read, exists_read_iff_formed]
    exact ⟨fun h => ⟨h.length_eq, h.version, h.blockHeight, h.extrinsicIndex⟩,
      fun ⟨hlength, hversion, hheight, hindex⟩ => ⟨hlength, hversion, hheight, hindex⟩⟩
  · intro e
    simp only [decode_eq_error_iff_read, read_eq_error_iff]
  · intro other p hdata hother
    rw [(hok data p).mp hdata, (hok other p).mp hother]

def overfull : Bytes := List.replicate 32 0 ++ List.replicate 96 0xff

/-- The first word that is too large is told, and a pointer is found in no bytes but its own. -/
theorem decode_exact_overfull :
    decode overfull = .error (.payload .blobPointer (.overflow 32 32)) ∧
    (∀ p, decode overfull ≠ .ok p) ∧
    ∀ other, decode other = .ok (.new 1 2 Word.zero) →
      (new 1 2 Word.zero).encode = other := by
  have hrefused : Refused overfull (.overflow 32 32) :=
    .blockHeight rfl (by decide +kernel) (by decide +kernel)
  have herror := ((decode_exact overfull).2.2.1 _).mpr ⟨_, rfl, hrefused⟩
  refine ⟨herror, ?_, ?_⟩
  · intro p hp
    rw [herror] at hp
    cases hp
  · intro other hother
    exact (decode_exact _).2.2.2 other _ (decode_encode _) hother

end Message.BlobPointer

end Validium
