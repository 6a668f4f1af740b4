import Validium.Message.Kind
import Validium.Proofs.Bytes

/-!
A blob has one reading and a sequence one blob. Every header that is written is read back
with the bytes behind it, and every header that is read is the one written for its payload.
The two directions meet in the sequence of items and in the list around it.
-/
namespace Validium.Batches

def base (isList : Bool) : Nat := if isList then 0xc0 else 0x80

def Item.written (i : Item) : Bytes :=
  if i.isList then header 0xc0 i.payload.length ++ i.payload else encodeItem i.payload

theorem base_ge (isList : Bool) : 0x80 ≤ base isList := by
  cases isList <;> decide

theorem base_le (isList : Bool) : base isList ≤ 0xc0 := by
  cases isList <;> decide

theorem header_short (base length : Nat) (h : length < 56) :
    header base length = [UInt8.ofNat (base + length)] := by
  simp [header, h]

theorem header_long (base length : Nat) (h : 56 ≤ length) :
    header base length =
      UInt8.ofNat (base + 55 + (Bytes.minimal length).length) :: Bytes.minimal length := by
  simp [header, Nat.not_lt.mpr h]

theorem encodeItem_single (x : UInt8) (h : x < 0x80) : encodeItem [x] = [x] := by
  simp [encodeItem, h]

/-- Any item but a single small byte has a header. -/
theorem encodeItem_headed (b : Bytes) (h : ∀ x, b = [x] → ¬ x < 0x80) :
    encodeItem b = header 0x80 b.length ++ b := by
  match b with
  | [] => rfl
  | [x] => simp [encodeItem, h x rfl]
  | _ :: _ :: _ => rfl

/-- Anything but a single small byte is written behind a header. -/
theorem Item.written_headed (i : Item)
    (h : i.isList = true ∨ ∀ x, i.payload = [x] → ¬ x < 0x80) :
    i.written = header (base i.isList) i.payload.length ++ i.payload := by
  cases hkind : i.isList with
  | true => rw [written, hkind, if_pos rfl, base, if_pos rfl]
  | false =>
    rw [hkind] at h
    have hsmall := h.resolve_left Bool.false_ne_true
    rw [written, hkind, if_neg Bool.false_ne_true, encodeItem_headed _ hsmall, base,
      if_neg Bool.false_ne_true]

theorem length_header_pos (base length : Nat) : 0 < (header base length).length := by
  by_cases h : length < 56
  · simp [header_short base length h]
  · simp [header_long base length (Nat.le_of_not_lt h)]

/-- An item is a small byte, which stands for itself, or has a header. -/
theorem small_or_headed (b : Bytes) :
    (∃ x, b = [x] ∧ x < 0x80 ∧ encodeItem b = [x]) ∨
      ((∀ x, b = [x] → ¬ x < 0x80) ∧ encodeItem b = header 0x80 b.length ++ b) := by
  by_cases h : ∀ x, b = [x] → ¬ x < 0x80
  · exact Or.inr ⟨h, encodeItem_headed b h⟩
  · simp only [Classical.not_forall, Classical.not_not] at h
    obtain ⟨x, rfl, hx⟩ := h
    exact Or.inl ⟨x, rfl, hx, encodeItem_single x hx⟩

theorem length_encodeItem_pos (b : Bytes) : 0 < (encodeItem b).length := by
  rcases small_or_headed b with ⟨x, -, -, heq⟩ | ⟨-, heq⟩
  · simp [heq]
  · have hpos := length_header_pos 0x80 b.length
    rw [heq, List.length_append]
    omega

theorem length_le_encodeItem (b : Bytes) : b.length ≤ (encodeItem b).length := by
  rcases small_or_headed b with ⟨x, rfl, -, heq⟩ | ⟨-, heq⟩
  · simp [heq]
  · simp [heq]

theorem take_append (isList : Bool) (payload rest : Bytes) :
    take isList payload.length (payload ++ rest) = .ok ⟨isList, payload, rest⟩ := by
  simp [take]

/-- What was taken stands in front. -/
theorem eq_of_take (isList : Bool) (length : Nat) (b : Bytes) (i : Item)
    (h : take isList length b = .ok i) :
    i.isList = isList ∧ i.payload.length = length ∧ b = i.payload ++ i.rest := by
  unfold take at h
  split at h
  · next hle =>
    cases h
    exact ⟨rfl, List.length_take_of_le hle, (List.take_append_drop length b).symm⟩
  · cases h

/-- A long item is taken by the number of its length, written as short as possible. -/
theorem takeLong_append (isList : Bool) (payload rest : Bytes)
    (h56 : 56 ≤ payload.length) (h64 : payload.length < 2 ^ 64) :
    takeLong isList (Bytes.minimal payload.length).length
      (Bytes.minimal payload.length ++ (payload ++ rest)) = .ok ⟨isList, payload, rest⟩ := by
  have hpos := Bytes.length_minimal_pos payload.length (by omega) h64
  have hhead : (Bytes.minimal payload.length ++ (payload ++ rest)).head? ≠ some 0 := by
    obtain ⟨x, r, hdigits⟩ := List.exists_cons_of_length_pos hpos
    have hfirst := Bytes.head?_minimal payload.length
    rw [hdigits] at hfirst ⊢
    simpa using hfirst
  have hval : Bytes.toNat (Bytes.minimal payload.length) = payload.length :=
    Bytes.toNat_minimal _ h64
  have hshort : ¬ payload.length < 56 := Nat.not_lt.mpr h56
  unfold takeLong
  rw [if_neg (by simp), if_neg hhead]
  simp only [List.take_left, List.drop_left, hval, if_neg hshort]
  exact take_append isList payload rest

/-- What was taken as a long item was written as one: long enough, and its length as short as
possible. -/
theorem eq_of_takeLong (isList : Bool) (width : Nat) (b : Bytes) (i : Item)
    (hw : width ≤ 8) (h : takeLong isList width b = .ok i) :
    i.isList = isList ∧ 56 ≤ i.payload.length ∧ i.payload.length < 2 ^ 64 ∧
      (Bytes.minimal i.payload.length).length = width ∧
      b = Bytes.minimal i.payload.length ++ (i.payload ++ i.rest) := by
  unfold takeLong at h
  split at h
  · cases h
  next hlen =>
  split at h
  · cases h
  next hhead =>
  simp only at h
  split at h
  · cases h
  next h56 =>
  obtain ⟨hkind, hpayload, hbytes⟩ := eq_of_take _ _ _ _ h
  have hwidth : (b.take width).length = width := by
    rw [List.length_take]
    omega
  have hfirst : (b.take width).head? ≠ some 0 := by
    cases width with
    | zero => simp
    | succ width => simpa [List.head?_take] using hhead
  have hmin : Bytes.minimal i.payload.length = b.take width := by
    rw [hpayload]
    exact Bytes.minimal_toNat _ (by omega) hfirst
  have hlt : Bytes.toNat (b.take width) < 256 ^ 8 :=
    Nat.lt_of_lt_of_le (Bytes.toNat_lt _) (Nat.pow_le_pow_right (by decide) (by omega))
  refine ⟨hkind, by omega, by omega, by rw [hmin, hwidth], ?_⟩
  rw [hmin, ← hbytes, List.take_append_drop]

/-! The first byte of an item decides how the rest is read. -/

theorem item_single (x : UInt8) (r : Bytes) (h : x.toNat < 0x80) :
    item (x :: r) = .ok ⟨false, [x], r⟩ := by
  have hx : x < 0x80 := UInt8.lt_iff_toNat_lt.mpr h
  unfold item
  simp only [if_pos hx]

theorem item_one (c : UInt8) (r : Bytes) :
    item (0x81 :: c :: r) =
      if c < 0x80 then .error .nonCanonicalSingleByte else .ok ⟨false, [c], r⟩ := rfl

theorem item_short (isList : Bool) (x : UInt8) (r : Bytes) (hlo : base isList ≤ x.toNat)
    (hhi : x.toNat < base isList + 56) (hone : isList = true ∨ x.toNat - base isList ≠ 1) :
    item (x :: r) = take isList (x.toNat - base isList) r := by
  have h80 : ¬ x < 0x80 := by
    rw [UInt8.lt_iff_toNat_lt, Nat.not_lt]
    exact Nat.le_trans (base_ge isList) hlo
  unfold item
  cases isList with
  | false =>
    have hb8 : x < 0xb8 := UInt8.lt_iff_toNat_lt.mpr hhi
    have h1 : x.toNat - 0x80 ≠ 1 := hone.resolve_left Bool.false_ne_true
    simp only [if_neg h80, if_pos hb8]
    split
    · exact absurd ‹_› h1
    · exact absurd ‹_› h1
    · rfl
  | true =>
    have hb8 : ¬ x < 0xb8 := by
      rw [UInt8.lt_iff_toNat_lt, Nat.not_lt]
      exact Nat.le_trans (by decide) hlo
    have hc0 : ¬ x < 0xc0 := by
      rw [UInt8.lt_iff_toNat_lt, Nat.not_lt]
      exact hlo
    have hf8 : x < 0xf8 := UInt8.lt_iff_toNat_lt.mpr hhi
    simp only [if_neg h80, if_neg hb8, if_neg hc0, if_pos hf8]
    rfl

theorem item_long (isList : Bool) (x : UInt8) (r : Bytes) (hlo : base isList + 56 ≤ x.toNat)
    (hhi : x.toNat < base isList + 64) :
    item (x :: r) = takeLong isList (x.toNat - (base isList + 55)) r := by
  have h80 : ¬ x < 0x80 := by
    rw [UInt8.lt_iff_toNat_lt, Nat.not_lt]
    exact Nat.le_trans (Nat.le_add_right_of_le (base_ge isList)) hlo
  have hb8 : ¬ x < 0xb8 := by
    rw [UInt8.lt_iff_toNat_lt, Nat.not_lt]
    exact Nat.le_trans (Nat.add_le_add_right (base_ge isList) 56) hlo
  unfold item
  cases isList with
  | false =>
    have hc0 : x < 0xc0 := UInt8.lt_iff_toNat_lt.mpr hhi
    simp only [if_neg h80, if_neg hb8, if_pos hc0]
    rfl
  | true =>
    have hc0 : ¬ x < 0xc0 := by
      rw [UInt8.lt_iff_toNat_lt, Nat.not_lt]
      exact Nat.le_trans (by decide) hlo
    have hf8 : ¬ x < 0xf8 := by
      rw [UInt8.lt_iff_toNat_lt, Nat.not_lt]
      exact hlo
    simp only [if_neg h80, if_neg hb8, if_neg hc0, if_neg hf8]
    rfl

/-- A header and its payload are read back, unless the payload would have been written without a
header. -/
theorem item_header (isList : Bool) (payload rest : Bytes)
    (hsmall : isList = true ∨ ∀ x, payload = [x] → ¬ x < 0x80) (h64 : payload.length < 2 ^ 64) :
    item (header (base isList) payload.length ++ (payload ++ rest)) =
      .ok ⟨isList, payload, rest⟩ := by
  have hbase := base_le isList
  by_cases hshort : payload.length < 56
  · have hx : (UInt8.ofNat (base isList + payload.length)).toNat =
        base isList + payload.length :=
      UInt8.toNat_ofNat_of_lt' (by change _ < 256; omega)
    rw [header_short _ _ hshort, List.singleton_append]
    by_cases hone : isList = true ∨ payload.length ≠ 1
    · rw [item_short isList _ _ (by omega) (by omega) (by rwa [hx, Nat.add_sub_cancel_left]),
        hx, Nat.add_sub_cancel_left]
      exact take_append isList payload rest
    · obtain ⟨hstring, hlen⟩ := not_or.mp hone
      obtain ⟨x, rfl⟩ := List.length_eq_one_iff.mp (not_not.mp hlen)
      rw [Bool.not_eq_true] at hstring
      subst hstring
      have hx80 : ¬ x < 0x80 := hsmall.resolve_left Bool.false_ne_true x rfl
      exact (item_one x rest).trans (if_neg hx80)
  · have h56 : 56 ≤ payload.length := Nat.le_of_not_lt hshort
    have hpos := Bytes.length_minimal_pos payload.length (by omega) h64
    have hle := Bytes.length_minimal_le payload.length
    have hx : (UInt8.ofNat (base isList + 55 + (Bytes.minimal payload.length).length)).toNat =
        base isList + 55 + (Bytes.minimal payload.length).length :=
      UInt8.toNat_ofNat_of_lt' (by change _ < 256; omega)
    rw [header_long _ _ h56, List.cons_append, item_long isList _ _ (by omega) (by omega), hx,
      Nat.add_sub_cancel_left]
    exact takeLong_append isList payload rest h56 h64

theorem item_encodeItem (b rest : Bytes) (h64 : b.length < 2 ^ 64) :
    item (encodeItem b ++ rest) = .ok ⟨false, b, rest⟩ := by
  rcases small_or_headed b with ⟨x, rfl, hx, heq⟩ | ⟨hsmall, heq⟩
  · rw [heq]
    exact item_single x rest (UInt8.lt_iff_toNat_lt.mp hx)
  · rw [heq, List.append_assoc]
    exact item_header false b rest (Or.inr hsmall) h64

/-- What was read is what is written for the payload, so a header has one form only. -/
theorem eq_of_item (b : Bytes) (i : Item) (h : item b = .ok i) :
    b = i.written ++ i.rest ∧ i.payload.length < 2 ^ 64 := by
  match b with
  | [] => cases h
  | x :: r =>
    have hx := x.toNat_lt
    by_cases h80 : x.toNat < 0x80
    · rw [item_single x r h80] at h
      cases h
      simp [Item.written, encodeItem_single x (UInt8.lt_iff_toNat_lt.mpr h80)]
    obtain ⟨isList, hlo, hhi⟩ : ∃ isList, base isList ≤ x.toNat ∧ x.toNat < base isList + 64 := by
      by_cases hc0 : x.toNat < 0xc0
      · exact ⟨false, Nat.le_of_not_lt h80, hc0⟩
      · exact ⟨true, Nat.le_of_not_lt hc0, hx⟩
    by_cases hshort : x.toNat < base isList + 56
    · by_cases hone : isList = true ∨ x.toNat - base isList ≠ 1
      · rw [item_short isList x r hlo hshort hone] at h
        obtain ⟨hkind, hlen, hr⟩ := eq_of_take _ _ _ _ h
        have hsmall : i.isList = true ∨ ∀ c, i.payload = [c] → ¬ c < 0x80 := by
          refine hone.imp (fun hlist => hkind.trans hlist) (fun hne c hc => ?_)
          rw [hc] at hlen
          exact absurd hlen.symm hne
        have hfirst : UInt8.ofNat (base isList + (x.toNat - base isList)) = x := by
          rw [Nat.add_sub_cancel' hlo, UInt8.ofNat_toNat]
        rw [i.written_headed hsmall, hkind, hlen, header_short _ _ (by omega), hfirst, hr]
        exact ⟨by simp, by omega⟩
      · -- The only header whose payload is looked at: a small byte must stand for itself.
        obtain ⟨hstring, hlen⟩ := not_or.mp hone
        rw [Bool.not_eq_true] at hstring
        subst hstring
        have hx81 : x = 0x81 := by
          have hcount : x.toNat - 0x80 = 1 := not_not.mp hlen
          exact UInt8.toNat_inj.mp (by change x.toNat = 0x81; omega)
        subst hx81
        cases r with
        | nil => cases h
        | cons c s =>
          rw [item_one] at h
          split at h
          · cases h
          next hc =>
          cases h
          have hsmall : ∀ d, [c] = [d] → ¬ d < 0x80 := by
            rintro d ⟨rfl⟩
            exact hc
          rw [Item.written_headed _ (Or.inr hsmall)]
          exact ⟨rfl, by simp⟩
    · have hlong : base isList + 56 ≤ x.toNat := Nat.le_of_not_lt hshort
      rw [item_long isList x r hlong hhi] at h
      obtain ⟨hkind, h56, h64, hwidth, hr⟩ := eq_of_takeLong _ _ _ _ (by omega) h
      have hsmall : i.isList = true ∨ ∀ c, i.payload = [c] → ¬ c < 0x80 := by
        refine Or.inr fun c hc => ?_
        simp [hc] at h56
      have hfirst : UInt8.ofNat (base isList + 55 + (x.toNat - (base isList + 55))) = x := by
        rw [Nat.add_sub_cancel' (by omega), UInt8.ofNat_toNat]
      rw [i.written_headed hsmall, hkind, header_long _ _ h56, hwidth, hfirst]
      exact ⟨by simpa using hr, h64⟩

theorem itemsFrom_flatMap (batches : List Bytes) (fuel : Nat)
    (hfuel : (batches.flatMap encodeItem).length ≤ fuel)
    (h64 : (batches.flatMap encodeItem).length < 2 ^ 64) :
    itemsFrom fuel (batches.flatMap encodeItem) = .ok batches := by
  induction batches generalizing fuel with
  | nil => cases fuel <;> rfl
  | cons b batches ih =>
    have hpos := length_encodeItem_pos b
    have hle := length_le_encodeItem b
    rw [List.flatMap_cons, List.length_append] at hfuel h64
    obtain ⟨fuel, rfl⟩ : ∃ n, fuel = n + 1 := ⟨fuel - 1, by omega⟩
    have hitem := item_encodeItem b (batches.flatMap encodeItem) (by omega)
    have hrest := ih fuel (by omega) (by omega)
    obtain ⟨x, r, hxr⟩ := List.exists_cons_of_length_pos hpos
    rw [List.flatMap_cons]
    rw [hxr] at hitem ⊢
    simp only [List.cons_append] at hitem ⊢
    simp only [itemsFrom, hitem, hrest, bind, Except.bind, pure, Except.pure]
    rfl

theorem eq_of_itemsFrom (fuel : Nat) (b : Bytes) (batches : List Bytes)
    (h : itemsFrom fuel b = .ok batches) : b = batches.flatMap encodeItem := by
  induction fuel generalizing b batches with
  | zero =>
    match b with
    | [] =>
      cases h
      rfl
    | _ :: _ => cases h
  | succ fuel ih =>
    match b with
    | [] =>
      cases h
      rfl
    | x :: r =>
      simp only [itemsFrom, bind, Except.bind] at h
      split at h
      · cases h
      next i hitem =>
      split at h
      · cases h
      next hkind =>
      split at h
      · cases h
      next rest hrest =>
      cases h
      obtain ⟨heq, -⟩ := eq_of_item _ _ hitem
      rw [heq, List.flatMap_cons, ← ih _ _ hrest, Item.written, if_neg hkind]

theorem decode_encode (batches : List Bytes) (h64 : (encode batches).length < 2 ^ 64) :
    decode (encode batches) = .ok batches := by
  have hlen : (batches.flatMap encodeItem).length < 2 ^ 64 := by
    rw [encode, List.length_append] at h64
    omega
  have hlist : item (encode batches) = .ok ⟨true, batches.flatMap encodeItem, []⟩ := by
    have hheader := item_header true (batches.flatMap encodeItem) [] (Or.inl rfl) hlen
    rw [List.append_nil] at hheader
    exact hheader
  have hitems := itemsFrom_flatMap batches _ (Nat.le_refl _) hlen
  simp only [decode, hlist, hitems, bind, Except.bind]
  rfl

theorem eq_encode_of_decode (blob : Bytes) (batches : List Bytes)
    (h : decode blob = .ok batches) : blob = encode batches := by
  simp only [decode, bind, Except.bind] at h
  split at h
  · cases h
  next i hitem =>
  split at h
  next hkind =>
    split at h
    · cases h
    next items hitems =>
    split at h
    · next hrest =>
      cases h
      obtain ⟨heq, -⟩ := eq_of_item _ _ hitem
      have hnil : i.rest = [] := List.isEmpty_iff.mp hrest
      rw [heq, Item.written, if_pos hkind, hnil, List.append_nil, encode,
        ← eq_of_itemsFrom _ _ _ hitems]
    · cases h
  · cases h

/-- A blob is read as a sequence exactly when it is the one blob of the sequence; every
other blob is a malformed encoding. -/
theorem decode_eq_ok_iff_eq_encode (blob : Bytes) :
    (∀ batches, (encode batches).length < 2 ^ 64 →
      (decode blob = .ok batches ↔ blob = encode batches)) ∧
    (∀ batches, decode blob = .ok batches → encode batches = blob) ∧
    ((∀ batches, blob ≠ encode batches) → ∃ fault,
      (decode blob).mapError FormatError.batches = .error (.batches fault)) := by
  refine ⟨fun batches h64 => ⟨eq_encode_of_decode blob batches, ?_⟩,
    fun batches h => (eq_encode_of_decode blob batches h).symm, fun hno => ?_⟩
  · rintro rfl
    exact decode_encode batches h64
  · cases h : decode blob with
    | ok batches => exact absurd (eq_encode_of_decode blob batches h) (hno batches)
    | error fault => exact ⟨fault, rfl⟩

/-- Batches of every class: empty, below and above `0x80`, and one with a long header. -/
def mixed : List Bytes := [[], [0x7f], [0x80], List.replicate 56 0xab]

theorem decode_eq_ok_iff_eq_encode_mixed :
    (encode mixed).length < 2 ^ 64 ∧ decode (encode mixed) = .ok mixed := by
  have hlen : (encode mixed).length < 2 ^ 64 := by decide
  exact ⟨hlen, ((decode_eq_ok_iff_eq_encode (encode mixed)).1 mixed hlen).mpr rfl⟩

end Validium.Batches
