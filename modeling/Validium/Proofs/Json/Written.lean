import Mathlib
import Validium.Proofs.Text.Utf8
import Validium.Json.Parser

/-!
Written values are read back. The characters of a value are followed by whatever comes next,
so each reader is shown to take exactly what was written and to leave the rest: strings piece
by piece through their escapes, integers of 64 bits by their digits, and arrays and objects by
induction on the value. An object comes back with its fields in the order of their names.
-/
namespace Validium.Json

namespace Parser

theorem skip_cons {c : Char} (h : isBlank c = false) (rest : List Char) :
    skip (c :: rest) = c :: rest := by
  rw [skip, List.dropWhile_cons, h]
  rfl

section Strings

def pieceOf (c : Char) : Piece :=
  if c.toNat < 0x20 ∧ c ≠ '\n' ∧ c ≠ '\r' ∧ c ≠ '\t' ∧ c ≠ '\x08' ∧ c ≠ '\x0c' then
    .unit c.toNat
  else .char c

theorem hex4?_control {n : Nat} (h : n < 0x20) :
    hex4? '0' '0' (Value.hexDigit (n / 16)) (Value.hexDigit (n % 16)) = some n := by
  have hall : ∀ i : Fin 0x20,
      hex4? '0' '0' (Value.hexDigit (i / 16)) (Value.hexDigit (i % 16)) = some i.val := by
    decide
  exact hall ⟨n, h⟩

theorem pieces_cons {c : Char} (hquote : c ≠ '"') (hslash : c ≠ '\\')
    (hcontrol : ¬ c.toNat < 0x20) (rest : List Char) :
    pieces (c :: rest) = (pieces rest).map fun (ps, r) => (.char c :: ps, r) := by
  rw [pieces]
  · simp [hcontrol, hslash]
  · exact hquote
  · intro _ _ _ _ _ h
    exact absurd h hslash
  · intro _ _ h
    exact absurd h hslash

/-- A character as it is written is one piece. -/
theorem pieces_escapeChar (c : Char) (rest : List Char) :
    pieces (Value.escapeChar c ++ rest) =
      (pieces rest).map fun (ps, r) => (pieceOf c :: ps, r) := by
  by_cases hquote : c = '"'
  · subst c; rfl
  by_cases hslash : c = '\\'
  · subst c; rfl
  by_cases hnewline : c = '\n'
  · subst c; rfl
  by_cases hreturn : c = '\r'
  · subst c; rfl
  by_cases htab : c = '\t'
  · subst c; rfl
  by_cases hback : c = '\x08'
  · subst c; rfl
  by_cases hfeed : c = '\x0c'
  · subst c; rfl
  by_cases hcontrol : c.toNat < 0x20
  · have hescape : Value.escapeChar c =
        ['\\', 'u', '0', '0', Value.hexDigit (c.toNat / 16), Value.hexDigit (c.toNat % 16)] := by
      simp [Value.escapeChar, hquote, hslash, hnewline, hreturn, htab, hback, hfeed, hcontrol]
    have hpiece : pieceOf c = .unit c.toNat :=
      if_pos ⟨hcontrol, hnewline, hreturn, htab, hback, hfeed⟩
    rw [hescape, hpiece]
    simp only [List.cons_append, List.nil_append, pieces, hex4?_control hcontrol]
  · have hescape : Value.escapeChar c = [c] := by
      simp [Value.escapeChar, hquote, hslash, hnewline, hreturn, htab, hback, hfeed, hcontrol]
    have hpiece : pieceOf c = .char c := if_neg fun h => hcontrol h.1
    rw [hescape, hpiece, List.singleton_append, pieces_cons hquote hslash hcontrol]

/-- No written character is half of a surrogate pair, so each piece is one by itself. -/
theorem join_pieceOf_cons (c : Char) (cs : List Char) :
    join ((c :: cs).map pieceOf) = (join (cs.map pieceOf)).map (c :: ·) := by
  rw [List.map_cons]
  by_cases hcontrol : c.toNat < 0x20 ∧ c ≠ '\n' ∧ c ≠ '\r' ∧ c ≠ '\t' ∧ c ≠ '\x08' ∧ c ≠ '\x0c'
  · have hhigh : isHigh c.toNat = false := by
      simp only [isHigh, Bool.and_eq_false_iff, decide_eq_false_iff_not]
      omega
    have hlow : isLow c.toNat = false := by
      simp only [isLow, Bool.and_eq_false_iff, decide_eq_false_iff_not]
      omega
    rw [pieceOf, if_pos hcontrol]
    cases hnext : cs.map pieceOf with
    | nil => simp [join, hhigh, hlow, Char.ofNat_toNat]
    | cons p ps => cases p <;> simp [join, hhigh, hlow, Char.ofNat_toNat]
  · rw [pieceOf, if_neg hcontrol, join]

theorem join_pieceOf (cs : List Char) : join (cs.map pieceOf) = some cs := by
  induction cs with
  | nil => rfl
  | cons c cs ih =>
    rw [join_pieceOf_cons, ih]
    rfl

theorem pieces_written (cs rest : List Char) :
    pieces (cs.flatMap Value.escapeChar ++ '"' :: rest) = some (cs.map pieceOf, rest) := by
  induction cs with
  | nil => rfl
  | cons c cs ih =>
    rw [List.flatMap_cons, List.append_assoc, pieces_escapeChar, ih]
    rfl

/-- A written string is read from behind its opening quote. -/
theorem string_written (s : String) (rest : List Char) :
    string (s.toList.flatMap Value.escapeChar ++ '"' :: rest) = some (some s, rest) := by
  rw [string, pieces_written]
  simp only [Option.map_some, join_pieceOf, String.ofList_toList]

end Strings

section Numbers

/-- What may stand behind a number: nothing that could belong to it. -/
def EndsNumber (rest : List Char) : Prop :=
  ∀ c, rest.head? = some c → isDigit c = false ∧ c ≠ '.' ∧ c ≠ 'e' ∧ c ≠ 'E'

theorem takeWhile_digits {ds rest : List Char} (hds : ∀ c ∈ ds, isDigit c = true)
    (hrest : EndsNumber rest) : (ds ++ rest).takeWhile isDigit = ds := by
  rw [List.takeWhile_append_of_pos hds]
  cases rest with
  | nil => simp
  | cons c rest => rw [List.takeWhile_cons, (hrest c rfl).1]; simp

theorem dropWhile_digits {ds rest : List Char} (hds : ∀ c ∈ ds, isDigit c = true)
    (hrest : EndsNumber rest) : (ds ++ rest).dropWhile isDigit = rest := by
  rw [List.dropWhile_append_of_pos hds]
  cases rest with
  | nil => rfl
  | cons c rest => rw [List.dropWhile_cons, (hrest c rfl).1]; simp

theorem fraction_none {rest : List Char} (h : EndsNumber rest) :
    fraction rest = some (none, rest) := by
  cases rest with
  | nil => rfl
  | cons c rest =>
    rw [fraction]
    intro r hr
    exact absurd (List.cons.inj hr).1 (h c rfl).2.1

theorem exponent_none {rest : List Char} (h : EndsNumber rest) :
    exponent rest = some (none, rest) := by
  cases rest with
  | nil => rfl
  | cons c rest =>
    obtain ⟨-, -, hlower, hupper⟩ := h c rfl
    simp [exponent, hlower, hupper]

theorem isDigit_of_mem_digitChars {n : Nat} {c : Char} (h : c ∈ Number.digitChars n) :
    isDigit c = true := by
  have hc := Nat.isDigit_of_mem_toDigits (by omega) le_rfl h
  simp only [Char.isDigit, Bool.and_eq_true, decide_eq_true_eq] at hc
  simp only [isDigit, Bool.and_eq_true, decide_eq_true_eq]
  exact hc

theorem head?_digitChars {n : Nat} (hn : 0 < n) : (Number.digitChars n).head? ≠ some '0' := by
  induction n using Nat.strong_induction_on with
  | h n ih =>
    rw [Number.digitChars]
    by_cases hsmall : n < 10
    · have hall : ∀ i : Fin 10, 0 < i.val → i.val.digitChar ≠ '0' := by decide
      rw [Nat.toDigits_of_lt_base hsmall]
      intro h
      exact hall ⟨n, hsmall⟩ hn (Option.some.inj h)
    · have hlower : 0 < n / 10 := by omega
      rw [Nat.toDigits_of_base_le (by omega) (by omega)]
      rw [List.head?_append_of_ne_nil _ Nat.toDigits_ne_nil]
      exact ih (n / 10) (by omega) hlower

/-- Digits are taken one by one as long as the value fits; it only grows. -/
theorem takeDigits_of_lt (ds : List Char) (acc taken : Nat)
    (h : Nat.ofDigitChars 10 ds acc < UInt64.size) :
    Number.takeDigits ds acc taken = (Nat.ofDigitChars 10 ds acc, taken + ds.length, []) := by
  induction ds generalizing acc taken with
  | nil => rfl
  | cons c ds ih =>
    rw [Nat.ofDigitChars_cons] at h ⊢
    have hfirst : acc * 10 + Number.digit c = 10 * acc + (c.toNat - '0'.toNat) := by
      rw [Nat.mul_comm]
      rfl
    have hgrows := @Nat.ofDigitChars_eq_ofDigitChars_zero ds (10 * acc + (c.toNat - '0'.toNat))
    have hpos : 0 < 10 ^ ds.length := by positivity
    have hle : 10 * acc + (c.toNat - '0'.toNat) < UInt64.size := by nlinarith
    rw [Number.takeDigits, hfirst, if_pos hle, ih _ _ h, List.length_cons]
    congr 2
    omega

/-- The digits of a number are taken up to whatever ends it. -/
theorem number_digitChars {negative : Bool} {n : Nat} {rest : List Char} (hrest : EndsNumber rest) :
    number negative (Number.digitChars n ++ rest) =
      some (Number.ofParts? ⟨negative, Number.digitChars n, none, none⟩, rest) := by
  have hds : ∀ c ∈ Number.digitChars n, isDigit c = true := fun _ => isDigit_of_mem_digitChars
  have hnonempty : (Number.digitChars n).isEmpty = false := by
    rw [List.isEmpty_eq_false_iff]
    exact Nat.toDigits_ne_nil
  have hzero : ((Number.digitChars n).head? == some '0' && (Number.digitChars n).length != 1) =
      false := by
    by_cases hn : n = 0
    · subst n; rfl
    · have := head?_digitChars (Nat.pos_of_ne_zero hn)
      simp [this]
  simp only [number, takeWhile_digits hds hrest, dropWhile_digits hds hrest, hnonempty, hzero,
    fraction_none hrest]
  simp [exponent_none hrest]

theorem ofParts?_digitChars {n : Nat} (h : n < UInt64.size) :
    Number.ofParts? ⟨false, Number.digitChars n, none, none⟩ = some (.int n) := by
  have hvalue : Nat.ofDigitChars 10 (Number.digitChars n) 0 = n := Nat.ofDigitChars_ten_toDigits
  have htaken := takeDigits_of_lt (Number.digitChars n) 0 0 (by rw [hvalue]; exact h)
  simp [Number.ofParts?, htaken, hvalue]

theorem ofParts?_negative {n : Nat} (hpos : 0 < n) (h : n ≤ 0x8000000000000000) :
    Number.ofParts? ⟨true, Number.digitChars n, none, none⟩ = some (.int (-(n : Int))) := by
  have hvalue : Nat.ofDigitChars 10 (Number.digitChars n) 0 = n := Nat.ofDigitChars_ten_toDigits
  have htaken := takeDigits_of_lt (Number.digitChars n) 0 0
    (by rw [hvalue]; exact Nat.lt_of_le_of_lt h (by decide))
  simp [Number.ofParts?, htaken, hvalue, hpos, h]

end Numbers

end Parser

def Number.Exact : Number → Prop
  | .int n => -0x8000000000000000 ≤ n ∧ n < 0x10000000000000000
  | .float _ => False

mutual

/-- Whether at most `depth` arrays and objects stand inside each other and all numbers are
integers of 64 bits. -/
def Value.Legible (depth : Nat) : Value → Prop
  | .number n => n.Exact
  | .array items =>
    match depth with
    | 0 => False
    | depth + 1 => Value.LegibleItems depth items
  | .object fields =>
    match depth with
    | 0 => False
    | depth + 1 => Value.LegibleFields depth fields
  | _ => True

def Value.LegibleItems (depth : Nat) : List Value → Prop
  | [] => True
  | v :: r => v.Legible depth ∧ Value.LegibleItems depth r

def Value.LegibleFields (depth : Nat) : List (String × Value) → Prop
  | [] => True
  | (_, v) :: r => v.Legible depth ∧ Value.LegibleFields depth r

end

mutual

def Value.sorted : Value → Value
  | .array items => .array (Value.sortedItems items)
  | .object fields => Value.ofFields (Value.sortedFields fields)
  | v => v

def Value.sortedItems : List Value → List Value
  | [] => []
  | v :: r => v.sorted :: Value.sortedItems r

def Value.sortedFields : List (String × Value) → List (String × Value)
  | [] => []
  | (n, v) :: r => (n, v.sorted) :: Value.sortedFields r

end

namespace Parser

open Value

theorem endsNumber_nil : EndsNumber [] := by
  intro c hc
  cases hc

theorem endsNumber_cons {c : Char} (hdigit : isDigit c = false) (hpoint : c ≠ '.')
    (hlower : c ≠ 'e') (hupper : c ≠ 'E') (rest : List Char) : EndsNumber (c :: rest) := by
  intro d hd
  obtain rfl := Option.some.inj hd
  exact ⟨hdigit, hpoint, hlower, hupper⟩

theorem value_digit {c : Char} (h : isDigit c = true) (fuel : Nat) (rest : List Char) :
    value (fuel + 1) (c :: rest) =
      (number false (c :: rest)).map fun (n, t) => (.number n, t) := by
  have hne : ∀ d, isDigit d = false → c ≠ d := by
    intro d hd hcd
    rw [hcd, hd] at h
    cases h
  rw [value]
  all_goals exact hne _ rfl

theorem exists_digitChars (n : Nat) :
    ∃ c cs, Number.digitChars n = c :: cs ∧ isDigit c = true := by
  obtain ⟨c, cs, hcs⟩ := List.exists_cons_of_ne_nil (Nat.toDigits_ne_nil : Nat.toDigits 10 n ≠ [])
  have hdigits : Number.digitChars n = c :: cs := hcs
  exact ⟨c, cs, hdigits, isDigit_of_mem_digitChars (n := n) (hdigits ▸ List.mem_cons_self)⟩

theorem chars_ofNat (n : Nat) : (Number.int (Int.ofNat n)).chars = Number.digitChars n := by
  simp [Number.chars]

theorem chars_negSucc (n : Nat) :
    (Number.int (Int.negSucc n)).chars = '-' :: Number.digitChars (n + 1) := by
  simp [Number.chars]

/-- A number of 64 bits is read back, whatever ends it. -/
theorem value_number {n : Number} (h : n.Exact) (fuel : Nat) {rest : List Char}
    (hrest : EndsNumber rest) :
    value (fuel + 1) (n.chars ++ rest) = some (.number (some n), rest) := by
  cases n with
  | float bits => exact absurd h id
  | int i =>
    obtain ⟨hlow, hhigh⟩ := h
    cases i with
    | ofNat n =>
      obtain ⟨c, cs, hdigits, hc⟩ := exists_digitChars n
      have hsize : n < UInt64.size := by
        have hbound : (n : Int) < 0x10000000000000000 := hhigh
        have hwidth : UInt64.size = 0x10000000000000000 := rfl
        omega
      rw [chars_ofNat, hdigits, List.cons_append, value_digit hc, ← List.cons_append, ← hdigits,
        number_digitChars hrest, ofParts?_digitChars hsize]
      rfl
    | negSucc n =>
      have hsize : n + 1 ≤ 0x8000000000000000 := by omega
      rw [chars_negSucc, List.cons_append, value, number_digitChars hrest,
        ofParts?_negative (Nat.succ_pos n) hsize]
      rfl

/-- The first character of a value is no blank and closes no array. -/
theorem exists_compactChars {depth : Nat} {v : Value} (h : v.Legible depth) :
    ∃ c cs, compactChars v = c :: cs ∧ isBlank c = false ∧ c ≠ ']' := by
  cases v with
  | null => exact ⟨_, _, rfl, rfl, by decide⟩
  | bool b => cases b <;> exact ⟨_, _, rfl, rfl, by decide⟩
  | string s => exact ⟨_, _, rfl, rfl, by decide⟩
  | array items => exact ⟨_, _, rfl, rfl, by decide⟩
  | object fields => exact ⟨_, _, rfl, rfl, by decide⟩
  | number n =>
    cases n with
    | float bits => exact absurd h id
    | int i =>
      cases i with
      | negSucc n => exact ⟨_, _, chars_negSucc n, rfl, by decide⟩
      | ofNat n =>
        obtain ⟨c, cs, hdigits, hc⟩ := exists_digitChars n
        refine ⟨c, cs, (chars_ofNat n).trans hdigits, ?_, ?_⟩
        · by_contra hblank
          simp only [isBlank, Bool.not_eq_false, Bool.or_eq_true, beq_iff_eq] at hblank
          rcases hblank with ((rfl | rfl) | rfl) | rfl <;> exact absurd hc (by decide)
        · rintro rfl
          exact absurd hc (by decide)

theorem skip_compactChars {depth : Nat} {v : Value} (h : v.Legible depth) (rest : List Char) :
    skip (compactChars v ++ rest) = compactChars v ++ rest := by
  obtain ⟨c, cs, hchars, hblank, -⟩ := exists_compactChars h
  rw [hchars, List.cons_append, skip_cons hblank]

theorem compactItems_cons (v : Value) (items : List Value) :
    ∃ more, compactItems (v :: items) = compactChars v ++ more := by
  cases items with
  | nil => exact ⟨[], by rw [compactItems, List.append_nil]⟩
  | cons w items => exact ⟨_, by rw [compactItems]⟩

theorem skip_compactItems {depth : Nat} {v : Value} (h : v.Legible depth) (items : List Value)
    (rest : List Char) :
    skip (compactItems (v :: items) ++ rest) = compactItems (v :: items) ++ rest := by
  obtain ⟨more, hmore⟩ := compactItems_cons v items
  rw [hmore, List.append_assoc, skip_compactChars h]

theorem length_compactChars_pos {depth : Nat} {v : Value} (h : v.Legible depth) :
    0 < (compactChars v).length := by
  obtain ⟨c, cs, hchars, -⟩ := exists_compactChars h
  rw [hchars]
  exact Nat.succ_pos _

/-- An array with items is read item by item. -/
theorem value_array {depth : Nat} {v : Value} (h : v.Legible depth) (items : List Value)
    (fuel : Nat) (rest : List Char) :
    value (fuel + 1) ('[' :: (compactItems (v :: items) ++ rest)) =
      (Parser.items fuel (compactItems (v :: items) ++ rest)).map
        fun (ts, t) => (.array ts, t) := by
  obtain ⟨more, hmore⟩ := compactItems_cons v items
  obtain ⟨c, cs, hchars, hblank, hopen⟩ := exists_compactChars h
  rw [value, skip_compactItems h, hmore, hchars]
  simp only [List.cons_append]
  split
  · rename_i heq
    exact absurd (List.cons.inj heq).1 hopen
  · rfl

theorem compactFields_cons (name : String) (v : Value) (fields : List (String × Value)) :
    ∃ more, compactFields ((name, v) :: fields) = '"' :: more := by
  cases fields with
  | nil => exact ⟨_, by rw [compactFields, quotedChars, List.cons_append, List.cons_append]⟩
  | cons f fields =>
    exact ⟨_, by rw [compactFields, quotedChars, List.cons_append, List.cons_append,
      List.cons_append]⟩

theorem skip_compactFields (name : String) (v : Value) (fields : List (String × Value))
    (rest : List Char) :
    skip (compactFields ((name, v) :: fields) ++ rest) =
      compactFields ((name, v) :: fields) ++ rest := by
  obtain ⟨more, hmore⟩ := compactFields_cons name v fields
  rw [hmore, List.cons_append, skip_cons rfl]

/-- An object with fields is read field by field. -/
theorem value_object (name : String) (v : Value) (fields : List (String × Value)) (fuel : Nat)
    (rest : List Char) :
    value (fuel + 1) ('\x7b' :: (compactFields ((name, v) :: fields) ++ rest)) =
      (Parser.fields fuel (compactFields ((name, v) :: fields) ++ rest)).map
        fun (fs, t) => (.object fs, t) := by
  obtain ⟨more, hmore⟩ := compactFields_cons name v fields
  rw [value, skip_compactFields, hmore]
  rfl

/-- The fields of an object from the first name on, up to the value behind it. -/
theorem fields_quoted (name : String) (fuel : Nat) (rest : List Char) :
    Parser.fields (fuel + 1) (quotedChars name ++ ':' :: rest) =
      match value fuel (skip rest) with
      | none => none
      | some (t, v) =>
        match skip v with
        | '\x7d' :: w => some ([(some name, t)], w)
        | ',' :: w => (Parser.fields fuel (skip w)).map fun (fs, x) => ((some name, t) :: fs, x)
        | _ => none := by
  rw [quotedChars, List.cons_append, List.cons_append, List.append_assoc, List.singleton_append,
    Parser.fields, string_written]
  simp only
  rw [skip_cons rfl]
  rfl

mutual

/-- A written value is taken whole, and nothing that follows it. -/
theorem value_compactChars (depth : Nat) (v : Value) (h : v.Legible depth) (fuel : Nat)
    (hfuel : 2 * (compactChars v).length ≤ fuel) (rest : List Char) (hrest : EndsNumber rest) :
    value fuel (compactChars v ++ rest) = some (Tree.ofValue v, rest) := by
  have hpos := length_compactChars_pos h
  obtain ⟨fuel, rfl⟩ : ∃ n, fuel = n + 1 := ⟨fuel - 1, by omega⟩
  cases v with
  | null => rfl
  | bool b => cases b <;> rfl
  | number n => exact value_number h fuel hrest
  | string s =>
    rw [compactChars, quotedChars, List.cons_append, List.cons_append, List.append_assoc,
      List.singleton_append, value, string_written]
    rfl
  | array items =>
    cases depth with
    | zero => exact absurd h id
    | succ depth =>
      cases items with
      | nil => rfl
      | cons v items =>
        have hread := items_compactItems depth (v :: items) (by simp) h fuel
          (by simp [compactChars] at hfuel; omega) rest
        rw [compactChars, List.cons_append, List.cons_append, List.append_assoc,
          List.singleton_append, value_array h.1, hread]
        rfl
  | object fields =>
    cases depth with
    | zero => exact absurd h id
    | succ depth =>
      cases fields with
      | nil => rfl
      | cons f fields =>
        obtain ⟨name, v⟩ := f
        have hread := fields_compactFields depth ((name, v) :: fields) (by simp) h fuel
          (by simp [compactChars] at hfuel; omega) rest
        rw [compactChars, List.cons_append, List.cons_append, List.append_assoc,
          List.singleton_append, value_object, hread]
        rfl
termination_by structural v

theorem items_compactItems (depth : Nat) (items : List Value) (hsome : items ≠ [])
    (h : LegibleItems depth items) (fuel : Nat)
    (hfuel : 2 * (compactItems items).length + 1 ≤ fuel) (rest : List Char) :
    Parser.items fuel (compactItems items ++ ']' :: rest) = some (Tree.ofItems items, rest) := by
  obtain ⟨fuel, rfl⟩ : ∃ n, fuel = n + 1 := ⟨fuel - 1, by omega⟩
  match items with
  | [] => exact absurd rfl hsome
  | [v] =>
    have hread := value_compactChars depth v h.1 fuel (by simp [compactItems] at hfuel; omega)
      (']' :: rest) (endsNumber_cons rfl (by decide) (by decide) (by decide) rest)
    rw [compactItems, Parser.items, hread]
    rfl
  | v :: w :: items =>
    have hlength : (compactItems (v :: w :: items)).length =
        (compactChars v).length + (compactItems (w :: items)).length + 1 := by
      simp [compactItems]
      omega
    have hread := value_compactChars depth v h.1 fuel (by omega)
      (',' :: (compactItems (w :: items) ++ ']' :: rest))
      (endsNumber_cons rfl (by decide) (by decide) (by decide) _)
    have hmore := items_compactItems depth (w :: items) (by simp) h.2 fuel (by omega) rest
    rw [compactItems, List.append_assoc, List.cons_append, Parser.items, hread]
    simp only
    rw [skip_cons rfl]
    simp only
    rw [skip_compactItems h.2.1, hmore]
    rfl
termination_by structural items

theorem fields_compactFields (depth : Nat) (fields : List (String × Value)) (hsome : fields ≠ [])
    (h : LegibleFields depth fields) (fuel : Nat)
    (hfuel : 2 * (compactFields fields).length + 1 ≤ fuel) (rest : List Char) :
    Parser.fields fuel (compactFields fields ++ '\x7d' :: rest) =
      some (Tree.ofFields fields, rest) := by
  obtain ⟨fuel, rfl⟩ : ∃ n, fuel = n + 1 := ⟨fuel - 1, by omega⟩
  match fields with
  | [] => exact absurd rfl hsome
  | [(name, v)] =>
    have hlength : (compactFields [(name, v)]).length =
        (quotedChars name).length + (compactChars v).length + 1 := by
      simp [compactFields]
      omega
    have hread := value_compactChars depth v h.1 fuel (by omega) ('\x7d' :: rest)
      (endsNumber_cons rfl (by decide) (by decide) (by decide) rest)
    rw [compactFields, List.append_assoc, List.cons_append, fields_quoted,
      skip_compactChars h.1, hread]
    rfl
  | (name, v) :: (next, w) :: fields =>
    have hlength : (compactFields ((name, v) :: (next, w) :: fields)).length =
        (quotedChars name).length + (compactChars v).length +
          (compactFields ((next, w) :: fields)).length + 2 := by
      simp [compactFields]
      omega
    have hread := value_compactChars depth v h.1 fuel (by omega)
      (',' :: (compactFields ((next, w) :: fields) ++ '\x7d' :: rest))
      (endsNumber_cons rfl (by decide) (by decide) (by decide) _)
    have hmore := fields_compactFields depth ((next, w) :: fields) (by simp) h.2 fuel (by omega)
      rest
    rw [compactFields, List.append_assoc, List.cons_append, List.append_assoc, List.cons_append,
      fields_quoted, skip_compactChars h.1, hread]
    simp only
    rw [skip_cons rfl]
    simp only
    rw [skip_compactFields, hmore]
    rfl
termination_by structural fields

end

/-- Bytes that spell a text leave nothing to stand in for, wherever its strings are. -/
theorem charsFrom_of_decodeFrom {fuel : Nat} {b : Bytes} {cs : List Char}
    (h : Text.Utf8.decodeFrom fuel b = some cs) (place : Place) :
    charsFrom fuel place b = some cs := by
  induction fuel generalizing b cs place with
  | zero => exact h
  | succ fuel ih =>
    rw [Text.Utf8.decodeFrom] at h
    rw [charsFrom]
    cases hfront : Text.Utf8.front b with
    | done =>
      rw [hfront] at h
      exact h
    | bad r =>
      rw [hfront] at h
      cases h
    | char c r =>
      rw [hfront] at h
      obtain ⟨ds, hds, rfl⟩ := Option.map_eq_some_iff.mp h
      simp only [ih hds, Option.map_some]

theorem chars?_ofText (text : String) : chars? (Bytes.ofText text) = some text.toList :=
  charsFrom_of_decodeFrom (Text.Utf8.decode_ofText text) .outside

end Parser

namespace Tree

theorem ofChars?_compactChars {depth : Nat} {v : Value} (h : v.Legible depth) :
    ofChars? v.compactChars = some (ofValue v) := by
  have hskip := Parser.skip_compactChars h []
  have hread := Parser.value_compactChars depth v h (2 * v.compactChars.length + 2) (by omega) []
    Parser.endsNumber_nil
  rw [List.append_nil] at hskip hread
  rw [ofChars?, hskip, hread]
  rfl

/-- A value written without blanks is read as its tree. -/
theorem ofBytes?_compact {depth : Nat} {v : Value} (h : v.Legible depth) :
    ofBytes? (Bytes.ofText v.compact) = some (ofValue v) := by
  rw [ofBytes?, Parser.chars?_ofText, Value.compact, String.toList_ofList, Option.bind_some,
    ofChars?_compactChars h]

mutual

theorem toValueWithin?_ofValue (depth : Nat) (v : Value) (h : v.Legible depth) :
    toValueWithin? depth (ofValue v) = some v.sorted := by
  cases v with
  | null => rfl
  | bool b => rfl
  | number n => rfl
  | string s => rfl
  | array items =>
    cases depth with
    | zero => exact absurd h id
    | succ depth =>
      rw [ofValue, toValueWithin?, itemsWithin?_ofItems depth items h]
      rfl
  | object fields =>
    cases depth with
    | zero => exact absurd h id
    | succ depth =>
      rw [ofValue, toValueWithin?, fieldsWithin?_ofFields depth fields h]
      rfl
termination_by structural v

theorem itemsWithin?_ofItems (depth : Nat) (items : List Value)
    (h : Value.LegibleItems depth items) :
    itemsWithin? depth (ofItems items) = some (Value.sortedItems items) := by
  match items with
  | [] => rfl
  | v :: items =>
    have hvalue := toValueWithin?_ofValue depth v h.1
    have hmore := itemsWithin?_ofItems depth items h.2
    simp only [ofItems, itemsWithin?, hvalue, hmore]
    rfl
termination_by structural items

theorem fieldsWithin?_ofFields (depth : Nat) (fields : List (String × Value))
    (h : Value.LegibleFields depth fields) :
    fieldsWithin? depth (ofFields fields) = some (Value.sortedFields fields) := by
  match fields with
  | [] => rfl
  | (name, v) :: fields =>
    have hvalue := toValueWithin?_ofValue depth v h.1
    have hmore := fieldsWithin?_ofFields depth fields h.2
    simp only [ofFields, fieldsWithin?, hvalue, hmore]
    rfl
termination_by structural fields

end

end Tree

/-- A written value is read back as itself, its fields in order. -/
theorem Value.ofBytes?_compact {v : Value} (h : v.Legible Tree.maxDepth) :
    Value.ofBytes? (Bytes.ofText v.compact) = some v.sorted := by
  rw [Value.ofBytes?, Tree.ofBytes?_compact h, Option.bind_some]
  exact Tree.toValueWithin?_ofValue Tree.maxDepth v h

end Validium.Json
