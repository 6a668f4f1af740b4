import Validium.Json.Parser
import Validium.Json.Record
import Validium.Proofs.Json.Fields

/-!
Values as they are read from texts. The fields of their objects are in increasing order of their
names, so that no name occurs twice, and arrays and objects stand inside each other only so deep.
A value of this kind comes back as it is when its tree is read again, and a record in it finds
under each name the field of that name.
-/
namespace Validium.Json

namespace Value

mutual

/-- Whether at most `depth` arrays and objects stand inside each other and all objects have their
fields in increasing order of the names. -/
def Orderly (depth : Nat) : Value → Prop
  | .array items =>
    match depth with
    | 0 => False
    | depth + 1 => OrderlyItems depth items
  | .object fields =>
    match depth with
    | 0 => False
    | depth + 1 => (fields.Pairwise fun f g => f.1 < g.1) ∧ OrderlyFields depth fields
  | _ => True

def OrderlyItems (depth : Nat) : List Value → Prop
  | [] => True
  | v :: r => v.Orderly depth ∧ OrderlyItems depth r

def OrderlyFields (depth : Nat) : List (String × Value) → Prop
  | [] => True
  | (_, v) :: r => v.Orderly depth ∧ OrderlyFields depth r

end

theorem orderlyItems_iff (depth : Nat) (items : List Value) :
    OrderlyItems depth items ↔ ∀ v ∈ items, v.Orderly depth := by
  induction items with
  | nil => simp [OrderlyItems]
  | cons v rest ih => simp [OrderlyItems, ih]

theorem orderlyFields_iff (depth : Nat) (fields : List (String × Value)) :
    OrderlyFields depth fields ↔ ∀ f ∈ fields, f.2.Orderly depth := by
  induction fields with
  | nil => simp [OrderlyFields]
  | cons f rest ih => simp [OrderlyFields, ih]

/-- Deeper values are allowed where values of this depth are. -/
theorem Orderly.mono {v : Value} {depth depth' : Nat} (h : v.Orderly depth)
    (hle : depth ≤ depth') : v.Orderly depth' := by
  induction depth generalizing v depth' with
  | zero =>
    cases v with
    | array items => exact absurd h id
    | object fields => exact absurd h id
    | _ => trivial
  | succ depth ih =>
    obtain ⟨depth', rfl⟩ : ∃ d, depth' = d + 1 := ⟨depth' - 1, by omega⟩
    cases v with
    | array items =>
      have hitems : OrderlyItems depth items := h
      rw [orderlyItems_iff] at hitems
      exact (orderlyItems_iff depth' items).mpr fun v hv => ih (hitems v hv) (by omega)
    | object fields =>
      have hfields : OrderlyFields depth fields := h.2
      rw [orderlyFields_iff] at hfields
      exact ⟨h.1, (orderlyFields_iff depth' fields).mpr fun f hf => ih (hfields f hf) (by omega)⟩
    | _ => trivial

section Insertion

variable {name : String} {v : Value} {fields : List (String × Value)}

theorem eq_or_mem_of_mem_insertField {f : String × Value} (h : f ∈ insertField name v fields) :
    f = (name, v) ∨ f ∈ fields := by
  induction fields with
  | nil => exact .inl (List.mem_singleton.mp h)
  | cons g rest ih =>
    rw [insertField] at h
    split_ifs at h with heq hlt
    · rcases List.mem_cons.mp h with hf | hf
      · exact .inl hf
      · exact .inr (List.mem_cons_of_mem g hf)
    · rcases List.mem_cons.mp h with hf | hf
      · exact .inl hf
      · exact .inr hf
    · rcases List.mem_cons.mp h with hf | hf
      · exact .inr (hf ▸ List.mem_cons_self)
      · exact (ih hf).imp_right (List.mem_cons_of_mem g)

theorem pairwise_insertField (h : fields.Pairwise fun f g => f.1 < g.1) :
    (insertField name v fields).Pairwise fun f g => f.1 < g.1 := by
  induction fields with
  | nil => exact List.pairwise_singleton _ _
  | cons g rest ih =>
    obtain ⟨hfirst, hrest⟩ := List.pairwise_cons.mp h
    rw [insertField]
    split_ifs with heq hlt
    · exact List.pairwise_cons.mpr ⟨fun f hf => heq ▸ hfirst f hf, hrest⟩
    · refine List.pairwise_cons.mpr ⟨?_, h⟩
      intro f hf
      rcases List.mem_cons.mp hf with hg | hf
      · exact hg ▸ hlt
      · exact hlt.trans (hfirst f hf)
    · refine List.pairwise_cons.mpr ⟨?_, ih hrest⟩
      intro f hf
      rcases eq_or_mem_of_mem_insertField hf with hname | hf
      · exact hname ▸ lt_of_le_of_ne (le_of_not_gt hlt) (Ne.symm heq)
      · exact hfirst f hf

end Insertion

/-- Fields in any order make an object in order. -/
theorem orderly_ofFields {depth : Nat} {fields : List (String × Value)}
    (h : OrderlyFields depth fields) : (ofFields fields).Orderly (depth + 1) := by
  have hall : ∀ acc : List (String × Value), acc.Pairwise (fun f g => f.1 < g.1) →
      (∀ f ∈ acc, f.2.Orderly depth) →
      (fields.foldl (fun acc f => insertField f.1 f.2 acc) acc).Pairwise (fun f g => f.1 < g.1) ∧
        ∀ f ∈ fields.foldl (fun acc f => insertField f.1 f.2 acc) acc, f.2.Orderly depth := by
    induction fields with
    | nil => exact fun acc hacc hvalues => ⟨hacc, hvalues⟩
    | cons f rest ih =>
      intro acc hacc hvalues
      refine ih h.2 _ (pairwise_insertField hacc) ?_
      intro g hg
      rcases eq_or_mem_of_mem_insertField hg with hnew | hold
      · exact hnew ▸ h.1
      · exact hvalues g hold
  obtain ⟨horder, hvalues⟩ := hall [] .nil nofun
  exact ⟨horder, (orderlyFields_iff _ _).mpr hvalues⟩

end Value

namespace Tree

open Value

mutual

theorem orderly_of_toValueWithin? (depth : Nat) (t : Tree) (v : Value)
    (h : toValueWithin? depth t = some v) : v.Orderly depth := by
  match t with
  | .null =>
    cases h
    trivial
  | .bool b =>
    cases h
    trivial
  | .number n =>
    obtain ⟨m, -, rfl⟩ := Option.map_eq_some_iff.mp h
    trivial
  | .string s =>
    obtain ⟨text, -, rfl⟩ := Option.map_eq_some_iff.mp h
    trivial
  | .array items =>
    cases depth with
    | zero => cases h
    | succ depth =>
      obtain ⟨values, hvalues, rfl⟩ := Option.map_eq_some_iff.mp h
      exact orderlyItems_of_itemsWithin? depth items values hvalues
  | .object fields =>
    cases depth with
    | zero => cases h
    | succ depth =>
      obtain ⟨values, hvalues, rfl⟩ := Option.map_eq_some_iff.mp h
      exact orderly_ofFields (orderlyFields_of_fieldsWithin? depth fields values hvalues)
termination_by structural t

theorem orderlyItems_of_itemsWithin? (depth : Nat) (items : List Tree) (values : List Value)
    (h : itemsWithin? depth items = some values) : OrderlyItems depth values := by
  match items with
  | [] =>
    cases h
    trivial
  | t :: rest =>
    rw [itemsWithin?] at h
    split at h
    · rename_i v vs hv hvs
      cases h
      exact ⟨orderly_of_toValueWithin? depth t v hv, orderlyItems_of_itemsWithin? depth rest vs hvs⟩
    · cases h
termination_by structural items

theorem orderlyFields_of_fieldsWithin? (depth : Nat) (fields : List (Option String × Tree))
    (values : List (String × Value)) (h : fieldsWithin? depth fields = some values) :
    OrderlyFields depth values := by
  match fields with
  | [] =>
    cases h
    trivial
  | (name, t) :: rest =>
    unfold fieldsWithin? at h
    split at h
    · rename_i n v vs hv hvs
      cases h
      exact ⟨orderly_of_toValueWithin? depth t v hv,
        orderlyFields_of_fieldsWithin? depth rest vs hvs⟩
    · cases h
termination_by structural fields

end

mutual

theorem toValueWithin?_of_orderly (depth : Nat) (v : Value) (h : v.Orderly depth) :
    toValueWithin? depth (ofValue v) = some v := by
  match v with
  | .null => rfl
  | .bool b => rfl
  | .number n => rfl
  | .string s => rfl
  | .array items =>
    cases depth with
    | zero => exact absurd h id
    | succ depth =>
      rw [ofValue, toValueWithin?, itemsWithin?_of_orderly depth items h]
      rfl
  | .object fields =>
    cases depth with
    | zero => exact absurd h id
    | succ depth =>
      rw [ofValue, toValueWithin?, fieldsWithin?_of_orderly depth fields h.2, Option.map_some,
        ofFields_of_pairwise h.1]
termination_by structural v

theorem itemsWithin?_of_orderly (depth : Nat) (items : List Value)
    (h : OrderlyItems depth items) : itemsWithin? depth (ofItems items) = some items := by
  match items with
  | [] => rfl
  | v :: rest =>
    simp only [ofItems, itemsWithin?, toValueWithin?_of_orderly depth v h.1,
      itemsWithin?_of_orderly depth rest h.2]
termination_by structural items

theorem fieldsWithin?_of_orderly (depth : Nat) (fields : List (String × Value))
    (h : OrderlyFields depth fields) : fieldsWithin? depth (ofFields fields) = some fields := by
  match fields with
  | [] => rfl
  | (name, v) :: rest =>
    simp only [ofFields, fieldsWithin?, toValueWithin?_of_orderly depth v h.1,
      fieldsWithin?_of_orderly depth rest h.2]
termination_by structural fields

end

theorem ofItems_eq_map (items : List Value) : ofItems items = items.map ofValue := by
  induction items with
  | nil => rfl
  | cons v rest ih => rw [ofItems, ih, List.map_cons]

theorem ofFields_eq_map (fields : List (String × Value)) :
    ofFields fields = fields.map fun f => (some f.1, ofValue f.2) := by
  induction fields with
  | nil => rfl
  | cons f rest ih => rw [ofFields, ih, List.map_cons]

end Tree

namespace Value

theorem text?_eq_some_iff {v : Value} {s : String} : v.text? = some s ↔ v = .string s := by
  cases v <;> simp [text?]

theorem orderly_of_ofBytes? {body : Bytes} {v : Value} (h : ofBytes? body = some v) :
    v.Orderly Tree.maxDepth := by
  obtain ⟨t, -, ht⟩ := Option.bind_eq_some_iff.mp h
  exact Tree.orderly_of_toValueWithin? Tree.maxDepth t v ht

end Value

namespace Record

/-- Among fields in order there is at most one of each name. -/
theorem only?_ofFields (name : String) {fields : List (String × Value)}
    (h : fields.Pairwise fun f g => f.1 < g.1) :
    only? name (Tree.ofFields fields) =
      some (((Value.object fields).field? name).map Tree.ofValue) := by
  have hfilter : (Tree.ofFields fields).filter (fun f => f.1 == some name) =
      ((fields.find? (·.1 == name)).map fun f => (some f.1, Tree.ofValue f.2)).toList := by
    rw [Tree.ofFields_eq_map, List.filter_map]
    induction fields with
    | nil => rfl
    | cons f rest ih =>
      obtain ⟨hfirst, hrest⟩ := List.pairwise_cons.mp h
      by_cases hname : f.1 = name
      · have hothers : rest.filter ((fun f => f.1 == some name) ∘
            fun f => (some f.1, Tree.ofValue f.2)) = [] := by
          rw [List.filter_eq_nil_iff]
          intro g hg
          have hlt := hfirst g hg
          simp only [Function.comp_apply, beq_iff_eq, Option.some.injEq]
          exact fun heq => absurd (hname.trans heq.symm) hlt.ne
        simp [hname, hothers]
      · simp [hname, ih hrest]
  rw [only?, hfilter, Value.field?]
  cases fields.find? (·.1 == name) with
  | none => rfl
  | some f => rfl

end Record

end Validium.Json
