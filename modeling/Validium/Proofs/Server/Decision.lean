import Validium.Proofs.Json.Read
import Validium.Proofs.Text.Spelled
import Validium.Server.Handler

/-!
What the fields of a request decide. The first check that fails names the error, and only where none
fails is there a hash to ask the data layer for. The fields stand in an object, where they are found
by their names, or in an array, where they are found by their places.
-/
namespace Validium.Server

open Json

/-- A request has a method, which is a text, and its version is absent, null or 2.0. -/
structure WellFormed (o : Value) : Prop where
  method : ∃ m, o.field? "method" = some (.string m)
  version : o.field? "jsonrpc" = none ∨ o.field? "jsonrpc" = some .null ∨
    o.field? "jsonrpc" = some (.string "2.0")

def Known (o : Value) : Prop :=
  ∃ m ∈ Call.methods.map Prod.fst, o.field? "method" = some (.string m)

/-- The parameters of a request; absent ones and null are none. -/
inductive Passes (o : Value) : List Value → Prop
  | array (items : List Value) (h : o.field? "params" = some (.array items)) : Passes o items
  | null (h : o.field? "params" = some .null) : Passes o []
  | absent (h : o.field? "params" = none) : Passes o []

/-- The parameters are as many as the method takes, and the one is a text that spells the hash. -/
def Asks (o : Value) (hash : Hash) : Prop :=
  ∃ m arity items, o.field? "method" = some (.string m) ∧ Call.methods.lookup m = some arity ∧
    Passes o items ∧ items.length = arity ∧ ∃ text, items = [.string text] ∧ Word.Spelled text hash

namespace Request

def versionOf : Option Value → Option (Option String)
  | none => some none
  | some .null => some none
  | some (.string s) => some (some s)
  | some _ => none

def ofObject? (o : Value) : Option Request := do
  let version ← versionOf (o.field? "jsonrpc")
  let method ← (o.field? "method").bind Value.text?
  return ⟨version, method, (o.field? "params").getD .null, (o.field? "id").getD .null⟩

theorem nullable_text (v : Option Value) :
    Record.nullable Record.text (v.map Tree.ofValue) = versionOf v := by
  rcases v with - | v
  · rfl
  · cases v <;> rfl

theorem required_text (v : Option Value) :
    Record.required Record.text (v.map Tree.ofValue) = v.bind Value.text? := by
  rcases v with - | v
  · rfl
  · cases v <;> rfl

theorem anyValue_ofValue {v : Option Value} (h : ∀ x ∈ v, x.Orderly Tree.maxDepth) :
    anyValue (v.map Tree.ofValue) = some (v.getD .null) := by
  rcases v with - | v
  · rfl
  · exact Tree.toValueWithin?_of_orderly Tree.maxDepth v (h v rfl)

/-- Four trees read as the fields of a request. -/
theorem ofTree?_of_fields? {t : Tree} {version method params id : Option Value}
    (h : Record.fields? ["jsonrpc", "method", "params", "id"] t =
      some [version.map Tree.ofValue, method.map Tree.ofValue, params.map Tree.ofValue,
        id.map Tree.ofValue])
    (hparams : ∀ x ∈ params, x.Orderly Tree.maxDepth)
    (hid : ∀ x ∈ id, x.Orderly Tree.maxDepth) :
    ofTree? t = do
      let version ← versionOf version
      let method ← method.bind Value.text?
      return ⟨version, method, params.getD .null, id.getD .null⟩ := by
  simp only [ofTree?, h, nullable_text, required_text, anyValue_ofValue hparams,
    anyValue_ofValue hid]
  rfl

/-- An object is read by the names of its fields. -/
theorem ofValue?_object {fields : List (String × Value)}
    (h : (Value.object fields).Orderly Tree.maxDepth) :
    ofValue? (.object fields) = ofObject? (.object fields) := by
  obtain ⟨horder, hfields⟩ := h
  rw [Value.orderlyFields_iff] at hfields
  have hvalues : ∀ name, ∀ x ∈ (Value.object fields).field? name, x.Orderly Tree.maxDepth := by
    intro name x hx
    obtain ⟨f, hf, rfl⟩ := Option.map_eq_some_iff.mp hx
    exact (hfields f (List.mem_of_find?_eq_some hf)).mono (by decide)
  have hnamed : (Tree.ofFields fields).all (fun f => f.1.isSome) = true := by
    rw [Tree.ofFields_eq_map, List.all_map]
    exact List.all_eq_true.mpr fun _ _ => rfl
  rw [ofValue?, ofObject?]
  refine ofTree?_of_fields? ?_ (hvalues "params") (hvalues "id")
  rw [Tree.ofValue, Record.fields?, hnamed]
  simp only [if_true, List.mapM_cons, List.mapM_nil, Record.only?_ofFields _ horder]
  rfl

def named (items : List Value) : Value :=
  .object (["jsonrpc", "method", "params", "id"].zip items)

/-- An array is read by the places of its items. -/
theorem ofValue?_array {items : List Value} (h : (Value.array items).Orderly Tree.maxDepth) :
    ofValue? (.array items) = if items.length ≤ 4 then ofObject? (named items) else none := by
  have hitems : Value.OrderlyItems 126 items := h
  rw [Value.orderlyItems_iff] at hitems
  have hvalues : ∀ name, ∀ x ∈ (named items).field? name, x.Orderly Tree.maxDepth := by
    intro name x hx
    obtain ⟨f, hf, rfl⟩ := Option.map_eq_some_iff.mp hx
    have hmem : f.2 ∈ items := (List.of_mem_zip (List.mem_of_find?_eq_some hf)).2
    exact (hitems f.2 hmem).mono (by decide)
  rw [ofValue?, Tree.ofValue]
  by_cases hlength : items.length ≤ 4
  · rw [if_pos hlength, ofObject?]
    refine ofTree?_of_fields? ?_ (hvalues "params") (hvalues "id")
    match items, hlength with
    | [], _ => rfl
    | [_], _ => rfl
    | [_, _], _ => rfl
    | [_, _, _], _ => rfl
    | [_, _, _, _], _ => rfl
  · have hlong : ¬ (Tree.ofItems items).length ≤ 4 := by
      rw [Tree.ofItems_eq_map, List.length_map]
      exact hlength
    rw [if_neg hlength, ofTree?, Record.fields?]
    simp only [List.length_cons, List.length_nil, if_neg hlong]

def verdict (r : Request) : Except Error Hash :=
  match r.version with
  | some version =>
    if version ≠ "2.0" then .error (.invalidRequest (.unsupportedVersion version)) else parsed
  | none => parsed
where
  parsed : Except Error Hash := (Call.parse r.method r.params).map fun | .offChainData hash => hash

end Request

namespace Call

/-- The table has one method. -/
theorem lookup_methods {m : String} {arity : Nat} :
    methods.lookup m = some arity ↔ m = "sync_getOffChainData" ∧ arity = 1 := by
  rw [methods, List.lookup_cons]
  by_cases hm : m = "sync_getOffChainData"
  · subst hm
    simp [eq_comm]
  · have hne : (m == "sync_getOffChainData") = false := beq_false_of_ne hm
    simp [hne, hm]

variable {params : Value}

def Tells (params : Value) (hash : Hash) : Prop :=
  ∃ text, arguments params = .ok [.string text] ∧ Word.parse text = .ok hash

theorem not_tells {args : Except Error (List Value)} (hargs : arguments params = args)
    (h : ∀ text, args ≠ .ok [.string text]) (hash : Hash) : ¬ Tells params hash := by
  rintro ⟨text, htext, -⟩
  exact h text (hargs.symm.trans htext)

theorem Tells.unique {hash hash' : Hash} (h : Tells params hash) (h' : Tells params hash') :
    hash = hash' := by
  obtain ⟨text, hargs, hparse⟩ := h
  obtain ⟨text', hargs', hparse'⟩ := h'
  cases hargs.symm.trans hargs'
  exact Except.ok.inj (hparse.symm.trans hparse')

theorem exists_of_arguments_error {e : Error} (h : arguments params = .error e) :
    ∃ reason, e = .invalidParams reason := by
  cases params <;> cases h <;> exact ⟨_, rfl⟩

theorem exists_of_hashArgument_error {v : Value} {e : Error} (h : hashArgument v = .error e) :
    ∃ reason, e = .invalidParams reason := by
  cases v with
  | string text =>
    rw [hashArgument] at h
    cases hparse : Word.parse text <;> rw [hparse] at h <;> cases h
    exact ⟨_, rfl⟩
  | _ =>
    cases h
    exact ⟨_, rfl⟩

theorem hashArgument_eq_ok_iff (v : Value) (hash : Hash) :
    hashArgument v = .ok hash ↔ ∃ text, v = .string text ∧ Word.parse text = .ok hash := by
  cases v with
  | string text =>
    rw [hashArgument]
    cases hparse : Word.parse text <;> simp [Except.mapError, hparse]
  | _ => exact iff_of_false nofun nofun

/-- The method counts its parameters before it looks at the one there should be. -/
theorem exists_parse_eq (params : Value) : ∃ check : List Value → Except Error Call,
    parse "sync_getOffChainData" params = arguments params >>= check ∧
    (∀ items, items.length ≠ 1 → check items = .error (.invalidParams
      s!"sync_getOffChainData expects 1 parameter(s), got {items.length}")) ∧
    ∀ v, check [v] = (hashArgument v).map .offChainData := by
  refine ⟨_, rfl, ?_, ?_⟩
  · intro items hlength
    dsimp only
    rw [if_pos hlength]
    rfl
  · intro v
    show (do return Call.offChainData (← hashArgument v)) = _
    cases hashArgument v <;> rfl

inductive Parsed (m : String) (params : Value) : Except Error Call → Prop
  | unknown (hm : m ≠ "sync_getOffChainData") : Parsed m params (.error (.methodNotFound m))
  | mistaken (hm : m = "sync_getOffChainData") (h : ∀ hash, ¬ Tells params hash)
      (reason : String) : Parsed m params (.error (.invalidParams reason))
  | call (hm : m = "sync_getOffChainData") (hash : Hash) (h : Tells params hash) :
      Parsed m params (.ok (.offChainData hash))

theorem parsed (m : String) (params : Value) : Parsed m params (parse m params) := by
  by_cases hm : m = "sync_getOffChainData"
  · subst hm
    obtain ⟨check, hchecked, hcount, hone⟩ := exists_parse_eq params
    rw [hchecked]
    cases hargs : arguments params with
    | error e =>
      obtain ⟨reason, rfl⟩ := exists_of_arguments_error hargs
      exact .mistaken rfl (not_tells hargs nofun) reason
    | ok items =>
      show Parsed _ _ (check items)
      by_cases hlength : items.length = 1
      · obtain ⟨v, rfl⟩ := List.length_eq_one_iff.mp hlength
        rw [hone]
        cases hhash : hashArgument v with
        | error e =>
          obtain ⟨reason, rfl⟩ := exists_of_hashArgument_error hhash
          refine .mistaken rfl ?_ reason
          rintro hash ⟨text, htext, hparse⟩
          cases hargs.symm.trans htext
          cases hhash.symm.trans ((hashArgument_eq_ok_iff _ _).mpr ⟨text, rfl, hparse⟩)
        | ok hash =>
          obtain ⟨text, rfl, hparse⟩ := (hashArgument_eq_ok_iff _ _).mp hhash
          exact .call rfl hash ⟨text, hargs, hparse⟩
      · rw [hcount items hlength]
        refine .mistaken rfl (not_tells hargs ?_) _
        rintro text htext
        cases htext
        exact hlength rfl
  · have hlookup : methods.lookup m = none := by
      rw [Option.eq_none_iff_forall_ne_some]
      intro arity h
      exact hm (lookup_methods.mp h).1
    rw [parse, hlookup]
    exact .unknown hm

end Call

section Decision

variable (o : Value)

def decided : Except Error Hash :=
  match Request.ofObject? o with
  | none => .error (.invalidRequest .notARequest)
  | some r => r.verdict

/-- The first check that fails names the error. -/
inductive Decides : Except Error Hash → Prop
  | malformed (h : ¬ WellFormed o) (d : RequestDefect) : Decides (.error (.invalidRequest d))
  | unknown (h : WellFormed o) (hmethod : ¬ Known o) (m : String) :
      Decides (.error (.methodNotFound m))
  | mistaken (h : WellFormed o) (hmethod : Known o) (hparams : ∀ hash, ¬ Asks o hash)
      (reason : String) : Decides (.error (.invalidParams reason))
  | asks (h : WellFormed o) (hash : Hash) (hasks : Asks o hash) : Decides (.ok hash)

variable {o}

/-- The version may be missing or null. -/
theorem versionOf_eq_iff (v : Option Value) :
    (Request.versionOf v = some none ∨ Request.versionOf v = some (some "2.0")) ↔
      v = none ∨ v = some .null ∨ v = some (.string "2.0") := by
  rcases v with - | v
  · simp [Request.versionOf]
  · cases v <;> simp [Request.versionOf]

theorem known_iff {m : String} (hmethod : o.field? "method" = some (.string m)) :
    Known o ↔ m = "sync_getOffChainData" := by
  constructor
  · rintro ⟨m', hmem, hm'⟩
    cases hmethod.symm.trans hm'
    exact List.mem_singleton.mp hmem
  · intro h
    exact ⟨m, List.mem_singleton.mpr h, hmethod⟩

theorem arguments_eq_ok_iff (items : List Value) :
    Call.arguments ((o.field? "params").getD .null) = .ok items ↔ Passes o items := by
  constructor
  · intro h
    rcases hparams : o.field? "params" with - | v
    · rw [hparams] at h
      cases h
      exact .absent hparams
    · rw [hparams] at h
      cases v with
      | null =>
        cases h
        exact .null hparams
      | array values =>
        cases h
        exact .array _ hparams
      | _ => cases h
  · rintro (⟨_, h⟩ | h | h) <;> rw [h] <;> rfl

theorem asks_iff (hmethod : o.field? "method" = some (.string "sync_getOffChainData"))
    (hash : Hash) : Asks o hash ↔ Call.Tells ((o.field? "params").getD .null) hash := by
  constructor
  · rintro ⟨m, arity, items, -, -, hpasses, -, text, rfl, hspelled⟩
    exact ⟨text, (arguments_eq_ok_iff _).mpr hpasses, (Word.parse_eq_ok_iff text hash).mpr hspelled⟩
  · rintro ⟨text, hargs, hparse⟩
    exact ⟨_, 1, _, hmethod, rfl, (arguments_eq_ok_iff _).mp hargs, rfl, text, rfl,
      (Word.parse_eq_ok_iff text hash).mp hparse⟩

theorem Asks.method_eq {hash : Hash} (h : Asks o hash) :
    o.field? "method" = some (.string "sync_getOffChainData") := by
  obtain ⟨m, arity, items, hmethod, hlookup, -⟩ := h
  rw [← (Call.lookup_methods.mp hlookup).1]
  exact hmethod

theorem Asks.known {hash : Hash} (h : Asks o hash) : Known o :=
  (known_iff h.method_eq).mpr rfl

/-- A request asks for one hash at the most. -/
theorem Asks.unique {hash hash' : Hash} (h : Asks o hash) (h' : Asks o hash') : hash = hash' :=
  ((asks_iff h.method_eq hash).mp h).unique ((asks_iff h.method_eq hash').mp h')

/-- Of a well-formed request the method is checked first and then the parameters. -/
theorem parse_decides (h : WellFormed o) {m : String}
    (hmethod : o.field? "method" = some (.string m)) :
    Decides o ((Call.parse m ((o.field? "params").getD .null)).map fun
      | .offChainData hash => hash) := by
  have hparsed := Call.parsed m ((o.field? "params").getD .null)
  generalize Call.parse m ((o.field? "params").getD .null) = call at hparsed ⊢
  cases hparsed with
  | unknown hm => exact .unknown h (fun hknown => hm ((known_iff hmethod).mp hknown)) m
  | mistaken hm hnone reason =>
    subst hm
    exact .mistaken h ((known_iff hmethod).mpr rfl)
      (fun hash hasks => hnone hash ((asks_iff hmethod hash).mp hasks)) reason
  | call hm hash htells =>
    subst hm
    exact .asks h hash ((asks_iff hmethod hash).mpr htells)

theorem decides (o : Value) : Decides o (decided o) := by
  have hchecked := versionOf_eq_iff (o.field? "jsonrpc")
  unfold decided Request.ofObject?
  cases hversion : Request.versionOf (o.field? "jsonrpc") with
  | none =>
    refine .malformed (fun h => ?_) _
    rcases hchecked.mpr h.version with hv | hv <;> cases hversion.symm.trans hv
  | some version =>
    rw [hversion] at hchecked
    cases hm : (o.field? "method").bind Value.text? with
    | none =>
      refine .malformed (fun h => ?_) _
      obtain ⟨m, hmethod⟩ := h.method
      rw [hmethod] at hm
      cases hm
    | some m =>
      obtain ⟨v, hmethod, htext⟩ := Option.bind_eq_some_iff.mp hm
      rw [Value.text?_eq_some_iff] at htext
      subst htext
      rcases version with - | version
      · have h : WellFormed o := ⟨⟨m, hmethod⟩, hchecked.mp (.inl rfl)⟩
        exact parse_decides h hmethod
      · by_cases hnumber : version = "2.0"
        · subst hnumber
          have h : WellFormed o := ⟨⟨m, hmethod⟩, hchecked.mp (.inr rfl)⟩
          exact parse_decides h hmethod
        · have h : ¬ WellFormed o := by
            intro h
            rcases hchecked.mpr h.version with hv | hv
            · cases hv
            · exact hnumber (Option.some.inj (Option.some.inj hv))
          have hverdict : ∀ params id, Request.verdict ⟨some version, m, params, id⟩ =
              .error (.invalidRequest (.unsupportedVersion version)) := fun _ _ => if_pos hnumber
          simp only [Option.bind_eq_bind, Option.bind_some, Option.pure_def, hverdict]
          exact .malformed h _

end Decision

end Validium.Server
