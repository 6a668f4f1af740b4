import Validium.Proofs.DataLayer.OffChain
import Validium.Proofs.Server.Decision
import Validium.Proofs.Server.Exchange

/-!
The answers to requests. A body that is an object is answered by its fields, and so is an array of
up to four items whose first ones have the types of a version and a method. Whatever else is read is
refused, and what is not read is an error of its own; the data layer is asked in none of these
cases, and never for more than the one hash of a request.
-/
namespace Validium.Server

open Json

variable {W : Type}

def respond (layer : DataLayer W) (id : Value) : Except Error Hash → StateM W Response
  | .error e => pure ⟨.error e, id⟩
  | .ok hash => (fun found => ⟨told found, id⟩) <$> (layer.offChainData .never hash).run

theorem answer_eq (layer : DataLayer W) (r : Request) :
    answer layer r = respond layer r.id r.verdict := by
  have hcall : answer.call layer r = respond layer r.id (Request.verdict.parsed r) := by
    rw [answer.call, Request.verdict.parsed]
    cases Call.parse r.method r.params with
    | error e => rfl
    | ok c =>
      cases c with
      | offChainData hash =>
        simp only [execute_eq, bind_pure_comp, Functor.map_map]
        rfl
  rw [answer, Request.verdict, hcall]
  cases r.version with
  | none => rfl
  | some version =>
    dsimp only
    split_ifs <;> rfl

section Sent

def Errs (sent : Value) (code : Int) : Prop :=
  ∃ e, sent.field? "error" = some e ∧ e.field? "code" = some (.number (.int code))

variable (r : Response)

theorem Response.id_toJson : r.toJson.field? "id" = some r.id := by
  obtain ⟨outcome, id⟩ := r
  cases outcome <;> rfl

theorem Response.errs_error (e : Error) (id : Value) (code : Int) :
    Errs (Response.toJson ⟨.error e, id⟩) code ↔ e.code = code := by
  constructor
  · rintro ⟨found, h, hcode⟩
    cases h
    cases hcode
    rfl
  · rintro rfl
    exact ⟨_, rfl, rfl⟩

/-- There is a result or an error, and not both. -/
theorem Response.result_or_error :
    (r.toJson.field? "result").isSome ↔ r.toJson.field? "error" = none := by
  obtain ⟨outcome, id⟩ := r
  cases outcome with
  | ok v => exact iff_of_true rfl rfl
  | error e => exact iff_of_false nofun nofun

theorem errs_told (found : Except DataLayer.Error Bytes) (id : Value) (code : Int) :
    Errs (Response.toJson ⟨told found, id⟩) code ↔ code = -32000 ∧ ∃ e, found = .error e := by
  cases found with
  | ok data =>
    refine iff_of_false ?_ ?_
    · rintro ⟨e, h, -⟩
      cases h
    · rintro ⟨-, e, h⟩
      cases h
  | error e =>
    have htold : told (.error e) = .error (.lookup e) := rfl
    rw [htold, Response.errs_error, Error.code, eq_comm]
    exact (and_iff_left ⟨e, rfl⟩).symm

/-- A result is the hexadecimal text of data that was found. -/
theorem result_told (found : Except DataLayer.Error Bytes) (id v : Value) :
    (Response.toJson ⟨told found, id⟩).field? "result" = some v ↔
      ∃ data, found = .ok data ∧ v = .string ("0x" ++ Hex.encode data) := by
  cases found with
  | error e =>
    refine iff_of_false nofun ?_
    rintro ⟨data, h, -⟩
    cases h
  | ok data =>
    simp only [← Hex.encode0x_eq]
    constructor
    · intro h
      cases h
      exact ⟨data, rfl, rfl⟩
    · rintro ⟨other, h, rfl⟩
      cases h
      rfl

end Sent

/-- What is sent back for a request with these fields, and the world that is left: the version,
the id of the request, and either the data or the first error there is. -/
structure Answered (layer : DataLayer W) (o : Value) (w : W) (sent : Value) (w' : W) : Prop where
  version : sent.field? "jsonrpc" = some (.string "2.0")
  id : sent.field? "id" = some ((o.field? "id").getD .null)
  one : (sent.field? "result").isSome ↔ sent.field? "error" = none
  invalidRequest : Errs sent (-32600) ↔ ¬ WellFormed o
  methodNotFound : Errs sent (-32601) ↔ WellFormed o ∧ ¬ Known o
  invalidParams : Errs sent (-32602) ↔ WellFormed o ∧ Known o ∧ ∀ hash, ¬ Asks o hash
  failed : Errs sent (-32000) ↔ WellFormed o ∧ ∃ hash e, Asks o hash ∧
    ((layer.offChainData .never hash).run w).1 = .error e
  found : ∀ v, sent.field? "result" = some v ↔ WellFormed o ∧ ∃ hash data, Asks o hash ∧
    ((layer.offChainData .never hash).run w).1 = .ok data ∧ v = .string ("0x" ++ Hex.encode data)
  world : ∀ hash, WellFormed o → Asks o hash → w' = ((layer.offChainData .never hash).run w).2

section Answers

variable (layer : DataLayer W) {o : Value} (w : W)

/-- A refusal asks the layer for nothing. -/
theorem answered_refused (e : Error) (hinvalid : e.code = -32600 ↔ ¬ WellFormed o)
    (hmethod : e.code = -32601 ↔ WellFormed o ∧ ¬ Known o)
    (hparams : e.code = -32602 ↔ WellFormed o ∧ Known o ∧ ∀ hash, ¬ Asks o hash)
    (hlookup : e.code ≠ -32000) (hnone : ∀ hash, WellFormed o → ¬ Asks o hash) :
    Answered layer o w (Response.toJson ⟨.error e, idOf o⟩) w where
  version := rfl
  id := rfl
  one := Response.result_or_error _
  invalidRequest := (Response.errs_error e _ _).trans hinvalid
  methodNotFound := (Response.errs_error e _ _).trans hmethod
  invalidParams := (Response.errs_error e _ _).trans hparams
  failed := by
    rw [Response.errs_error]
    refine iff_of_false hlookup ?_
    rintro ⟨h, hash, -, hasks, -⟩
    exact hnone hash h hasks
  found := by
    intro v
    refine iff_of_false nofun ?_
    rintro ⟨h, hash, -, hasks, -⟩
    exact hnone hash h hasks
  world := fun hash h hasks => absurd hasks (hnone hash h)

/-- A request for a hash is answered with what the layer tells. -/
theorem answered_asked (h : WellFormed o) {hash : Hash} (hasks : Asks o hash) :
    Answered layer o w
      (Response.toJson ⟨told ((layer.offChainData .never hash).run w).1, idOf o⟩)
      ((layer.offChainData .never hash).run w).2 where
  version := rfl
  id := Response.id_toJson _
  one := Response.result_or_error _
  invalidRequest := by
    rw [errs_told]
    exact iff_of_false (fun herrs => absurd herrs.1 (by decide)) (not_not_intro h)
  methodNotFound := by
    rw [errs_told]
    exact iff_of_false (fun herrs => absurd herrs.1 (by decide)) fun hunknown =>
      hunknown.2 hasks.known
  invalidParams := by
    rw [errs_told]
    exact iff_of_false (fun herrs => absurd herrs.1 (by decide)) fun hmistaken =>
      hmistaken.2.2 hash hasks
  failed := by
    rw [errs_told]
    constructor
    · rintro ⟨-, e, he⟩
      exact ⟨h, hash, e, hasks, he⟩
    · rintro ⟨-, other, e, hother, he⟩
      cases hasks.unique hother
      exact ⟨rfl, e, he⟩
  found := by
    intro v
    rw [result_told]
    constructor
    · rintro ⟨data, hdata, hv⟩
      exact ⟨h, hash, data, hasks, hdata, hv⟩
    · rintro ⟨-, other, data, hother, hdata, hv⟩
      cases hasks.unique hother
      exact ⟨data, hdata, hv⟩
  world := fun other _ hother => by rw [hasks.unique hother]

theorem respond_answered (o : Value) :
    Answered layer o w (respond layer (idOf o) (decided o) w).1.toJson
      (respond layer (idOf o) (decided o) w).2 := by
  have hdecides := decides o
  generalize decided o = d at hdecides ⊢
  cases hdecides with
  | malformed h d =>
    exact answered_refused layer w (.invalidRequest d) (by simp [Error.code, h])
      (by simp [Error.code, h]) (by simp [Error.code, h]) (by simp [Error.code])
      fun _ hwell => absurd hwell h
  | unknown h hmethod m =>
    exact answered_refused layer w (.methodNotFound m) (by simp [Error.code, h])
      (by simp [Error.code, h, hmethod]) (by simp [Error.code, h, hmethod]) (by simp [Error.code])
      fun _ _ hasks => hmethod hasks.known
  | mistaken h hmethod hparams reason =>
    exact answered_refused layer w (.invalidParams reason) (by simp [Error.code, h])
      (by simp [Error.code, h, hmethod]) (by simp [Error.code, h, hmethod, hparams])
      (by simp [Error.code]) fun hash _ => hparams hash
  | asks h hash hasks => exact answered_asked layer w h hasks

end Answers

section Bodies

variable {body : Bytes}

theorem handle_of_request (layer : DataLayer W) {v : Value} (hread : Value.ofBytes? body = some v)
    {r : Request} (hrequest : Request.ofValue? v = some r) :
    handle layer body = respond layer r.id r.verdict := by
  rw [handle, hread]
  dsimp only
  rw [hrequest]
  exact answer_eq layer r

theorem handle_of_no_request (layer : DataLayer W) {v : Value}
    (hread : Value.ofBytes? body = some v) (hrequest : Request.ofValue? v = none) :
    handle layer body = pure ⟨.error (.invalidRequest .notARequest), idOf v⟩ := by
  rw [handle, hread]
  dsimp only
  rw [hrequest]

theorem Request.id_of_ofObject? {o : Value} {r : Request} (h : Request.ofObject? o = some r) :
    r.id = idOf o := by
  unfold Request.ofObject? at h
  obtain ⟨version, -, h⟩ := Option.bind_eq_some_iff.mp h
  obtain ⟨m, -, h⟩ := Option.bind_eq_some_iff.mp h
  cases h
  rfl

/-- A body that is an object is answered as the checks decide. -/
theorem handle_object (layer : DataLayer W) {fields : List (String × Value)}
    (hread : Value.ofBytes? body = some (.object fields)) :
    handle layer body = respond layer (idOf (.object fields)) (decided (.object fields)) := by
  have hrequest := Request.ofValue?_object (Value.orderly_of_ofBytes? hread)
  unfold decided
  cases hobject : Request.ofObject? (.object fields) with
  | none => exact handle_of_no_request layer hread (hrequest.trans hobject)
  | some r =>
    rw [← Request.id_of_ofObject? hobject]
    exact handle_of_request layer hread (hrequest.trans hobject)

/-- An array of at most four items that fit the fields is answered like the object that names them.
-/
theorem handle_array (layer : DataLayer W) {items : List Value}
    (hread : Value.ofBytes? body = some (.array items)) (hlength : items.length ≤ 4)
    (htyped : (Request.ofObject? (Request.named items)).isSome) :
    handle layer body =
      respond layer (idOf (Request.named items)) (decided (Request.named items)) := by
  have hrequest := Request.ofValue?_array (Value.orderly_of_ofBytes? hread)
  rw [if_pos hlength] at hrequest
  obtain ⟨r, hobject⟩ := Option.isSome_iff_exists.mp htyped
  rw [← Request.id_of_ofObject? hobject, decided, hobject]
  exact handle_of_request layer hread (hrequest.trans hobject)

end Bodies

def Unasked (W : Type) (body : Bytes) (r : Response) : Prop :=
  ∀ layer : DataLayer W, handle layer body = pure r

/-- A body is answered by these fields, and the data layer is asked only for a hash that they ask
for. -/
structure AnsweredBy (W : Type) (body : Bytes) (o : Value) : Prop where
  answered : ∀ (layer : DataLayer W) (w : W), Answered layer o w
    (handle layer body w).1.toJson (handle layer body w).2
  unasked : (∀ hash, WellFormed o → ¬ Asks o hash) → ∃ r, Unasked W body r

theorem answeredBy_of_respond {body : Bytes} {o : Value}
    (h : ∀ layer : DataLayer W, handle layer body = respond layer (idOf o) (decided o)) :
    AnsweredBy W body o where
  answered := by
    intro layer w
    rw [h]
    exact respond_answered layer w o
  unasked := by
    intro hnone
    have hdecides := decides o
    cases hdecided : decided o with
    | error e =>
      refine ⟨⟨.error e, idOf o⟩, fun layer => ?_⟩
      rw [h, hdecided]
      rfl
    | ok hash =>
      rw [hdecided] at hdecides
      cases hdecides with
      | asks hwell _ hasks => exact absurd hasks (hnone hash hwell)

/-- Every object is answered by its fields, and what is no text of a value is answered as such. -/
theorem handle_answers (body : Bytes) :
    (∀ fields, Value.ofBytes? body = some (.object fields) →
      AnsweredBy W body (.object fields)) ∧
    (Value.ofBytes? body = none → ∃ r, Unasked W body r ∧ Errs r.toJson (-32700) ∧
      r.toJson.field? "id" = some .null) := by
  constructor
  · intro fields hread
    exact answeredBy_of_respond fun layer => handle_object layer hread
  · intro hread
    refine ⟨⟨.error .parse, .null⟩, fun layer => ?_, ?_, rfl⟩
    · rw [handle, hread]
    · exact (Response.errs_error .parse .null _).mpr rfl

def shelf : DataLayer Unit :=
  { DataLayer.empty with
    archive := some ⟨{
      name := "memory"
      put := fun _ _ _ => pure (.returned (.ok ()))
      get := fun _ => pure (.returned (.ok [1, 2, 3]))
      health := pure (.ok ()) }, .standard⟩ }

theorem shelf_held : shelf.Held (keccak [1, 2, 3]) () [1, 2, 3] () := ⟨_, rfl, rfl, rfl⟩

def shelved : List (String × Value) := [
  ("id", .object [("of", .ofNat 7)]), ("jsonrpc", .string "2.0"),
  ("method", .string "sync_getOffChainData"),
  ("params", .array [.string (keccak [1, 2, 3]).text])]

def placed : List Value := [
  .string "2.0", .string "sync_getOffChainData", .array [.string (keccak [1, 2, 3]).text],
  .ofNat 7]

theorem ofBytes?_shelved : Value.ofBytes? (Bytes.ofText (Value.object shelved).compact) =
    some (.object shelved) := by
  have hid : (Value.ofNat 7).Legible (Tree.maxDepth - 2) := by
    constructor <;> decide
  have hlegible : (Value.object shelved).Legible Tree.maxDepth :=
    ⟨⟨hid, trivial⟩, trivial, trivial, ⟨trivial, trivial⟩, trivial⟩
  have hsorted : (Value.object shelved).sorted = Value.ofFields shelved := rfl
  rw [Value.ofBytes?_compact hlegible, hsorted, Value.ofFields_of_names (by decide)]

theorem ofBytes?_placed : Value.ofBytes? (Bytes.ofText (Value.array placed).compact) =
    some (.array placed) := by
  have hid : (Value.ofNat 7).Legible (Tree.maxDepth - 1) := by
    constructor <;> decide
  have hlegible : (Value.array placed).Legible Tree.maxDepth :=
    ⟨trivial, trivial, ⟨trivial, trivial⟩, hid, trivial⟩
  exact Value.ofBytes?_compact hlegible

/-- A request is answered with the data that it asks for, with its own id. -/
theorem handle_answers_shelf :
    let sent := (handle shelf (Bytes.ofText (Value.object shelved).compact) ()).1.toJson
    sent.field? "result" = some (.string "0x010203") ∧
      sent.field? "id" = some (.object [("of", .ofNat 7)]) ∧
    ∃ r, Unasked Unit [] r ∧ Errs r.toJson (-32700) := by
  intro sent
  obtain ⟨hobjects, -⟩ := handle_answers (W := Unit) (Bytes.ofText (Value.object shelved).compact)
  have hanswered := (hobjects shelved ofBytes?_shelved).answered shelf ()
  have hwell : WellFormed (.object shelved) := ⟨⟨_, rfl⟩, .inr (.inr rfl)⟩
  have hasks : Asks (.object shelved) (keccak [1, 2, 3]) :=
    (asks_iff rfl _).mpr ⟨_, rfl, Word.parse_text _⟩
  have hfound := shelf_held.offChainData_run Signal.quiet_never
  obtain ⟨r, hunasked, herrs, -⟩ := (handle_answers (W := Unit) []).2 rfl
  refine ⟨?_, hanswered.id, r, hunasked, herrs⟩
  exact (hanswered.found _).mpr ⟨hwell, _, _, hasks, congrArg Prod.fst hfound, rfl⟩

structure Typed (o : Value) : Prop where
  method : ∃ m, o.field? "method" = some (.string m)
  version : o.field? "jsonrpc" = none ∨ o.field? "jsonrpc" = some .null ∨
    ∃ version, o.field? "jsonrpc" = some (.string version)

theorem isSome_ofObject?_iff (o : Value) : (Request.ofObject? o).isSome ↔ Typed o := by
  constructor
  · intro h
    obtain ⟨r, hr⟩ := Option.isSome_iff_exists.mp h
    unfold Request.ofObject? at hr
    obtain ⟨version, hversion, hr⟩ := Option.bind_eq_some_iff.mp hr
    obtain ⟨m, hm, -⟩ := Option.bind_eq_some_iff.mp hr
    obtain ⟨v, hmethod, htext⟩ := Option.bind_eq_some_iff.mp hm
    rw [Value.text?_eq_some_iff] at htext
    subst htext
    refine ⟨⟨m, hmethod⟩, ?_⟩
    rcases hfield : o.field? "jsonrpc" with - | x
    · exact .inl rfl
    · rw [hfield] at hversion
      cases x with
      | null => exact .inr (.inl rfl)
      | string text => exact .inr (.inr ⟨text, rfl⟩)
      | _ => cases hversion
  · rintro ⟨⟨m, hmethod⟩, h | h | ⟨version, h⟩⟩ <;>
      simp [Request.ofObject?, Request.versionOf, Value.text?, hmethod, h]

theorem ofValue?_scalar {v : Value} (hobject : ∀ fields, v ≠ .object fields)
    (harray : ∀ items, v ≠ .array items) : Request.ofValue? v = none := by
  cases v with
  | object fields => exact absurd rfl (hobject fields)
  | array items => exact absurd rfl (harray items)
  | _ => rfl

/-- What is no object is refused without asking the data layer, except that an array of up to four
items is answered by the fields that stand at their places, once these have their types. -/
theorem handle_no_object {body : Bytes} {v : Value} (hread : Value.ofBytes? body = some v)
    (hno : ∀ fields, v ≠ .object fields) :
    (∀ items, v = .array items → items.length ≤ 4 → Typed (Request.named items) →
      AnsweredBy W body (Request.named items)) ∧
    ((∀ items, v = .array items → items.length ≤ 4 → ¬ Typed (Request.named items)) →
      ∃ r, Unasked W body r ∧ Errs r.toJson (-32600) ∧ r.toJson.field? "id" = some .null) := by
  constructor
  · rintro items rfl hlength htyped
    refine answeredBy_of_respond fun layer => handle_array layer hread hlength ?_
    exact (isSome_ofObject?_iff _).mpr htyped
  · intro huntyped
    have hrequest : Request.ofValue? v = none := by
      by_cases harray : ∃ items, v = .array items
      · obtain ⟨items, rfl⟩ := harray
        rw [Request.ofValue?_array (Value.orderly_of_ofBytes? hread)]
        split_ifs with hlength
        · rw [← Option.not_isSome_iff_eq_none, isSome_ofObject?_iff]
          exact huntyped items rfl hlength
        · rfl
      · exact ofValue?_scalar hno fun items h => harray ⟨items, h⟩
    have hid : idOf v = .null := by
      cases v with
      | object fields => exact absurd rfl (hno fields)
      | _ => rfl
    refine ⟨⟨.error (.invalidRequest .notARequest), .null⟩, fun layer => ?_, ?_, rfl⟩
    · rw [handle_of_no_request layer hread hrequest, hid]
    · exact (Response.errs_error _ _ _).mpr rfl

/-- An array can be a request for data, and a number cannot. -/
theorem handle_no_object_placed :
    (handle shelf (Bytes.ofText (Value.array placed).compact) ()).1.toJson.field? "result" =
        some (.string "0x010203") ∧
      ∃ r, Unasked Unit (Bytes.ofText (Value.ofNat 7).compact) r ∧ Errs r.toJson (-32600) := by
  have hanswered := ((handle_no_object (W := Unit) ofBytes?_placed nofun).1 placed rfl (by decide)
    ⟨⟨_, rfl⟩, .inr (.inr ⟨_, rfl⟩)⟩).answered shelf ()
  have hwell : WellFormed (Request.named placed) := ⟨⟨_, rfl⟩, .inr (.inr rfl)⟩
  have hasks : Asks (Request.named placed) (keccak [1, 2, 3]) :=
    (asks_iff rfl _).mpr ⟨_, rfl, Word.parse_text _⟩
  have hfound := shelf_held.offChainData_run Signal.quiet_never
  have hseven : (Value.ofNat 7).Legible Tree.maxDepth := by
    constructor <;> decide
  obtain ⟨r, hunasked, herrs, -⟩ := (handle_no_object (W := Unit)
    (Value.ofBytes?_compact hseven) nofun).2 nofun
  refine ⟨?_, r, hunasked, herrs⟩
  exact (hanswered.found _).mpr ⟨hwell, _, _, hasks, congrArg Prod.fst hfound, rfl⟩

/-- It is not so that whatever is no object is refused. -/
theorem not_always_refused : ¬ ∀ (body : Bytes) (v : Value), Value.ofBytes? body = some v →
    (∀ fields, v ≠ .object fields) → ∀ layer : DataLayer Unit,
      Errs (handle layer body ()).1.toJson (-32600) ∧
        (handle layer body ()).1.toJson.field? "id" = some .null := by
  intro hrefused
  obtain ⟨-, hid⟩ := hrefused _ _ ofBytes?_placed nofun DataLayer.empty
  have htyped : (Request.ofObject? (Request.named placed)).isSome := rfl
  have hanswered := respond_answered DataLayer.empty () (Request.named placed)
  rw [← handle_array DataLayer.empty ofBytes?_placed (by decide) htyped] at hanswered
  cases hanswered.id.symm.trans hid

end Validium.Server
