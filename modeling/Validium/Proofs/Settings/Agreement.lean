import Validium.Proofs.Json.Objects
import Validium.Proofs.Json.Written
import Validium.Proofs.Settings.Variables

/-!
Settings written in either form. Each setting has a variable and a place in an object, and settings
in which every feature in use has what it needs are read back from both. Whatever is read from
either form is in this sense complete.
-/
namespace Validium.Settings

open Json (Tree)
open Json.Record (Stands only? only?_eq_some_iff text flag unsigned unsigned_eq_some_iff
  fields?_object_iff named_ofFields)
open Text (isBlank)

/-! ### Settings in variables -/

def flagText (b : Bool) : String := if b then "true" else "false"

def numberText (n : Nat) : String := String.ofList (Nat.toDigits 10 n)

/-- The text of each variable, empty for a setting that is absent. -/
def environment (s : Settings) : List (String × String) := [
  ("DA_BRIDGE_ENABLED", flagText s.proofs.enabled),
  ("DA_BRIDGE_API_URL", s.proofs.apiUrl),
  ("DA_BRIDGE_RETRY_COUNT", numberText s.proofs.retryCount.toNat),
  ("DA_BRIDGE_WAIT_SECS", numberText s.proofs.waitSeconds.toNat),
  ("DA_L1_RPC_URL", s.rpcUrl.getD ""),
  ("DA_ATTESTATION_CONTRACT", s.contract.getD ""),
  ("DA_S3_ENABLED", flagText s.bucketEnabled),
  ("DA_S3_BUCKET", s.bucket.bucket),
  ("DA_S3_REGION", s.bucket.region),
  ("DA_S3_ACCESS_KEY", s.bucket.accessKey.getD ""),
  ("DA_S3_SECRET_KEY", s.bucket.secretKey.getD ""),
  ("DA_FS_STORE_DIR", s.directory.getD ""),
  ("DA_S3_OBJECT_PREFIX", s.store.keyHead),
  ("DA_S3_CONCURRENCY", numberText s.store.concurrency.toNat),
  ("DA_S3_DISCARD_AFTER_TIMEOUT", flagText s.store.discardAfterTimeout)]

/-- No text but the head of object keys is blank; those that can be empty may be. -/
structure Proper (s : Settings) : Prop where
  apiUrl : s.proofs.apiUrl ≠ "" → isBlank s.proofs.apiUrl = false
  rpcUrl : ∀ url ∈ s.rpcUrl, isBlank url = false
  contract : ∀ address ∈ s.contract, isBlank address = false
  bucket : s.bucket.bucket ≠ "" → isBlank s.bucket.bucket = false
  region : s.bucket.region ≠ "" → isBlank s.bucket.region = false
  accessKey : ∀ key ∈ s.bucket.accessKey, isBlank key = false
  secretKey : ∀ key ∈ s.bucket.secretKey, isBlank key = false
  directory : ∀ path ∈ s.directory, isBlank path = false

section Variables

variable {lookup : String → Option String} {name : String}

theorem setTo_of_getD {raw : String} (h : (lookup name).getD "" = raw)
    (hblank : isBlank raw = false) : SetTo lookup name raw := by
  cases hraw : lookup name with
  | none =>
    rw [hraw] at h
    rw [← h] at hblank
    cases hblank
  | some v =>
    rw [hraw] at h
    exact ⟨hraw.trans (congrArg some h), hblank⟩

theorem unset_of_getD (h : (lookup name).getD "" = "") : Unset lookup name := by
  intro raw hraw
  rw [hraw] at h
  rw [show raw = "" from h]
  rfl

/-- An optional text is present as itself. -/
theorem present_optional {o : Option String} (h : (lookup name).getD "" = o.getD "")
    (hproper : ∀ v ∈ o, isBlank v = false) : present lookup name = o := by
  cases o with
  | none => exact present_eq_none_iff.mpr (unset_of_getD h)
  | some v => exact (present_eq_some_iff v).mpr (setTo_of_getD h (hproper v rfl))

theorem present_plain {v : String} (h : (lookup name).getD "" = v)
    (hproper : v ≠ "" → isBlank v = false) : (present lookup name).getD "" = v := by
  by_cases hempty : v = ""
  · rw [present_eq_none_iff.mpr (unset_of_getD (h.trans hempty)), hempty]
    rfl
  · rw [(present_eq_some_iff v).mpr (setTo_of_getD h (hproper hempty))]
    rfl

theorem readVariable_flagText {b otherwise : Bool} (h : (lookup name).getD "" = flagText b) :
    readVariable lookup name readFlag otherwise = .ok b := by
  have hblank : isBlank (flagText b) = false := by cases b <;> decide
  have hread : readFlag (Text.trim (flagText b)) = .ok b := by cases b <;> decide
  rw [readVariable_of_setTo (setTo_of_getD h hblank), hread]
  rfl

/-- Digits stay what they are when blanks are taken off. -/
theorem trim_numberText (n : Nat) : Text.trim (numberText n) = numberText n := by
  have hdigits : ∀ c ∈ Nat.toDigits 10 n, Text.isBlankChar c = false := by
    intro c hc
    obtain ⟨d, hd⟩ := (Text.denotes_toDigits n).exists_isDigit c hc
    exact hd.not_blank
  rw [Text.trim, numberText, String.toList_ofList, Text.strip_eq_self hdigits]

theorem not_blank_numberText (n : Nat) : isBlank (numberText n) = false := by
  obtain ⟨c, cs, hcs⟩ := List.exists_cons_of_ne_nil (Nat.toDigits_ne_nil (n := n) (b := 10))
  obtain ⟨d, hd⟩ := (Text.denotes_toDigits n).exists_isDigit c (hcs ▸ List.mem_cons_self)
  rw [isBlank, numberText, String.toList_ofList, hcs, List.all_cons, hd.not_blank]
  rfl

theorem readVariable_numberText {n width otherwise : Nat}
    (h : (lookup name).getD "" = numberText n) (hn : n < 2 ^ width) :
    readVariable lookup name (readNumber width) otherwise = .ok n := by
  have hnumeral : Text.IsNumeral 10 (numberText n).toList n := by
    rw [numberText, String.toList_ofList]
    exact ⟨_, Nat.toDigits_ne_nil, .inl rfl, Text.denotes_toDigits n⟩
  have hread := (readNumber_eq_ok_iff width (numberText n) n).mpr ⟨hnumeral, hn⟩
  rw [readVariable_of_setTo (setTo_of_getD h (not_blank_numberText n)), trim_numberText, hread]
  rfl

theorem validated_eq_ok_iff (s t : Settings) :
    s.validated = .ok t ↔ s = t ∧ s.validate = .ok () := by
  rw [validated]
  cases s.validate with
  | error e => exact iff_of_false nofun fun h => nomatch h.2
  | ok => exact ⟨fun h => ⟨Except.ok.inj h, rfl⟩, fun h => congrArg Except.ok h.1⟩

/-- Settings are read back from variables that spell them. -/
theorem ofLookup_of_environment {s : Settings} (hvalid : s.validate = .ok ()) (hproper : s.Proper)
    (h : ∀ v ∈ s.environment, (lookup v.1).getD "" = v.2) : ofLookup lookup = .ok s := by
  simp only [environment, List.forall_mem_cons] at h
  obtain ⟨henabled, hapi, hretry, hwait, hrpc, hcontract, hbucketEnabled, hbucket, hregion, haccess,
    hsecret, hdirectory, hhead, hconcurrency, hdiscard, -⟩ := h
  have hread : ofLookup lookup = s.validated := by
    rw [ofLookup, readVariable_flagText henabled,
      readVariable_numberText hretry s.proofs.retryCount.toNat_lt,
      readVariable_numberText hwait s.proofs.waitSeconds.toNat_lt,
      readVariable_flagText hbucketEnabled,
      readVariable_numberText hconcurrency s.store.concurrency.toNat_lt,
      readVariable_flagText hdiscard, present_plain hapi hproper.apiUrl,
      present_optional hrpc hproper.rpcUrl, present_optional hcontract hproper.contract,
      present_plain hbucket hproper.bucket, present_plain hregion hproper.region,
      present_optional haccess hproper.accessKey, present_optional hsecret hproper.secretKey,
      present_optional hdirectory hproper.directory, hhead]
    simp only [bind, Except.bind, UInt32.ofNat_toNat, UInt64.ofNat_toNat]
  rw [hread]
  exact (validated_eq_ok_iff s s).mpr ⟨rfl, hvalid⟩

end Variables

/-! ### Settings in objects -/

section Objects

variable (fields : List (Option String × Tree)) (name : String)

/-- What stands under the name spells the value. A field that is missing stands for the usual
value. -/
def Holds {α : Type} (spells : Tree → α → Prop) (usual a : α) : Prop :=
  ∃ x, Stands fields name x ∧
    match x with
    | none => a = usual
    | some t => spells t a

def SpellsFlag (t : Tree) (b : Bool) : Prop := t = .bool b

def SpellsText (t : Tree) (s : String) : Prop := t = .string (some s)

def SpellsNumber (t : Tree) (n : Nat) : Prop := t = .number (some (.int n))

def SpellsOptional (t : Tree) (o : Option String) : Prop :=
  t = o.elim .null fun s => .string (some s)

def SpellsProofs (t : Tree) (p : Proofs) : Prop :=
  ∃ fields, t = .object fields ∧ (∀ f ∈ fields, f.1.isSome) ∧
    Holds fields "enabled" SpellsFlag false p.enabled ∧
    Holds fields "api_url" SpellsText "" p.apiUrl ∧
    Holds fields "retry_count" SpellsNumber Proofs.standard.retryCount.toNat
      p.retryCount.toNat ∧
    Holds fields "wait_secs" SpellsNumber Proofs.standard.waitSeconds.toNat
      p.waitSeconds.toNat

def SpellsBucket (t : Tree) (b : Bucket) : Prop :=
  ∃ fields, t = .object fields ∧ (∀ f ∈ fields, f.1.isSome) ∧
    Holds fields "bucket" SpellsText "" b.bucket ∧
    Holds fields "region" SpellsText "" b.region ∧
    Holds fields "access_key" SpellsOptional none b.accessKey ∧
    Holds fields "secret_key" SpellsOptional none b.secretKey

def SpellsStore (t : Tree) (p : Store.Policy) : Prop :=
  ∃ fields, t = .object fields ∧ (∀ f ∈ fields, f.1.isSome) ∧
    Holds fields "object_prefix" SpellsText "" p.keyHead ∧
    Holds fields "concurrency" SpellsNumber Store.Policy.usualConcurrency.toNat
      p.concurrency.toNat ∧
    Holds fields "discard_after_timeout" SpellsFlag false p.discardAfterTimeout

/-- The tree is an object that spells the settings, in any order and next to any other fields. -/
def Spells (t : Tree) (s : Settings) : Prop :=
  ∃ fields, t = .object fields ∧ (∀ f ∈ fields, f.1.isSome) ∧
    Holds fields "bridge" SpellsProofs .standard s.proofs ∧
    Holds fields "l1_rpc_url" SpellsOptional none s.rpcUrl ∧
    Holds fields "attestation_contract" SpellsOptional none s.contract ∧
    Holds fields "s3_enabled" SpellsFlag false s.bucketEnabled ∧
    Holds fields "s3" SpellsBucket .none s.bucket ∧
    Holds fields "fs_store_dir" SpellsOptional none s.directory ∧
    Holds fields "fallback" SpellsStore .standard s.store

variable {fields name}

theorem Holds.orElse {α : Type} {spells : Tree → α → Prop} {read : Tree → Option α} {usual a : α}
    (h : Holds fields name spells usual a) (hread : ∀ {t}, spells t a → read t = some a) :
    ∃ x, Stands fields name x ∧ Json.Record.orElse usual read x = some a := by
  obtain ⟨x, hstands, hx⟩ := h
  refine ⟨x, hstands, ?_⟩
  cases x with
  | none => exact congrArg some hx.symm
  | some t => exact hread hx

theorem Holds.nullable {o : Option String} (h : Holds fields name SpellsOptional none o) :
    ∃ x, Stands fields name x ∧ Json.Record.nullable text x = some o := by
  obtain ⟨x, hstands, hx⟩ := h
  refine ⟨x, hstands, ?_⟩
  cases x with
  | none =>
    obtain rfl : o = none := hx
    rfl
  | some t =>
    obtain rfl : t = o.elim .null fun s => .string (some s) := hx
    cases o <;> rfl

theorem flag_of_spells {t : Tree} {b : Bool} (h : SpellsFlag t b) : flag t = some b := by
  rw [h, flag]

theorem text_of_spells {t : Tree} {s : String} (h : SpellsText t s) : text t = some s := by
  rw [h, text]

theorem unsigned_of_spells {t : Tree} {n width : Nat} (hn : n < 2 ^ width)
    (h : SpellsNumber t n) : unsigned width t = some n :=
  (unsigned_eq_some_iff width t n).mpr ⟨h, hn⟩

theorem readProofs_of_spells {t : Tree} {p : Proofs} (h : SpellsProofs t p) :
    readProofs t = some p := by
  obtain ⟨fields, rfl, hnamed, henabled, hapi, hretry, hwait⟩ := h
  obtain ⟨x₁, hstands₁, henabled⟩ := henabled.orElse flag_of_spells
  obtain ⟨x₂, hstands₂, hapi⟩ := hapi.orElse text_of_spells
  obtain ⟨x₃, hstands₃, hretry⟩ := hretry.orElse (unsigned_of_spells p.retryCount.toNat_lt)
  obtain ⟨x₄, hstands₄, hwait⟩ := hwait.orElse (unsigned_of_spells p.waitSeconds.toNat_lt)
  rw [readProofs, (fields?_object_iff _ [x₁, x₂, x₃, x₄]).mpr
    ⟨hnamed, .cons hstands₁ <| .cons hstands₂ <| .cons hstands₃ <| .cons hstands₄ .nil⟩]
  simp only [henabled, hapi, hretry, hwait, Option.bind_eq_bind, Option.bind_some, Option.pure_def,
    UInt32.ofNat_toNat, UInt64.ofNat_toNat]

theorem readBucket_of_spells {t : Tree} {b : Bucket} (h : SpellsBucket t b) :
    readBucket t = some b := by
  obtain ⟨fields, rfl, hnamed, hbucket, hregion, haccess, hsecret⟩ := h
  obtain ⟨x₁, hstands₁, hbucket⟩ := hbucket.orElse text_of_spells
  obtain ⟨x₂, hstands₂, hregion⟩ := hregion.orElse text_of_spells
  obtain ⟨x₃, hstands₃, haccess⟩ := haccess.nullable
  obtain ⟨x₄, hstands₄, hsecret⟩ := hsecret.nullable
  rw [readBucket, (fields?_object_iff _ [x₁, x₂, x₃, x₄]).mpr
    ⟨hnamed, .cons hstands₁ <| .cons hstands₂ <| .cons hstands₃ <| .cons hstands₄ .nil⟩]
  simp only [hbucket, hregion, haccess, hsecret, Option.bind_eq_bind, Option.bind_some,
    Option.pure_def]

theorem readStore_of_spells {t : Tree} {p : Store.Policy} (h : SpellsStore t p) :
    readStore t = some p := by
  obtain ⟨fields, rfl, hnamed, hhead, hconcurrency, hdiscard⟩ := h
  obtain ⟨x₁, hstands₁, hhead⟩ := hhead.orElse text_of_spells
  obtain ⟨x₂, hstands₂, hconcurrency⟩ :=
    hconcurrency.orElse (unsigned_of_spells p.concurrency.toNat_lt)
  obtain ⟨x₃, hstands₃, hdiscard⟩ := hdiscard.orElse flag_of_spells
  rw [readStore, (fields?_object_iff _ [x₁, x₂, x₃]).mpr
    ⟨hnamed, .cons hstands₁ <| .cons hstands₂ <| .cons hstands₃ .nil⟩]
  simp only [hhead, hconcurrency, hdiscard, Option.bind_eq_bind, Option.bind_some,
    Option.pure_def, UInt64.ofNat_toNat]

/-- Settings are read back from an object that spells them. -/
theorem ofTree?_of_spells {t : Tree} {s : Settings} (h : Spells t s) : ofTree? t = some s := by
  obtain ⟨fields, rfl, hnamed, hproofs, hrpc, hcontract, henabled, hbucket, hdirectory, hstore⟩ := h
  obtain ⟨x₁, hstands₁, hproofs⟩ := hproofs.orElse readProofs_of_spells
  obtain ⟨x₂, hstands₂, hrpc⟩ := hrpc.nullable
  obtain ⟨x₃, hstands₃, hcontract⟩ := hcontract.nullable
  obtain ⟨x₄, hstands₄, henabled⟩ := henabled.orElse flag_of_spells
  obtain ⟨x₅, hstands₅, hbucket⟩ := hbucket.orElse readBucket_of_spells
  obtain ⟨x₆, hstands₆, hdirectory⟩ := hdirectory.nullable
  obtain ⟨x₇, hstands₇, hstore⟩ := hstore.orElse readStore_of_spells
  rw [ofTree?, (fields?_object_iff _ [x₁, x₂, x₃, x₄, x₅, x₆, x₇]).mpr
    ⟨hnamed, .cons hstands₁ <| .cons hstands₂ <| .cons hstands₃ <| .cons hstands₄ <|
      .cons hstands₅ <| .cons hstands₆ <| .cons hstands₇ .nil⟩]
  simp only [hproofs, hrpc, hcontract, henabled, hbucket, hdirectory, hstore,
    Option.bind_eq_bind, Option.bind_some, Option.pure_def]

end Objects

/-! ### Settings in a text -/

section Texts

def writtenText (o : Option String) : Json.Value := o.elim .null .string

def Proofs.written (p : Proofs) : Json.Value :=
  .object [
    ("enabled", .bool p.enabled), ("api_url", .string p.apiUrl),
    ("retry_count", .ofNat p.retryCount.toNat), ("wait_secs", .ofNat p.waitSeconds.toNat)]

def Bucket.written (b : Bucket) : Json.Value :=
  .object [
    ("bucket", .string b.bucket), ("region", .string b.region),
    ("access_key", writtenText b.accessKey), ("secret_key", writtenText b.secretKey)]

def writtenStore (p : Store.Policy) : Json.Value :=
  .object [
    ("object_prefix", .string p.keyHead), ("concurrency", .ofNat p.concurrency.toNat),
    ("discard_after_timeout", .bool p.discardAfterTimeout)]

def written (s : Settings) : Json.Value :=
  .object [
    ("bridge", s.proofs.written), ("l1_rpc_url", writtenText s.rpcUrl),
    ("attestation_contract", writtenText s.contract), ("s3_enabled", .bool s.bucketEnabled),
    ("s3", s.bucket.written), ("fs_store_dir", writtenText s.directory),
    ("fallback", writtenStore s.store)]

theorem spellsOptional_writtenText (o : Option String) :
    SpellsOptional (.ofValue (writtenText o)) o := by
  cases o <;> rfl

/-- A field that is found with a tree of the value spells the value. -/
theorem holds_of_only? {α : Type} {fields : List (Option String × Tree)} {name : String} {t : Tree}
    {spells : Tree → α → Prop} {usual a : α} (h : only? name fields = some (some t))
    (hspells : spells t a) : Holds fields name spells usual a :=
  ⟨some t, only?_eq_some_iff.mp h, hspells⟩

theorem spells_written (s : Settings) : Spells (.ofValue s.written) s := by
  have hproofs : SpellsProofs (.ofValue s.proofs.written) s.proofs :=
    ⟨_, rfl, named_ofFields _, holds_of_only? rfl rfl, holds_of_only? rfl rfl,
      holds_of_only? rfl rfl, holds_of_only? rfl rfl⟩
  have hbucket : SpellsBucket (.ofValue s.bucket.written) s.bucket :=
    ⟨_, rfl, named_ofFields _, holds_of_only? rfl rfl, holds_of_only? rfl rfl,
      holds_of_only? rfl (spellsOptional_writtenText _),
      holds_of_only? rfl (spellsOptional_writtenText _)⟩
  have hstore : SpellsStore (.ofValue (writtenStore s.store)) s.store :=
    ⟨_, rfl, named_ofFields _, holds_of_only? rfl rfl, holds_of_only? rfl rfl,
      holds_of_only? rfl rfl⟩
  exact ⟨_, rfl, named_ofFields _, holds_of_only? rfl hproofs,
    holds_of_only? rfl (spellsOptional_writtenText _),
    holds_of_only? rfl (spellsOptional_writtenText _), holds_of_only? rfl rfl,
    holds_of_only? rfl hbucket, holds_of_only? rfl (spellsOptional_writtenText _),
    holds_of_only? rfl hstore⟩

theorem legible_writtenText (o : Option String) (depth : Nat) :
    (writtenText o).Legible depth := by
  cases o <;> trivial

theorem legible_ofNat {n : Nat} (h : n < 2 ^ 64) (depth : Nat) :
    (Json.Value.ofNat n).Legible depth := by
  change -0x8000000000000000 ≤ (n : Int) ∧ (n : Int) < 0x10000000000000000
  omega

theorem legible_written (s : Settings) : s.written.Legible 2 := by
  have hretry : s.proofs.retryCount.toNat < 2 ^ 64 :=
    s.proofs.retryCount.toNat_lt.trans (by decide)
  have hproofs : s.proofs.written.Legible 1 :=
    ⟨trivial, trivial, legible_ofNat hretry 0, legible_ofNat s.proofs.waitSeconds.toNat_lt 0,
      trivial⟩
  have hbucket : s.bucket.written.Legible 1 :=
    ⟨trivial, trivial, legible_writtenText _ 0, legible_writtenText _ 0, trivial⟩
  have hstore : (writtenStore s.store).Legible 1 :=
    ⟨trivial, legible_ofNat s.store.concurrency.toNat_lt 0, trivial, trivial⟩
  exact ⟨hproofs, legible_writtenText _ 1, legible_writtenText _ 1, trivial, hbucket,
    legible_writtenText _ 1, hstore, trivial⟩

end Texts

/-! ### Complete settings -/

structure Complete (s : Settings) : Prop where
  apiUrl : s.proofs.enabled = true → s.proofs.apiUrl ≠ ""
  contract : s.rpcUrl.isSome = s.contract.isSome
  bucket : s.bucketEnabled = true → s.bucket.bucket ≠ "" ∧ s.bucket.region ≠ ""

theorem validate_eq_ok_iff (s : Settings) : s.validate = .ok () ↔ s.Complete := by
  have hempty : ∀ text : String, text.isEmpty = true ↔ text = "" := fun _ => String.isEmpty_iff
  have hpair : ∀ a b : Option String, (¬ (a.isSome && b.isNone) = true ∧
      ¬ (a.isNone && b.isSome) = true) ↔ a.isSome = b.isSome := by
    intro a b
    cases a <;> cases b <;> simp
  constructor
  · intro h
    rw [validate] at h
    split_ifs at h with hapi hcontract hrpc hbucket hregion
    simp only [Bool.and_eq_true, hempty, not_and] at hapi hbucket hregion
    exact ⟨hapi, (hpair _ _).mp ⟨hcontract, hrpc⟩, fun hon => ⟨hbucket hon, hregion hon⟩⟩
  · rintro ⟨hapi, hsame, hbucket⟩
    obtain ⟨hcontract, hrpc⟩ := (hpair _ _).mpr hsame
    rw [validate, if_neg, if_neg hcontract, if_neg hrpc, if_neg, if_neg]
    all_goals simp only [Bool.and_eq_true, hempty, not_and]
    · exact fun hon => (hbucket hon).2
    · exact fun hon => (hbucket hon).1
    · exact hapi

/-- Whatever is read from variables has been validated. -/
theorem validate_of_ofLookup {lookup : String → Option String} {s : Settings}
    (h : ofLookup lookup = .ok s) : s.validate = .ok () := by
  obtain ⟨t, ht⟩ := exists_ofLookup_eq lookup
  rw [ht] at h
  cases hchecks : order.forM (check lookup) with
  | error e =>
    rw [hchecks] at h
    cases h
  | ok =>
    rw [hchecks] at h
    obtain ⟨rfl, hvalid⟩ := (validated_eq_ok_iff t s).mp h
    exact hvalid

theorem validate_of_ofFile {path : String} {content : Except Disk.Fault Bytes} {s : Settings}
    (h : ofFile path content = .ok s) : s.validate = .ok () := by
  unfold ofFile at h
  split at h
  · cases h
  · split at h
    · cases h
    · rename_i t _
      obtain ⟨rfl, hvalid⟩ := (validated_eq_ok_iff t s).mp h
      exact hvalid

/-- A file that spells valid settings, in whatever way, loads them. -/
theorem ofFile_of_spells {bytes : Bytes} {t : Tree} {s : Settings} (hvalid : s.validate = .ok ())
    (hbytes : Tree.ofBytes? bytes = some t) (h : Spells t s) (path : String) :
    ofFile path (.ok bytes) = .ok s := by
  have hread : (Tree.ofBytes? bytes).bind ofTree? = some s := by
    rw [hbytes, Option.bind_some, ofTree?_of_spells h]
  simp only [ofFile, hread]
  exact (validated_eq_ok_iff s s).mpr ⟨rfl, hvalid⟩

/-- Valid settings without blank texts are read back from variables and from objects that spell
them, and whatever is read from either is complete. -/
theorem written_settings_agree :
    (∀ s : Settings, s.validate = .ok () → s.Proper →
      (∀ lookup : String → Option String,
        (∀ v ∈ s.environment, (lookup v.1).getD "" = v.2) → ofLookup lookup = .ok s) ∧
      (∀ path bytes t, Tree.ofBytes? bytes = some t → Spells t s →
        ofFile path (.ok bytes) = .ok s) ∧
      ∀ path, ofFile path (.ok (Bytes.ofText s.written.compact)) = .ok s) ∧
    ∀ s : Settings, ((∃ lookup, ofLookup lookup = .ok s) ∨
      ∃ path content, ofFile path content = .ok s) → s.validate = .ok () ∧ s.Complete := by
  constructor
  · intro s hvalid hproper
    refine ⟨fun lookup => ofLookup_of_environment hvalid hproper,
      fun path bytes t hbytes h => ofFile_of_spells hvalid hbytes h path, ?_⟩
    exact ofFile_of_spells hvalid (Tree.ofBytes?_compact s.legible_written) s.spells_written
  · intro s h
    have hvalid : s.validate = .ok () := by
      rcases h with ⟨lookup, h⟩ | ⟨path, content, h⟩
      · exact validate_of_ofLookup h
      · exact validate_of_ofFile h
    exact ⟨hvalid, s.validate_eq_ok_iff.mp hvalid⟩

def furnished : Settings where
  proofs := ⟨true, "https://bridge.example", 3, 0⟩
  rpcUrl := some "http://localhost:8545"
  contract := some "0x00000000000000000000000000000000000a77e5"
  bucketEnabled := true
  bucket := ⟨"batches", " eu-west-1", some "AKIA", none⟩
  directory := none
  store := ⟨" ", 8, true⟩

def headed : Settings := { standard with store := ⟨"cdk/", 5, false⟩ }

def headedFields : List (String × Json.Value) :=
  [("note", .array [.null]), ("fallback", .object [("object_prefix", .string "cdk/")])]

theorem spells_headedFields : Spells (.object (Tree.ofFields headedFields)) headed := by
  have hmissing : ∀ {α : Type} {fields : List (Option String × Tree)} {name : String}
      {spells : Tree → α → Prop} {usual : α}, only? name fields = some none →
      Holds fields name spells usual usual :=
    fun h => ⟨none, only?_eq_some_iff.mp h, rfl⟩
  have hstore : SpellsStore (.object (Tree.ofFields [("object_prefix", .string "cdk/")]))
      headed.store :=
    ⟨_, rfl, named_ofFields _, holds_of_only? rfl rfl, hmissing rfl, hmissing rfl⟩
  exact ⟨_, rfl, named_ofFields _, hmissing rfl, hmissing rfl, hmissing rfl, hmissing rfl,
    hmissing rfl, hmissing rfl, holds_of_only? rfl hstore⟩

/-- Settings that are written come back from the variables and from the file, and so do those of
which the file spells only a part. -/
theorem written_settings_agree_furnished :
    ofLookup (fun name => furnished.environment.lookup name) = .ok furnished ∧
    ofFile "backend.json" (.ok (Bytes.ofText furnished.written.compact)) = .ok furnished ∧
    ofFile "backend.json" (.ok (Bytes.ofText (Json.Value.object headedFields).compact)) =
      .ok headed ∧
    furnished.Complete := by
  obtain ⟨hagree, hcomplete⟩ := written_settings_agree
  have hproper : furnished.Proper :=
    ⟨by decide, by decide, by decide, by decide, by decide, by decide, nofun, nofun⟩
  have hheaded : headed.Proper := ⟨nofun, nofun, nofun, nofun, nofun, nofun, nofun, nofun⟩
  obtain ⟨hlookup, -, hfile⟩ := hagree furnished (by decide) hproper
  obtain ⟨-, hspelled, -⟩ := hagree headed (by decide) hheaded
  have hread := hlookup (fun name => furnished.environment.lookup name) (by decide +kernel)
  have hlegible : (Json.Value.object headedFields).Legible 2 :=
    ⟨⟨trivial, trivial⟩, ⟨trivial, trivial⟩, trivial⟩
  exact ⟨hread, hfile _, hspelled _ _ _ (Tree.ofBytes?_compact hlegible) spells_headedFields,
    (hcomplete furnished (.inl ⟨_, hread⟩)).2⟩

end Validium.Settings
