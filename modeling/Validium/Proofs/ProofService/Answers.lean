import Validium.Proofs.Json.Objects
import Validium.Proofs.Message.RoundTrip
import Validium.Proofs.ProofService.Indices
import Validium.Proofs.Text.Spelled

/-!
Inclusion proofs on their way from an answer into a message. An object that spells the eight parts
of a proof under their names is read as this proof, whatever the order of its fields and whatever
else stands in it, and the message of the proof gives the proof back. An index that does not fit
spoils the whole answer, so no index is ever another one than was spelled.
-/
namespace Validium.ProofService.Answer

open Json (Tree Number)
open Json.Record (Stands Under required orElse list word fields? getElem?_fields? only?_eq_some_iff)
open Text (Denotes)

/-- The tree gives the number, in a text or as an integer of 64 bits without a sign. -/
inductive Gives : Tree → Nat → Prop
  | text (text : String) (n : Nat) (h : Means text n) : Gives (.string (some text)) n
  | number (n : Nat) (h : n < 2 ^ 64) : Gives (.number (some (.int n))) n

/-- The tree is a text of too large a number, or comes from a number of a JSON text that is not
written in digits alone or takes more than 64 bits. -/
inductive Unfit : Tree → Prop
  | text (text : String) (n : Nat) (h : Means text n) (hlarge : 2 ^ 256 ≤ n) :
      Unfit (.string (some text))
  | number (negative : Bool) (cs rest : List Char) (n? : Option Number)
      (hread : Json.Parser.number negative cs = some (n?, rest))
      (h : ∀ digits n, negative = false → digits ≠ [] → cs = digits ++ rest →
        Denotes 10 digits n → 2 ^ 64 ≤ n) : Unfit (.number n?)

theorem index_eq_some_iff (t : Tree) (v : BitVec 256) : index t = some v ↔ Gives t v.toNat := by
  constructor
  · intro h
    match t with
    | .string (some text) => exact .text text _ ((index_string_iff text v).mp h)
    | .number n? =>
      obtain ⟨rfl, hlt⟩ := (index_number_iff n? v).mp h
      exact .number _ hlt
    | .null | .bool _ | .string none | .array _ | .object _ => cases h
  · intro h
    cases h with
    | text text _ h => exact (index_string_iff text v).mpr h
    | number _ h => exact (index_number_iff _ v).mpr ⟨rfl, h⟩

theorem index_of_unfit {t : Tree} (h : Unfit t) : index t = none := by
  cases h with
  | text text n h hlarge => exact index_string_of_large h hlarge
  | number negative cs rest n? hread h =>
    rw [Option.eq_none_iff_forall_ne_some]
    intro v hv
    obtain ⟨hsign, hlt, digits, hsome, hcs, hdenotes⟩ := digits_of_number hread hv
    exact absurd hlt (Nat.not_lt.mpr (h digits _ hsign hsome hcs hdenotes))

def SpellsHash (t : Tree) (hash : Hash) : Prop :=
  ∃ text, t = .string (some text) ∧ Word.Spelled text hash

def SpellsHashes (t : Tree) (hashes : List Hash) : Prop :=
  ∃ items, t = .array items ∧ List.Forall₂ SpellsHash items hashes

theorem word_of_spellsHash {t : Tree} {hash : Hash} (h : SpellsHash t hash) :
    word t = some hash := by
  obtain ⟨text, rfl, hspelled⟩ := h
  rw [word, (Word.parse_eq_ok_iff text hash).mpr hspelled]
  rfl

theorem list_word_of_spellsHashes {t : Tree} {hashes : List Hash} (h : SpellsHashes t hashes) :
    list word t = some hashes := by
  obtain ⟨items, rfl, hitems⟩ := h
  exact (Json.Record.mapM_eq_some_iff word items hashes).mpr
    (hitems.imp fun _ _ => word_of_spellsHash)

section Fields

variable (fields : List (Option String × Tree)) (name : String)

def Holds (P : Tree → Prop) : Prop := ∃ t, Stands fields name (some t) ∧ P t

/-- A hash stands under the name, in any form that is read, or nothing does. -/
def HoldsAnyHash : Prop := ∃ x, Stands fields name x ∧ ∀ t ∈ x, (word t).isSome

/-- The fields spell the parts of the proof under their names, each once. Hashes that the proof
does not need may stand next to them, and so may any field with another name. -/
structure Spells (p : Message.InclusionProof) : Prop where
  named : ∀ f ∈ fields, f.1.isSome
  blobRoot : Holds fields "blobRoot" (SpellsHash · p.blobRoot)
  bridgeRoot : Holds fields "bridgeRoot" (SpellsHash · p.bridgeRoot)
  dataRootIndex : Holds fields "dataRootIndex" (Gives · p.dataRootIndex.toNat)
  dataRootProof : Holds fields "dataRootProof" (SpellsHashes · p.dataRootProof)
  leaf : Holds fields "leaf" (SpellsHash · p.leaf)
  leafIndex : Holds fields "leafIndex" (Gives · p.leafIndex.toNat)
  leafProof : Holds fields "leafProof" (SpellsHashes · p.leafProof)
  rangeHash : Holds fields "rangeHash" (SpellsHash · p.rangeHash)
  blockHash : HoldsAnyHash fields "blockHash"
  dataRoot : HoldsAnyHash fields "dataRoot"
  dataRootCommitment : HoldsAnyHash fields "dataRootCommitment"

variable {fields name}

theorem Holds.read {α : Type} {P : Tree → Prop} {read : Tree → Option α} {a : α}
    (hread : ∀ {t}, P t → read t = some a) (h : Holds fields name P) :
    ∃ x, Stands fields name x ∧ required read x = some a := by
  obtain ⟨t, hstands, ht⟩ := h
  exact ⟨some t, hstands, hread ht⟩

theorem HoldsAnyHash.read (h : HoldsAnyHash fields name) :
    ∃ x, Stands fields name x ∧ ∃ hash, orElse Word.zero word x = some hash := by
  obtain ⟨x, hstands, hword⟩ := h
  refine ⟨x, hstands, ?_⟩
  cases x with
  | none => exact ⟨Word.zero, rfl⟩
  | some t => exact Option.isSome_iff_exists.mp (hword t rfl)

/-- Fields that spell a proof are read as an answer with this proof. -/
theorem ofTree?_of_spells {p : Message.InclusionProof} (h : Spells fields p) :
    ∃ a, ofTree? (.object fields) = some a ∧ a.proof = p := by
  obtain ⟨x₁, hstands₁, hblob⟩ := h.blobRoot.read word_of_spellsHash
  obtain ⟨x₂, hstands₂, blockHash, hblock⟩ := h.blockHash.read
  obtain ⟨x₃, hstands₃, hbridge⟩ := h.bridgeRoot.read word_of_spellsHash
  obtain ⟨x₄, hstands₄, dataRoot, hdata⟩ := h.dataRoot.read
  obtain ⟨x₅, hstands₅, hdataIndex⟩ := h.dataRootIndex.read (index_eq_some_iff _ _).mpr
  obtain ⟨x₆, hstands₆, commitment, hcommitment⟩ := h.dataRootCommitment.read
  obtain ⟨x₇, hstands₇, hdataProof⟩ := h.dataRootProof.read list_word_of_spellsHashes
  obtain ⟨x₈, hstands₈, hleaf⟩ := h.leaf.read word_of_spellsHash
  obtain ⟨x₉, hstands₉, hleafIndex⟩ := h.leafIndex.read (index_eq_some_iff _ _).mpr
  obtain ⟨x₁₀, hstands₁₀, hleafProof⟩ := h.leafProof.read list_word_of_spellsHashes
  obtain ⟨x₁₁, hstands₁₁, hrange⟩ := h.rangeHash.read word_of_spellsHash
  have hfields : fields? fieldNames (.object fields) =
      some [x₁, x₂, x₃, x₄, x₅, x₆, x₇, x₈, x₉, x₁₀, x₁₁] :=
    (Json.Record.fields?_object_iff fieldNames _).mpr ⟨h.named,
      .cons hstands₁ <| .cons hstands₂ <| .cons hstands₃ <| .cons hstands₄ <| .cons hstands₅ <|
        .cons hstands₆ <| .cons hstands₇ <| .cons hstands₈ <| .cons hstands₉ <|
          .cons hstands₁₀ <| .cons hstands₁₁ .nil⟩
  refine ⟨⟨p, blockHash, dataRoot, commitment⟩, ?_, rfl⟩
  rw [ofTree?, hfields]
  simp only [hblob, hblock, hbridge, hdata, hdataIndex, hcommitment, hdataProof, hleaf, hleafIndex,
    hleafProof, hrange, Option.bind_eq_bind, Option.bind_some, Option.pure_def]

end Fields

def StandsFor (record : Tree) (name : String) (n : Nat) : Prop :=
  ∃ t, (∀ u, Under fieldNames name u record ↔ u = t) ∧ Gives t n

theorem StandsFor.index_of_under {record t : Tree} {name : String} {v : BitVec 256}
    (h : StandsFor record name v.toNat) (hunder : Under fieldNames name t record) :
    index t = some v := by
  obtain ⟨u, hone, hgives⟩ := h
  rw [(hone t).mp hunder]
  exact (index_eq_some_iff u v).mpr hgives

/-- The indices of an answer are what stands under their names. -/
theorem indices_of_ofTree? {record : Tree} {a : Answer} (h : ofTree? record = some a) :
    StandsFor record "dataRootIndex" a.proof.dataRootIndex.toNat ∧
      StandsFor record "leafIndex" a.proof.leafIndex.toNat := by
  have hnodup : fieldNames.Nodup := by decide
  have hstands : ∀ {xs : List (Option Tree)} {i : Nat} {name : String} {x : Option Tree}
      {v : BitVec 256}, fields? fieldNames record = some xs → fieldNames[i]? = some name →
      xs[i]? = some x → required index x = some v → StandsFor record name v.toNat := by
    intro xs i name x v hfields hname hx hread
    cases x with
    | none => cases hread
    | some t =>
      refine ⟨t, fun u => ?_, (index_eq_some_iff t v).mp hread⟩
      rw [← getElem?_fields? hnodup hfields hname, hx]
      simp [eq_comm]
  rw [ofTree?] at h
  split at h
  · rename_i hfields
    obtain ⟨blobRoot, -, h⟩ := Option.bind_eq_some_iff.mp h
    obtain ⟨blockHash, -, h⟩ := Option.bind_eq_some_iff.mp h
    obtain ⟨bridgeRoot, -, h⟩ := Option.bind_eq_some_iff.mp h
    obtain ⟨dataRoot, -, h⟩ := Option.bind_eq_some_iff.mp h
    obtain ⟨dataRootIndex, hdataIndex, h⟩ := Option.bind_eq_some_iff.mp h
    obtain ⟨commitment, -, h⟩ := Option.bind_eq_some_iff.mp h
    obtain ⟨dataRootProof, -, h⟩ := Option.bind_eq_some_iff.mp h
    obtain ⟨leaf, -, h⟩ := Option.bind_eq_some_iff.mp h
    obtain ⟨leafIndex, hleafIndex, h⟩ := Option.bind_eq_some_iff.mp h
    obtain ⟨leafProof, -, h⟩ := Option.bind_eq_some_iff.mp h
    obtain ⟨rangeHash, -, h⟩ := Option.bind_eq_some_iff.mp h
    cases h
    exact ⟨hstands (i := 4) hfields rfl rfl hdataIndex,
      hstands (i := 8) hfields rfl rfl hleafIndex⟩
  · cases h

/-- An index that does not fit spoils the answer. -/
theorem ofTree?_of_unfit {record t : Tree} {name : String}
    (hname : name ∈ ["dataRootIndex", "leafIndex"]) (hunder : Under fieldNames name t record)
    (h : Unfit t) : ofTree? record = none := by
  rw [Option.eq_none_iff_forall_ne_some]
  intro a ha
  obtain ⟨hdata, hleaf⟩ := indices_of_ofTree? ha
  have hread : ∃ v, index t = some v := by
    rcases List.mem_pair.mp hname with rfl | rfl
    · exact ⟨_, hdata.index_of_under hunder⟩
    · exact ⟨_, hleaf.index_of_under hunder⟩
  obtain ⟨v, hv⟩ := hread
  rw [index_of_unfit h] at hv
  cases hv

/-- An object that spells a proof, in a body in any form, is read as this proof, and the message
made of it gives the proof back. The indices of whatever is read are those that stand in the body,
and a body with an index that does not fit is not read. -/
theorem spelled_proofs_survive (body : Bytes) (record : Tree)
    (hbody : Tree.ofBytes? body = some record) :
    (∀ fields p, record = .object fields → Spells fields p →
      ∃ a, ofBytes? body = some a ∧ a.proof = p ∧
        ((Message.inclusionProof p).encode.length < 2 ^ 64 →
          Message.decode (Message.Envelope.encode
            ⟨Message.Kind.inclusionProof.tag, a.proof.encode⟩) = .ok (.inclusionProof p))) ∧
    (∀ a, ofBytes? body = some a →
      StandsFor record "dataRootIndex" a.proof.dataRootIndex.toNat ∧
        StandsFor record "leafIndex" a.proof.leafIndex.toNat) ∧
    (∀ name ∈ ["dataRootIndex", "leafIndex"], ∀ t, Under fieldNames name t record → Unfit t →
      ofBytes? body = none) := by
  have hread : ofBytes? body = ofTree? record := by rw [ofBytes?, hbody, Option.bind_some]
  rw [hread]
  refine ⟨?_, fun a ha => indices_of_ofTree? ha, fun name hname t => ofTree?_of_unfit hname⟩
  rintro fields p rfl hspells
  obtain ⟨a, ha, rfl⟩ := ofTree?_of_spells hspells
  exact ⟨a, ha, rfl, Message.decode_encode (.inclusionProof a.proof)⟩

def scatteredProof : Message.InclusionProof where
  dataRootProof := [Word.ofNat 1, Word.ofNat 2]
  leafProof := [Word.ofNat 3]
  rangeHash := Word.ofNat 4
  dataRootIndex := 42
  blobRoot := Word.ofNat 5
  bridgeRoot := Word.ofNat 6
  leaf := Word.ofNat 0xab
  leafIndex := BitVec.ofNat 256 (2 ^ 64 - 1)

/-- Fields in an order of their own, with a hash more and two less than could be, a strange one,
digits in both cases and an index between blanks. -/
def scatteredFields (leafIndex : Int) : List (String × Json.Value) := [
  ("rangeHash", .string (Word.ofNat 4).text),
  ("leafIndex", .number (.int leafIndex)),
  ("leaf", .string ("0X" ++ String.ofList (List.replicate 62 '0') ++ "aB")),
  ("leafProof", .array [.string (Word.ofNat 3).digits]),
  ("nonce", .array [.null, .bool true]),
  ("dataRoot", .string (Word.ofNat 9).text),
  ("dataRootIndex", .string " 0x2A "),
  ("dataRootProof", .array [.string (Word.ofNat 1).text, .string (Word.ofNat 2).digits]),
  ("bridgeRoot", .string (Word.ofNat 6).text),
  ("blobRoot", .string (Word.ofNat 5).digits)]

def scatteredBody (leafIndex : Int) : Bytes :=
  Bytes.ofText (Json.Value.object (scatteredFields leafIndex)).compact

theorem ofBytes?_scatteredBody {leafIndex : Int}
    (h : -0x8000000000000000 ≤ leafIndex ∧ leafIndex < 0x10000000000000000) :
    Tree.ofBytes? (scatteredBody leafIndex) =
      some (.object (Tree.ofFields (scatteredFields leafIndex))) := by
  have hlegible : (Json.Value.object (scatteredFields leafIndex)).Legible 2 :=
    ⟨trivial, h, trivial, ⟨trivial, trivial⟩, ⟨trivial, trivial, trivial⟩, trivial, trivial,
      ⟨trivial, trivial, trivial⟩, trivial, trivial, trivial⟩
  exact Tree.ofBytes?_compact hlegible

theorem spells_scatteredFields :
    Spells (Tree.ofFields (scatteredFields 0xffffffffffffffff)) scatteredProof := by
  have hhash : ∀ {text : String} {hash : Hash}, Word.parse text = .ok hash →
      SpellsHash (.string (some text)) hash :=
    fun h => ⟨_, rfl, (Word.parse_eq_ok_iff _ _).mp h⟩
  exact {
    named := by decide
    blobRoot := ⟨_, only?_eq_some_iff.mp rfl, hhash (by decide +kernel)⟩
    bridgeRoot := ⟨_, only?_eq_some_iff.mp rfl, hhash (Word.parse_text _)⟩
    dataRootIndex := ⟨_, only?_eq_some_iff.mp rfl, (index_eq_some_iff _ _).mp (by decide)⟩
    dataRootProof := ⟨_, only?_eq_some_iff.mp rfl, _, rfl,
      .cons (hhash (Word.parse_text _)) (.cons (hhash (by decide +kernel)) .nil)⟩
    leaf := ⟨_, only?_eq_some_iff.mp rfl, hhash (by decide +kernel)⟩
    leafIndex := ⟨_, only?_eq_some_iff.mp rfl, (index_eq_some_iff _ _).mp (by decide)⟩
    leafProof := ⟨_, only?_eq_some_iff.mp rfl, _, rfl, .cons (hhash (by decide +kernel)) .nil⟩
    rangeHash := ⟨_, only?_eq_some_iff.mp rfl, hhash (Word.parse_text _)⟩
    blockHash := ⟨none, only?_eq_some_iff.mp rfl, nofun⟩
    dataRoot := by
      refine ⟨_, only?_eq_some_iff.mp rfl, ?_⟩
      rintro t ⟨⟩
      exact Option.isSome_of_eq_some (word_of_spellsHash (hhash (Word.parse_text (Word.ofNat 9))))
    dataRootCommitment := ⟨none, only?_eq_some_iff.mp rfl, nofun⟩ }

/-- The proof comes back from fields in disorder. An index below zero refuses the body. -/
theorem spelled_proofs_survive_scattered :
    (∃ a, ofBytes? (scatteredBody 0xffffffffffffffff) = some a ∧ a.proof = scatteredProof ∧
      Message.decode (Message.Envelope.encode
        ⟨Message.Kind.inclusionProof.tag, a.proof.encode⟩) = .ok (.inclusionProof scatteredProof) ∧
      StandsFor (.object (Tree.ofFields (scatteredFields 0xffffffffffffffff))) "leafIndex"
        a.proof.leafIndex.toNat) ∧
    ofBytes? (scatteredBody (-1)) = none := by
  obtain ⟨hspelled, hindices, -⟩ := spelled_proofs_survive (scatteredBody 0xffffffffffffffff) _
    (ofBytes?_scatteredBody (by decide))
  obtain ⟨-, -, hunfit⟩ := spelled_proofs_survive (scatteredBody (-1)) _
    (ofBytes?_scatteredBody (by decide))
  obtain ⟨a, ha, hproof, hmessage⟩ := hspelled _ _ rfl spells_scatteredFields
  have hlength : (Message.inclusionProof scatteredProof).encode.length < 2 ^ 64 := by
    rw [Message.length_encode, Message.payload, Message.InclusionProof.length_encode]
    decide
  refine ⟨⟨a, ha, hproof, hmessage hlength, (hindices a ha).2⟩, ?_⟩
  refine hunfit "leafIndex" (by decide) (.number (some (.int (-1)))) ?_ ?_
  · exact .field _ (.tail _ (.head _))
  · refine .number true ['1'] [] _ rfl ?_
    intro digits n hsign
    cases hsign

end Validium.ProofService.Answer
