import Validium.Proofs.Store.Addressed
import Validium.Store.Memory

/-!
The store in memory, seen through its operations: reading changes nothing, and finds under
a key what the memory has there.
-/
namespace Validium.Store.Memory

variable {W : Type} {part : Part W Memory}

theorem find?_insertEntry (e : Entry) (entries : List Entry) (key : String) :
    (insertEntry e entries).find? (·.key == key) =
      if e.key = key then some e else entries.find? (·.key == key) := by
  induction entries with
  | nil => by_cases hkey : e.key = key <;> simp [insertEntry, hkey]
  | cons f rest ih =>
    unfold insertEntry
    by_cases hsame : e.key = f.key
    · rw [if_pos hsame]
      by_cases hkey : e.key = key
      · simp [hkey]
      · have hother : f.key ≠ key := fun h => hkey (hsame.trans h)
        simp [hkey, hother]
    · rw [if_neg hsame]
      by_cases hless : e.key < f.key
      · rw [if_pos hless]
        by_cases hkey : e.key = key <;> simp [hkey]
      · rw [if_neg hless]
        by_cases hother : f.key = key
        · have hkey : e.key ≠ key := fun h => hsame (h.trans hother.symm)
          simp [hkey, hother]
        · simp [hother, ih]

theorem find?_insert (m : Memory) (key : String) (body : Bytes) (expires : Option Nat) :
    (m.insert key body expires).find? =
      Function.update m.find? key (some ⟨key, body, expires⟩) := by
  funext other
  unfold find? insert
  rw [find?_insertEntry]
  by_cases hkey : key = other
  · subst hkey
    simp
  · have hother : other ≠ key := Ne.symm hkey
    simp [hkey, hother]

/-- Keeping a body changes what is found under its key, and nothing else. -/
theorem body?_insert (m : Memory) (key : String) (body : Bytes) (expires : Option Nat) :
    (m.insert key body expires).body? = Function.update m.body? key (some body) := by
  funext other
  unfold body?
  rw [find?_insert]
  by_cases hkey : other = key
  · subst hkey
    simp
  · rw [Function.update_of_ne hkey, Function.update_of_ne hkey]

/-- Entries under different keys get the same places in either order. -/
theorem insertEntry_comm {e f : Entry} (h : e.key ≠ f.key) (entries : List Entry) :
    insertEntry e (insertEntry f entries) = insertEntry f (insertEntry e entries) := by
  induction entries with
  | nil => grind [insertEntry]
  | cons first rest ih => grind [insertEntry]

theorem insertEntry_insertEntry {e f : Entry} (h : e.key = f.key) (entries : List Entry) :
    insertEntry e (insertEntry f entries) = insertEntry e entries := by
  induction entries with
  | nil => simp [insertEntry, h]
  | cons first rest ih => grind [insertEntry]

def answer (key : String) : Option Bytes → Except Fault Bytes
  | some body => .ok body
  | none => .error (.notFound key)

theorem answer_eq_ok_iff (key : String) (found : Option Bytes) (body : Bytes) :
    answer key found = .ok body ↔ found = some body := by
  cases found <;> simp [answer]

theorem get_objects (hpart : part.Lawful) (key : String) (w : W) :
    (objects part).get key w = (.returned (answer key ((part.view w).body? key)), w) := by
  have hrun : (objects part).get key w = part.run (fun m =>
      match m.body? key with
      | some body => (.returned (.ok body), m)
      | none => (.returned (.error (.notFound key)), m)) w := rfl
  rw [hrun, Part.run]
  cases (part.view w).body? key with
  | some body => exact Prod.ext rfl (hpart.put_view w)
  | none => exact Prod.ext rfl (hpart.put_view w)

/-- What the memory has under each key is what it holds as a store. -/
theorem holds_objects (hpart : part.Lawful) :
    (objects part).Holds fun w => (part.view w).body? := by
  refine ⟨?_, ?_, ?_, ?_⟩
  · intro key body expires w
    left
    have hview : part.view ((objects part).put key body expires w).2 =
        (part.view w).insert key body expires := hpart.view_put _ _
    rw [hview, body?_insert]
  · intro key w
    rw [get_objects hpart]
  · intro key w body hfound
    rw [get_objects hpart] at hfound
    exact (answer_eq_ok_iff key _ body).mp (Completion.returned.inj hfound)
  · intro key w other hcorrupt
    rw [get_objects hpart] at hcorrupt
    cases hbody : (part.view w).body? key <;> rw [hbody] at hcorrupt <;> cases hcorrupt

theorem eq_of_reading (hpart : part.Lawful) {w w' : W}
    (h : (objects part).reading.leads w w') : w' = w := by
  induction h with
  | refl => rfl
  | tail _ hget ih =>
    obtain ⟨key, rfl⟩ := hget
    rw [get_objects hpart, ih]

/-- A body is stored exactly when the memory has it under the key of the hash. -/
theorem stored_iff (hpart : part.Lawful) (policy : Policy) (w : W) (hash : Hash) (body : Bytes) :
    (Archive.mk (objects part) policy).Stored w hash body ↔
      (part.view w).body? (Archive.keyOf policy hash) = some body := by
  rw [← answer_eq_ok_iff (Archive.keyOf policy hash)]
  constructor
  · rintro ⟨w', hreads, hget⟩
    rw [eq_of_reading hpart hreads, get_objects hpart] at hget
    exact Completion.returned.inj hget
  · intro hbody
    refine ⟨w, (objects part).reading.refl w, ?_⟩
    rw [get_objects hpart]
    exact congrArg Completion.returned hbody

/-- Reading changes nothing, and each hash has its own answer. -/
theorem readEach_objects (hpart : part.Lawful) (policy : Policy) (hashes : List Hash) (w : W) :
    (Archive.mk (objects part) policy).readEach hashes w =
      (hashes.map fun hash => .returned (answer (Archive.keyOf policy hash)
        ((part.view w).body? (Archive.keyOf policy hash))), w) := by
  induction hashes with
  | nil => rfl
  | cons hash rest ih =>
    have hrun : (Archive.mk (objects part) policy).readEach (hash :: rest) w =
        (((objects part).get (Archive.keyOf policy hash) w).1 ::
            ((Archive.mk (objects part) policy).readEach rest
              ((objects part).get (Archive.keyOf policy hash) w).2).1,
          ((Archive.mk (objects part) policy).readEach rest
            ((objects part).get (Archive.keyOf policy hash) w).2).2) := by
      rw [Archive.readEach, List.mapM_cons]
      rfl
    rw [hrun, get_objects hpart, ih]
    rfl

/-- All hashes are served exactly when the memory has, under the key of each, a body with
that digest. -/
theorem serves_iff (hpart : part.Lawful) (policy : Policy) (w : W) (hashes : List Hash)
    (bodies : List Bytes) :
    (Archive.mk (objects part) policy).Serves w hashes bodies ↔
      (hashes.map fun hash => (part.view w).body? (Archive.keyOf policy hash)) =
        bodies.map some ∧ bodies.map keccak = hashes := by
  have hanswers : (hashes.map fun hash => (Completion.returned (answer (Archive.keyOf policy hash)
        ((part.view w).body? (Archive.keyOf policy hash))))) =
          bodies.map (fun body => .returned (.ok body)) ↔
      (hashes.map fun hash => (part.view w).body? (Archive.keyOf policy hash)) =
        bodies.map some := by
    induction hashes generalizing bodies with
    | nil => simp
    | cons hash rest ih => cases bodies <;> simp [ih, answer_eq_ok_iff]
  constructor
  · intro h
    have hreturned := h.returned
    rw [readEach_objects hpart] at hreturned
    exact ⟨hanswers.mp hreturned, h.digests⟩
  · intro h
    refine ⟨?_, h.2⟩
    rw [readEach_objects hpart]
    exact hanswers.mpr h.1

end Validium.Store.Memory
