import Validium.Proofs.Hex
import Validium.Proofs.Store.Archive

/-!
Objects under their digests. The contents of a store are addressed behind a head when no key
that is the head and the digits of a hash has a body with another hash. A body that is put
under its own digest leaves them addressed, behind whatever head it is put; and as long as
they are addressed no read behind the head finds a corrupt object.
-/
namespace Validium.Store

variable {W α : Type}

abbrev Contents := String → Option Bytes

def Contents.Addressed (contents : Contents) (head : String) : Prop :=
  ∀ (hash : Hash) (body : Bytes), contents (head ++ hash.digits) = some body → keccak body = hash

theorem Contents.Addressed.update {contents : Contents} {head : String}
    (h : contents.Addressed head) (head' : String) (body : Bytes) :
    Contents.Addressed
      (Function.update contents (head' ++ (keccak body).digits) (some body)) head := by
  intro hash other hother
  by_cases hkey : head ++ hash.digits = head' ++ (keccak body).digits
  · rw [hkey, Function.update_self] at hother
    cases hother
    exact (Word.eq_of_append_digits head head' hash (keccak body) hkey).symm
  · rw [Function.update_of_ne hkey] at hother
    exact h hash other hother

/-- A store with contents. Whatever a put reports, it keeps the body or changes nothing;
reading changes nothing and finds what is there; and no digest means anything to the store. -/
structure Objects.Holds (o : Objects W) (contents : W → Contents) : Prop where
  put : ∀ key body expires w,
    contents (o.put key body expires w).2 = Function.update (contents w) key (some body) ∨
      contents (o.put key body expires w).2 = contents w
  get : ∀ key w, contents (o.get key w).2 = contents w
  found : ∀ key w body,
    (o.get key w).1 = .returned (.ok body) → contents w key = some body
  honest : ∀ key w other, (o.get key w).1 ≠ .returned (.error (.corrupt other))

def addressing (contents : W → Contents) (head : String) : Passage W :=
  ⟨fun w w' => (contents w).Addressed head → (contents w').Addressed head, fun _ => id,
    fun hab hbc h => hbc (hab h)⟩

theorem addressing_of_steady (contents : W → Contents) (head : String) (w w' : W)
    (h : (Passage.steady contents).leads w w') : (addressing contents head).leads w w' := by
  intro haddressed
  have hsame : contents w' = contents w := h
  rw [hsame]
  exact haddressed

namespace Archive

variable {contents : W → Contents} (m : Archive W) (hm : m.objects.Holds contents)

include hm

/-- An archive may put a body under its own digest, whatever becomes of the put. -/
theorem addressing_admits_objects_put (head : String) (body : Bytes) (expires : Option Nat) :
    (addressing contents head).Admits
      (m.objects.put (m.objectKey (keccak body)) body expires) := by
  intro w haddressed
  rcases hm.put (m.objectKey (keccak body)) body expires w with hkept | hsame
  · rw [hkept]
    exact haddressed.update m.policy.keyHead body
  · rw [hsame]
    exact haddressed

theorem addressing_admits_put (head : String) (body : Bytes) (hash : Hash)
    (expires : Option Nat) (hdigest : keccak body = hash) :
    (addressing contents head).Admits (m.put body hash expires) := by
  apply m.admits_put
  intro until?
  rw [← hdigest]
  exact m.addressing_admits_objects_put hm head body until?

theorem addressing_admits_putMultiple (head : String) (signal : Signal W)
    (bodies : List Bytes) :
    (addressing contents head).Admits (m.putMultiple signal bodies) := by
  apply m.admits_putMultiple
  intro body
  exact m.addressing_admits_objects_put hm head body none

theorem steady_admits_get (key : String) :
    (Passage.steady contents).Admits (m.objects.get key) := by
  intro w
  exact hm.get key w

/-- A read of addressed contents does not find a corrupt object. -/
theorem getByHash_ne_corrupt (hash : Hash) (w : W)
    (h : (contents w).Addressed m.policy.keyHead) (key : String) :
    (m.getByHash hash w).1 ≠ .returned (.error (.corrupt key)) := by
  have hread : (m.getByHash hash w).1 = (m.objects.get (m.objectKey hash) w).1.map
      (· >>= verify (m.objectKey hash) hash) := rfl
  intro hcorrupt
  rw [hread] at hcorrupt
  cases hcompletion : (m.objects.get (m.objectKey hash) w).1 with
  | brokeDown =>
    rw [hcompletion] at hcorrupt
    cases hcorrupt
  | returned result =>
    rw [hcompletion] at hcorrupt
    cases result with
    | error fault =>
      cases hcorrupt
      exact hm.honest _ w key hcompletion
    | ok body =>
      have hdigest : keccak body = hash := h hash body (hm.found _ w body hcompletion)
      have hverified : verify (m.objectKey hash) hash body = .ok body := if_pos hdigest
      have hbody : verify (m.objectKey hash) hash body = .error (.corrupt key) :=
        Completion.returned.inj hcorrupt
      rw [hverified] at hbody
      cases hbody

/-- Neither does one of several reads, whenever the signal fires. -/
theorem getMultiple_ne_corrupt (signal : Signal W) (hashes : List Hash) (w : W)
    (h : (contents w).Addressed m.policy.keyHead) (slots : Slots Bytes)
    (hslots : (m.getMultiple signal hashes w).1 = .ok slots) (f : Failure)
    (hf : f ∈ slots.errors.failures) (key : String) : f.fault ≠ .corrupt key := by
  have hreads : ∀ job ∈ hashes.map m.readOne, (Passage.steady contents).Admits job := by
    intro job hjob
    obtain ⟨hash, -, rfl⟩ := List.mem_map.mp hjob
    exact m.admits_readOne _ hash (m.steady_admits_get hm _)
  obtain ⟨job, hjob, w', hw', hend⟩ :=
    m.exists_job_of_failure (Passage.steady contents) signal _ _ hreads w slots hslots f hf
  obtain ⟨hash, -, rfl⟩ := List.mem_map.mp hjob
  have hsame : contents w' = contents w := hw'
  rw [← hsame] at h
  intro hcorrupt
  rw [hcorrupt, m.readOne_eq] at hend
  exact m.getByHash_ne_corrupt hm hash w' h key (eq_of_settle_eq_corrupt hend)

end Archive

end Validium.Store
