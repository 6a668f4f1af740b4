import Validium.Proofs.Store.Memory

/-!
Stores that give back what was last put. In such a store a body that was put under its own
digest stays to be found: what is put later under the same key has the same digest, and what is
put under other keys is elsewhere.
-/
namespace Validium.Store

variable {W : Type}

/-- A put keeps the body when it reports that it did, and else keeps it or changes nothing;
a body that is there is returned. -/
structure Objects.Recalls (o : Objects W) (contents : W → Contents) : Prop where
  put : ∀ key body expires w,
    contents (o.put key body expires w).2 = Function.update (contents w) key (some body) ∨
      contents (o.put key body expires w).2 = contents w
  kept : ∀ key body expires w, (o.put key body expires w).1 = .returned (.ok ()) →
    contents (o.put key body expires w).2 = Function.update (contents w) key (some body)
  recalled : ∀ key w body, contents w key = some body →
    (o.get key w).1 = .returned (.ok body)

def Contents.Has (contents : Contents) (key : String) (hash : Hash) : Prop :=
  ∃ body, contents key = some body ∧ keccak body = hash

def retaining (contents : W → Contents) (key : String) (hash : Hash) : Passage W :=
  ⟨fun w w' => (contents w).Has key hash → (contents w').Has key hash, fun _ => id,
    fun hab hbc h => hbc (hab h)⟩

theorem retaining_of_steady (contents : W → Contents) (key : String) (hash : Hash) (w w' : W)
    (h : (Passage.steady contents).leads w w') : (retaining contents key hash).leads w w' := by
  intro hhas
  have hsame : contents w' = contents w := h
  rw [hsame]
  exact hhas

namespace Archive

variable {contents : W → Contents} (m : Archive W) (hm : m.objects.Recalls contents)

include hm

theorem retaining_admits_put (hash : Hash) (body : Bytes) (expires : Option Nat) :
    (retaining contents (m.objectKey hash) hash).Admits (m.put body (keccak body) expires) := by
  apply m.admits_put
  intro until? w hhas
  rcases hm.put (m.objectKey (keccak body)) body until? w with hkept | hsame
  · rw [hkept]
    by_cases hkey : m.objectKey hash = m.objectKey (keccak body)
    · have hdigest : hash = keccak body := Word.eq_of_append_digits _ _ _ _ hkey
      exact ⟨body, by rw [hkey, Function.update_self], hdigest.symm⟩
    · obtain ⟨other, hother, hdigest⟩ := hhas
      exact ⟨other, by rw [Function.update_of_ne hkey, hother], hdigest⟩
  · rw [hsame]
    exact hhas

/-- What was put is there. -/
theorem has_of_put {hash : Hash} {body : Bytes} {expires : Option Nat} {w w' : W}
    (hdigest : keccak body = hash) (h : m.put body hash expires w = (.returned (.ok ()), w')) :
    (contents w').Has (m.objectKey hash) hash := by
  obtain ⟨until?, hrun⟩ : ∃ until?, m.put body hash expires w =
      m.objects.put (m.objectKey hash) body until? w := ⟨_, rfl⟩
  rw [hrun] at h
  have hkept := hm.kept (m.objectKey hash) body until? w (congrArg Prod.fst h)
  rw [h] at hkept
  exact ⟨body, by rw [hkept, Function.update_self], hdigest⟩

theorem getByHash_of_has {hash : Hash} {w : W} (h : (contents w).Has (m.objectKey hash) hash) :
    ∃ body, (m.getByHash hash w).1 = .returned (.ok body) ∧ keccak body = hash := by
  obtain ⟨body, hbody, hdigest⟩ := h
  exact ⟨body, (m.getByHash_eq_ok_iff hash body w).mpr ⟨hm.recalled _ w body hbody, hdigest⟩,
    hdigest⟩

end Archive

theorem Memory.recalls_objects {part : Part W Memory} (hpart : part.Lawful) :
    (objects part).Recalls fun w => (part.view w).body? := by
  have hput : ∀ key body expires w,
      (part.view ((objects part).put key body expires w).2).body? =
        Function.update (part.view w).body? key (some body) := by
    intro key body expires w
    have hview : part.view ((objects part).put key body expires w).2 =
        (part.view w).insert key body expires := hpart.view_put _ _
    rw [hview, body?_insert]
  refine ⟨fun key body expires w => .inl (hput key body expires w),
    fun key body expires w _ => hput key body expires w, ?_⟩
  intro key w body hbody
  rw [get_objects hpart]
  exact congrArg Completion.returned ((answer_eq_ok_iff key _ body).mpr hbody)

end Validium.Store
