import Validium.Proofs.Pool.Serial
import Validium.Proofs.Store.Memory
import Validium.Proofs.Store.Slotwise

/-!
Several puts into memory come to one end. Each body goes under the key of its own digest, so two
puts either write under different keys or, unless two bodies share a digest, write the same; in
whatever order the workers come to their puts, the memory they leave behind is one and the same.
It has every body where its digest leads, it gives the bodies back in their order, and putting
them once more leaves it as it is.
-/
namespace Validium.Store

variable {W : Type}

namespace Memory

variable (policy : Policy)

def keep (m : Memory) (body : Bytes) : Memory :=
  m.insert (Archive.keyOf policy (keccak body)) body none

def keepAll (bodies : List Bytes) (m : Memory) : Memory := bodies.foldl (keep policy) m

variable {policy}

theorem keyOf_inj {hash other : Hash} :
    Archive.keyOf policy hash = Archive.keyOf policy other ↔ hash = other :=
  ⟨Word.eq_of_append_digits policy.keyHead policy.keyHead hash other, congrArg _⟩

theorem keep_comm {a b : Bytes} (h : keccak a = keccak b → a = b) (m : Memory) :
    keep policy (keep policy m a) b = keep policy (keep policy m b) a := by
  by_cases hdigest : keccak a = keccak b
  · rw [h hdigest]
  · exact congrArg Memory.mk (insertEntry_comm (fun hkey => hdigest (keyOf_inj.mp hkey).symm) _)

theorem keep_keep (m : Memory) (body : Bytes) :
    keep policy (keep policy m body) body = keep policy m body :=
  congrArg Memory.mk (insertEntry_insertEntry rfl _)

theorem keepAll_concat (bodies : List Bytes) (body : Bytes) (m : Memory) :
    keepAll policy (bodies ++ [body]) m = keep policy (keepAll policy bodies m) body :=
  List.foldl_concat ..

section Collisions

variable {bodies : List Bytes} (hcollision : Set.InjOn keccak {body | body ∈ bodies})

include hcollision

theorem keepAll_perm {others : List Bytes} (h : bodies.Perm others) (m : Memory) :
    keepAll policy bodies m = keepAll policy others m :=
  h.foldl_eq' (fun _ ha _ hb m => keep_comm (fun hdigest => hcollision ha hb hdigest) m) m

/-- A body that has been kept may be taken for the last of them. -/
theorem keep_keepAll_of_mem {body : Bytes} (h : body ∈ bodies) (m : Memory) :
    keep policy (keepAll policy bodies m) body = keepAll policy bodies m := by
  have hlast : bodies.Perm (bodies.erase body ++ [body]) :=
    (List.perm_cons_erase h).trans (List.perm_append_singleton _ _).symm
  rw [keepAll_perm hcollision hlast, keepAll_concat, keep_keep]

theorem keepAll_keepAll (again : List Bytes) (h : ∀ body ∈ again, body ∈ bodies) (m : Memory) :
    keepAll policy again (keepAll policy bodies m) = keepAll policy bodies m := by
  induction again with
  | nil => rfl
  | cons body again ih =>
    have hhead : keep policy (keepAll policy bodies m) body = keepAll policy bodies m :=
      keep_keepAll_of_mem hcollision (h body List.mem_cons_self) m
    rw [keepAll, List.foldl_cons, hhead]
    exact ih fun other hother => h other (List.mem_cons_of_mem body hother)

/-- The last put under a key is found there, without a time of expiry. -/
theorem find?_keepAll_of_mem {body : Bytes} (h : body ∈ bodies) (m : Memory) :
    (keepAll policy bodies m).find? (Archive.keyOf policy (keccak body)) =
      some ⟨Archive.keyOf policy (keccak body), body, none⟩ := by
  rw [← keep_keepAll_of_mem hcollision h, keep, find?_insert, Function.update_self]

end Collisions

theorem find?_keepAll_of_ne {bodies : List Bytes} {key : String}
    (h : ∀ body ∈ bodies, key ≠ Archive.keyOf policy (keccak body)) (m : Memory) :
    (keepAll policy bodies m).find? key = m.find? key := by
  induction bodies generalizing m with
  | nil => rfl
  | cons body rest ih =>
    rw [keepAll, List.foldl_cons]
    refine (ih (fun other hother => h other (List.mem_cons_of_mem body hother)) _).trans ?_
    rw [keep, find?_insert, Function.update_of_ne (h body List.mem_cons_self)]

end Memory

namespace Archive

variable (m : Archive W)

/-- Several puts, each in one step of its worker, come to these slots and this world, however
the workers go on. -/
def PutsSurely (bodies : List Bytes) (w : W) (slots : Slots Hash) (w' : W) : Prop :=
  m.EachSurely (bodies.map fun body => m.objectKey (keccak body))
    (bodies.map fun body => .ofAction (m.keepOne body)) w fun found v => found = slots ∧ v = w'

def ReadsSurely (hashes : List Hash) (w : W) (slots : Slots Bytes) (w' : W) : Prop :=
  m.EachSurely (hashes.map m.objectKey) (hashes.map fun hash => .ofAction (m.readOne hash)) w
    fun found v => found = slots ∧ v = w'

theorem readOne_snd (hash : Hash) (w : W) :
    (m.readOne hash w).2 = (m.objects.get (m.objectKey hash) w).2 := by
  rw [readOne, bind_apply]
  cases (m.objects.get (m.objectKey hash) w).1 <;> rfl

variable {m} {signal : Signal W} (hquiet : signal.Quiet)
  (hpermits : m.policy.concurrency.toNat ≤ Pool.maxPermits)

include hquiet hpermits

theorem PutsSurely.putMultiple {bodies : List Bytes} {w w' : W} {slots : Slots Hash}
    (h : m.PutsSurely bodies w slots w') : m.putMultiple signal bodies w = (.ok slots, w') := by
  obtain ⟨found, hfound, rfl, rfl⟩ := EachSurely.each h hquiet hpermits
  rw [List.map_map] at hfound ⊢
  exact Prod.ext hfound rfl

theorem ReadsSurely.getMultiple {hashes : List Hash} {w w' : W} {slots : Slots Bytes}
    (h : m.ReadsSurely hashes w slots w') : m.getMultiple signal hashes w = (.ok slots, w') := by
  obtain ⟨found, hfound, rfl, rfl⟩ := EachSurely.each h hquiet hpermits
  rw [List.map_map] at hfound ⊢
  exact Prod.ext hfound rfl

end Archive

namespace Memory

section Runs

variable {part : Part W Memory} (hpart : part.Lawful) {policy : Policy}

theorem keepOne_objects (body : Bytes) (w : W) :
    (Archive.mk (objects part) policy).keepOne body w =
      (.returned (.ok (keccak body)), part.put (keep policy (part.view w) body) w) := rfl

include hpart

/-- Puts done one after another leave what they keep and nothing else. -/
theorem world_of_serial {w w' : W} {done : List (Bytes × Completion (Except Fault Hash))}
    (h : Pool.Serial (Archive.mk (objects part) policy).keepOne w done w') :
    w' = part.put (keepAll policy (done.map Prod.fst) (part.view w)) w := by
  induction h with
  | nil => exact (hpart.put_view w).symm
  | @snoc done v w' e _ hstep ih =>
    rw [keepOne_objects, ih, hpart.view_put, hpart.put_put] at hstep
    rw [List.map_append, List.map_singleton, keepAll_concat]
    exact (congrArg Prod.snd hstep).symm

/-- Each of the bodies is served under its digest. -/
theorem getByHash_put_keepAll {bodies : List Bytes}
    (hcollision : Set.InjOn keccak {body | body ∈ bodies}) (m : Memory) (w : W) {body : Bytes}
    (h : body ∈ bodies) :
    ((Archive.mk (objects part) policy).getByHash (keccak body)
      (part.put (keepAll policy bodies m) w)).1 = .returned (.ok body) := by
  refine (Archive.getByHash_eq_ok_iff _ _ _ _).mpr ⟨?_, rfl⟩
  rw [get_objects hpart, hpart.view_put, body?]
  exact congrArg (fun entry => Completion.returned (answer _ (entry.map Entry.body)))
    (find?_keepAll_of_mem hcollision h m)

variable (hpermits : policy.concurrency.toNat ≤ Pool.maxPermits)

include hpermits

/-- Every schedule of the puts ends with all digests and with one and the same store. -/
theorem putsSurely {bodies : List Bytes}
    (hcollision : Set.InjOn keccak {body | body ∈ bodies}) (w : W) :
    (Archive.mk (objects part) policy).PutsSurely bodies w (.full (bodies.map keccak))
      (part.put (keepAll policy bodies (part.view w)) w) := by
  refine Pool.surely_of_serial (Pool.permits_pos _)
    (Archive.permits_effectiveConcurrency policy hpermits) (fun _ => True)
    (fun body => .returned (.ok (keccak body))) trivial (fun _ _ _ _ => ⟨rfl, trivial⟩) ?_
  intro done w' hdone hserial _
  refine ⟨?_, ?_⟩
  · rw [← Slots.ofResults_map_ok, List.map_map, List.map_map]
    rfl
  · rw [world_of_serial hpart hserial, keepAll_perm hcollision hdone.symm]

/-- Reads leave the memory as it is, so they find what each finds alone. -/
theorem readsSurely (hashes : List Hash) (w : W) :
    (Archive.mk (objects part) policy).ReadsSurely hashes w
      (Slots.ofResults (hashes.map (Archive.keyOf policy))
        (hashes.map fun hash =>
          settle ((Archive.mk (objects part) policy).getByHash hash w).1)) w := by
  have hread : ∀ hash, ((Archive.mk (objects part) policy).readOne hash w).2 = w := by
    intro hash
    rw [Archive.readOne_snd]
    exact congrArg Prod.snd (get_objects hpart _ w)
  refine Pool.surely_of_serial (Pool.permits_pos _)
    (Archive.permits_effectiveConcurrency policy hpermits) (· = w)
    (fun hash => ((Archive.mk (objects part) policy).readOne hash w).1) rfl ?_ ?_
  · rintro hash - v rfl
    exact ⟨rfl, hread hash⟩
  · rintro done w' - - rfl
    rw [Archive.map_settle_readOne]
    exact ⟨rfl, rfl⟩

end Runs

structure Leaves (part : Part W Memory) (policy : Policy) (bodies : List Bytes) (w : W)
    (final : Memory) : Prop where
  kept : ∀ body ∈ bodies, final.find? (Archive.keyOf policy (keccak body)) =
    some ⟨Archive.keyOf policy (keccak body), body, none⟩
  others : ∀ key, (∀ body ∈ bodies, key ≠ Archive.keyOf policy (keccak body)) →
    final.find? key = (part.view w).find? key
  puts : (Archive.mk (objects part) policy).PutsSurely bodies w (.full (bodies.map keccak))
    (part.put final w)
  reads : (Archive.mk (objects part) policy).ReadsSurely (bodies.map keccak) (part.put final w)
    (.full bodies) (part.put final w)
  again : ∀ again : List Bytes, again.Perm bodies →
    (Archive.mk (objects part) policy).PutsSurely again (part.put final w)
      (.full (again.map keccak)) (part.put final w)

/-- Bodies of which no two share a digest are put into memory with one end, in whatever order
the workers put them: under a signal that never fires, the operations themselves come to it. -/
theorem putMultiple_confluent {part : Part W Memory} (hpart : part.Lawful) (policy : Policy)
    (hpermits : policy.concurrency.toNat ≤ Pool.maxPermits) (bodies : List Bytes)
    (hcollision : Set.InjOn keccak {body | body ∈ bodies}) (w : W) :
    ∃ final : Memory, Leaves part policy bodies w final ∧
      ∀ signal : Signal W, signal.Quiet →
        (Archive.mk (objects part) policy).putMultiple signal bodies w =
          (.ok (.full (bodies.map keccak)), part.put final w) ∧
        (Archive.mk (objects part) policy).getMultiple signal (bodies.map keccak)
          (part.put final w) = (.ok (.full bodies), part.put final w) ∧
        ∀ again : List Bytes, again.Perm bodies →
          (Archive.mk (objects part) policy).putMultiple signal again (part.put final w) =
            (.ok (.full (again.map keccak)), part.put final w) := by
  have hleaves : Leaves part policy bodies w (keepAll policy bodies (part.view w)) := by
    refine ⟨fun body hbody => find?_keepAll_of_mem hcollision hbody _,
      fun key hkey => find?_keepAll_of_ne hkey _, putsSurely hpart hpermits hcollision w, ?_, ?_⟩
    · have hreads := readsSurely hpart hpermits (bodies.map keccak)
        (part.put (keepAll policy bodies (part.view w)) w)
      have hfound : (bodies.map keccak).map (fun hash => settle ((Archive.mk (objects part)
          policy).getByHash hash (part.put (keepAll policy bodies (part.view w)) w)).1) =
            bodies.map Except.ok := by
        rw [List.map_map]
        exact List.map_congr_left fun body hbody => congrArg settle
          (getByHash_put_keepAll hpart hcollision (part.view w) w hbody)
      rwa [hfound, Slots.ofResults_map_ok] at hreads
    · intro again hagain
      have hsame : Set.InjOn keccak {body | body ∈ again} :=
        hcollision.mono fun body hbody => hagain.mem_iff.mp hbody
      have hputs := putsSurely hpart hpermits hsame
        (part.put (keepAll policy bodies (part.view w)) w)
      rwa [hpart.view_put, hpart.put_put,
        keepAll_keepAll hcollision again fun body => hagain.mem_iff.mp] at hputs
  refine ⟨_, hleaves, fun signal hquiet => ⟨?_, ?_, ?_⟩⟩
  · exact hleaves.puts.putMultiple hquiet hpermits
  · exact hleaves.reads.getMultiple hquiet hpermits
  · exact fun again hagain => (hleaves.again again hagain).putMultiple hquiet hpermits

theorem keccak_one_ne_two : keccak [1] ≠ keccak [2] := by
  decide +kernel

/-- Two bodies, the first of them twice, put by three workers with two permits. -/
theorem putMultiple_confluent_repeated :
    let policy : Policy := ⟨"batches/", 2, false⟩
    let bodies : List Bytes := [[1], [2], [1]]
    (Part.whole : Part Memory Memory).Lawful ∧ policy.concurrency.toNat ≤ Pool.maxPermits ∧
      Set.InjOn keccak {body | body ∈ bodies} ∧
      ∃ (final : Memory) (slots : Slots Bytes), Leaves Part.whole policy bodies empty final ∧
        (Archive.mk (objects Part.whole) policy).getMultiple .never (bodies.map keccak) final =
          (.ok slots, final) ∧ slots.toResult = .ok bodies := by
  intro policy bodies
  have hwhole : (Part.whole : Part Memory Memory).Lawful :=
    ⟨fun _ _ => rfl, fun _ => rfl, fun _ _ _ => rfl⟩
  have hpermits : policy.concurrency.toNat ≤ Pool.maxPermits := by decide
  have hcollision : Set.InjOn keccak {body | body ∈ bodies} := by
    have heither : ∀ body ∈ bodies, body = [1] ∨ body = [2] := by simp [bodies]
    intro a ha b hb hsame
    rcases heither a ha with rfl | rfl <;> rcases heither b hb with rfl | rfl
    · rfl
    · exact absurd hsame keccak_one_ne_two
    · exact absurd hsame.symm keccak_one_ne_two
    · rfl
  obtain ⟨final, hleaves, hlisted⟩ :=
    putMultiple_confluent hwhole policy hpermits bodies hcollision empty
  exact ⟨hwhole, hpermits, hcollision, final, .full bodies, hleaves,
    (hlisted .never Signal.quiet_never).2.1, Slots.toResult_full bodies⟩

end Memory

end Validium.Store
