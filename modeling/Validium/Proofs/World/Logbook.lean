import Validium.Attestation.Reader
import Validium.Chain.Basic
import Validium.Proofs.World.Accord
import Validium.Store.Object

/-!
A log kept beside a world. Of what an operation does to its surroundings some is noted: what
the chain reported on a submission, what a service answered to a request, and which objects
were put. All else goes on as if there were no log, so an operation on parts that note accords
with the same operation on the parts themselves.
-/
namespace Validium

variable {W α : Type}

inductive Logbook.Entry where
  | submitted (blob : Bytes) (outcome : Completion (Except Chain.Error Inclusion))
  | exchanged (request : Http.Request) (outcome : Http.Outcome)
  | put (key : String) (body : Bytes) (expires : Option Nat)

abbrev Logbook := List Logbook.Entry

namespace Logbook

def Entry.isPut : Entry → Bool
  | .put .. => true
  | _ => false

def unnoted (x : StateM W α) : StateM (W × Logbook) α := fun s => ((x s.1).1, (x s.1).2, s.2)

def noted (note : α → Entry) (x : StateM W α) : StateM (W × Logbook) α := fun s =>
  ((x s.1).1, (x s.1).2, s.2 ++ [note (x s.1).1])

def Of (s : W × Logbook) (w : W) : Prop := s.1 = w

theorem accord_unnoted (x : StateM W α) : Accord Of (unnoted x) x := by
  rintro s w rfl
  exact ⟨rfl, rfl⟩

theorem accord_noted (note : α → Entry) (x : StateM W α) : Accord Of (noted note x) x := by
  rintro s w rfl
  exact ⟨rfl, rfl⟩

end Logbook

open Logbook

def Signal.besideLog (signal : Signal W) : Signal (W × Logbook) := ⟨fun s => signal.fired s.1⟩

theorem Signal.fired_besideLog (signal : Signal W) :
    ∀ s w, Of s w → signal.besideLog.fired s = signal.fired w := by
  rintro s w rfl
  rfl

def Clock.besideLog (clock : Clock W) : Clock (W × Logbook) :=
  ⟨fun d => unnoted (clock.sleep d), fun d => unnoted (clock.spread d)⟩

def Network.besideLog (network : Network W) : Network (W × Logbook) :=
  ⟨fun r => unnoted (network.exchange r)⟩

def Network.noting (network : Network W) : Network (W × Logbook) :=
  ⟨fun r => noted (.exchanged r) (network.exchange r)⟩

def Chain.noting (chain : Chain W) : Chain (W × Logbook) where
  submit blob := noted (.submitted blob) (chain.submit blob)
  fetch block index kind := unnoted (chain.fetch block index kind)

def Attestation.Reader.besideLog (reader : Reader W) : Reader (W × Logbook) :=
  ⟨fun leaf => unnoted (reader.read leaf)⟩

def Store.Objects.noting (objects : Objects W) : Objects (W × Logbook) where
  name := objects.name
  put key body expires := noted (fun _ => .put key body expires) (objects.put key body expires)
  get key := unnoted (objects.get key)
  health := unnoted objects.health

section Parts

variable (clock : Clock W) (network : Network W) (objects : Store.Objects W)

theorem Clock.accord_sleep (d : Duration) : Accord Of (clock.besideLog.sleep d) (clock.sleep d) :=
  accord_unnoted _

theorem Clock.accord_spread (d : Duration) :
    Accord Of (clock.besideLog.spread d) (clock.spread d) :=
  accord_unnoted _

theorem Network.accord_besideLog (r : Http.Request) :
    Accord Of (network.besideLog.exchange r) (network.exchange r) :=
  accord_unnoted _

theorem Network.accord_noting (r : Http.Request) :
    Accord Of (network.noting.exchange r) (network.exchange r) :=
  accord_noted _ _

theorem Store.Objects.accord_put (key : String) (body : Bytes) (expires : Option Nat) :
    Accord Of (objects.noting.put key body expires) (objects.put key body expires) :=
  accord_noted _ _

end Parts

namespace Logbook

/-- Every put of the log directly follows an entry that allows it. -/
def Guarded (allows : Entry → Entry → Prop) (log : Logbook) : Prop :=
  ∀ earlier e later, log = earlier ++ e :: later → e.isPut = true →
    ∃ before a, earlier = before ++ [a] ∧ allows a e

structure Joins (P : Logbook → Prop) : Prop where
  nil : P []
  append : ∀ {log later}, P log → P later → P (log ++ later)

theorem joins_any : Joins fun _ => True := ⟨trivial, fun _ _ => trivial⟩

theorem joins_guarded (allows : Entry → Entry → Prop) : Joins (Guarded allows) := by
  refine ⟨?_, ?_⟩
  · intro earlier e later h
    exact absurd h (by simp)
  · intro log next hlog hnext earlier e later h hput
    rcases List.append_eq_append_iff.mp h with ⟨middle, rfl, hmiddle⟩ | ⟨middle, hmiddle, hrest⟩
    · obtain ⟨before, a, rfl, hallows⟩ := hnext middle e later hmiddle hput
      exact ⟨log ++ before, a, (List.append_assoc log before [a]).symm, hallows⟩
    · cases middle with
      | nil =>
        obtain ⟨before, a, hnone, -⟩ := hnext [] e later hrest.symm hput
        exact absurd hnone (by simp)
      | cons head tail =>
        obtain ⟨rfl, -⟩ := List.cons.inj hrest
        exact hlog earlier e tail hmiddle hput

/-- Where nothing is put, nothing has to be allowed. -/
theorem guarded_of_not_isPut {allows : Entry → Entry → Prop} {log : Logbook}
    (h : ∀ e ∈ log, e.isPut = false) : Guarded allows log := by
  rintro earlier e later rfl hput
  have hnot := h e (List.mem_append_right _ List.mem_cons_self)
  rw [hput] at hnot
  cases hnot

theorem guarded_pair {allows : Entry → Entry → Prop} {a e : Entry} (ha : a.isPut = false)
    (h : allows a e) : Guarded allows [a, e] := by
  intro earlier e' later heq hput
  rcases earlier with _ | ⟨b, _ | ⟨c, rest⟩⟩
  · obtain ⟨rfl, -⟩ := List.cons.inj heq
    rw [hput] at ha
    cases ha
  · obtain ⟨rfl, hrest⟩ := List.cons.inj heq
    obtain ⟨rfl, -⟩ := List.cons.inj hrest
    exact ⟨[], a, rfl, h⟩
  · have hlength := congrArg List.length heq
    simp at hlength

def adding {P : Logbook → Prop} (hP : Joins P) : Passage (W × Logbook) where
  leads s s' := ∃ added, s'.2 = s.2 ++ added ∧ P added
  refl s := ⟨[], (List.append_nil s.2).symm, hP.nil⟩
  trans := by
    rintro a b c ⟨added, hb, hadded⟩ ⟨later, hc, hlater⟩
    exact ⟨added ++ later, by rw [hc, hb, List.append_assoc], hP.append hadded hlater⟩

theorem steady_admits_unnoted (x : StateM W α) :
    (Passage.steady Prod.snd).Admits (unnoted x) := by
  intro s
  rfl

variable {P : Logbook → Prop} (hP : Joins P)

theorem adding_of_steady (s s' : W × Logbook) (h : (Passage.steady Prod.snd).leads s s') :
    (adding hP).leads s s' := by
  have hsame : s'.2 = s.2 := h
  exact ⟨[], by rw [hsame, List.append_nil], hP.nil⟩

theorem adding_admits_unnoted (x : StateM W α) : (adding hP).Admits (unnoted x) :=
  (steady_admits_unnoted x).mono (adding_of_steady hP)

theorem adding_admits_noted (note : α → Entry) (x : StateM W α) (h : ∀ a, P [note a]) :
    (adding hP).Admits (noted note x) := by
  intro s
  exact ⟨_, rfl, h _⟩

end Logbook

end Validium
