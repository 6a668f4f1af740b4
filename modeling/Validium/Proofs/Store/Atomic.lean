import Mathlib
import Validium.Proofs.Store.Location
import Validium.Proofs.Store.Puts

/-!
Puts to a file store are atomic, and each is confined to its own object. The file of an object
changes only when a put of that object moves a complete body there, all at once. From then on
that body is what is read, until another such put comes that far. A put that returns a fault has
moved nothing, and a put that has returned has left no staged file, unless it could not remove
it.
-/
namespace Validium.Store

variable {σ : Shelf} {hash : Hash} {body : Bytes}

/-- What is read is the file of the object. -/
theorem Shelf.get_ok_iff {fs : FileSystem} :
    FileSystem.get σ.root (σ.key hash) fs = .ok body ↔
      (∃ path, Location.pathFor σ.root (σ.key hash) = .ok path) ∧
        fs.disk.resolve (σ.route hash) = .ok (σ.route hash).place ∧
        σ.object? hash fs = some body := by
  cases hpath : Location.pathFor σ.root (σ.key hash) with
  | error fault => simp [FileSystem.get, hpath]
  | ok path =>
    have hroute : Disk.Route.ofText path = σ.route hash := by
      rw [((Location.pathFor_eq_ok_iff ..).mp hpath).2]
      rfl
    have hget : FileSystem.get σ.root (σ.key hash) fs = .ok body ↔
        fs.disk.read (σ.route hash) = .ok body := by
      rw [FileSystem.get, hpath]
      simp only [hroute]
      cases fs.disk.read (σ.route hash) with
      | ok other => simp
      | error fault => cases fault <;> simp
    rw [hget]
    constructor
    · intro hread
      obtain ⟨hplace, -⟩ := Disk.resolve_bind_ok hread
      exact ⟨⟨path, rfl⟩, hplace, Disk.read_ok hread⟩
    · rintro ⟨-, hplace, hfile⟩
      exact Disk.read_of_file? hplace hfile

namespace Puts

def Site.requests (s : Site) : List (Hash × Bytes) :=
  s.puts.map fun put => (put.hash, put.body)

/-- No put of an object has moved its body into place. -/
def Untouched (requests : List (Hash × Bytes)) (hash : Hash) (es : List Event) : Prop :=
  ∀ i body, .turn i .move ∈ es → requests[i]? ≠ some (hash, body)

variable {s t : Site} {es : List Event} {e : Event} {start : Nat}

section Steps

theorem requests_turn {i : Nat} {put : Put} (stage : Stage) (hput : s.puts[i]? = some put)
    (fs : FileSystem) :
    Site.requests ⟨fs, s.puts.set i { put with stage := stage }⟩ = s.requests :=
  map_set_same _ hput rfl

theorem requests_of_step (h : Step σ s e t) {i : Nat} {request : Hash × Bytes}
    (hrequest : s.requests[i]? = some request) : t.requests[i]? = some request := by
  cases h with
  | begin hash body =>
    obtain ⟨hi, -⟩ := List.getElem?_eq_some_iff.mp hrequest
    rw [Site.requests, List.map_append]
    exact (List.getElem?_append_left hi).trans hrequest
  | turn i act put fs stage hput hturn =>
    rw [requests_turn stage hput]
    exact hrequest

theorem requests_of_lt (h : Step σ s e t) {i : Nat} (hi : i < s.puts.length) :
    t.requests[i]? = s.requests[i]? := by
  have hlt : i < s.requests.length := by rwa [Site.requests, List.length_map]
  rw [List.getElem?_eq_getElem hlt]
  exact requests_of_step h (List.getElem?_eq_getElem hlt)

/-- When a put moves its body into place, it is there and can be read. -/
theorem get_of_move {i : Nat} (h : Step σ s (.turn i .move) t) (hs : Sound σ start es s)
    (hrequest : t.requests[i]? = some (hash, body)) :
    FileSystem.get σ.root (σ.key hash) t.fs = .ok body := by
  cases h with
  | turn i act put fs stage hput hturn =>
    rw [requests_turn stage hput, Site.requests, List.getElem?_map, hput] at hrequest
    cases hrequest
    have hready := hs.ready i put hput
    have hkeyed := hs.keyed i put hput hturn.isOpen
    generalize hstage : put.stage = before at hturn hready
    cases hturn with
    | move _ n d hmove =>
      obtain ⟨-, hplace, hfiles⟩ := Disk.rename_ok hmove (hready n rfl)
      exact Shelf.get_ok_iff.mpr ⟨hkeyed, hplace, (hfiles _).trans (if_pos rfl)⟩

/-- Nothing else changes what an object's file holds. -/
theorem object?_of_step (h : Step σ s e t) (hs : Sound σ start es s)
    (hfew : s.fs.staged ≤ 2 ^ 64)
    (hmove : ∀ i body, e = .turn i .move → s.requests[i]? ≠ some (hash, body)) :
    σ.object? hash t.fs = σ.object? hash s.fs := by
  cases h with
  | begin hash' body => rfl
  | turn i act put fs stage hput hturn =>
    refine hturn.files (hs.ready i put hput) ?_ ?_
    · intro n hn
      have hbelow := hs.below i put hput n hn
      exact (σ.staged_ne_place (by omega) put.hash hash s.fs.process).symm
    · rintro rfl hplace
      obtain rfl := σ.place_injective hplace
      refine hmove i put.body rfl ?_
      rw [Site.requests, List.getElem?_map, hput]
      rfl

theorem keeps_of_step (h : Step σ s e t) (hs : Sound σ start es s) :
    Disk.Keeps s.fs.disk t.fs.disk := by
  cases h with
  | begin hash body => exact Disk.Keeps.refl _
  | turn i act put fs stage hput hturn => exact hturn.keeps (hs.ready i put hput)

/-- A body that can be read stays until another put of the same digest is moved to its place. -/
theorem get_of_step (h : Step σ s e t) (hs : Sound σ start es s) (hfew : s.fs.staged ≤ 2 ^ 64)
    (hmove : ∀ i body, e = .turn i .move → s.requests[i]? ≠ some (hash, body))
    (hget : FileSystem.get σ.root (σ.key hash) s.fs = .ok body) :
    FileSystem.get σ.root (σ.key hash) t.fs = .ok body := by
  obtain ⟨hkeyed, hplace, hobject⟩ := Shelf.get_ok_iff.mp hget
  refine Shelf.get_ok_iff.mpr ⟨hkeyed, Disk.resolve_of_keeps (keeps_of_step h hs) hplace, ?_⟩
  rw [object?_of_step h hs hfew hmove]
  exact hobject

/-- The file of an object changes only when a put moves its body there. -/
theorem object?_cases (h : Step σ s e t) (hs : Sound σ start es s) (hfew : s.fs.staged ≤ 2 ^ 64)
    (hash : Hash) :
    σ.object? hash t.fs = σ.object? hash s.fs ∨
      ∃ i body, e = .turn i .move ∧ s.requests[i]? = some (hash, body) ∧
        σ.object? hash t.fs = some body := by
  by_cases hmove : ∃ i body, e = .turn i .move ∧ s.requests[i]? = some (hash, body)
  · obtain ⟨i, body, rfl, hrequest⟩ := hmove
    obtain ⟨-, -, hobject⟩ := Shelf.get_ok_iff.mp (get_of_move h hs (requests_of_step h hrequest))
    exact .inr ⟨i, body, rfl, hrequest, hobject⟩
  · left
    exact object?_of_step h hs hfew fun i body he hrequest => hmove ⟨i, body, he, hrequest⟩

end Steps

section Runs

variable {fs : FileSystem}

/-- What stands under a digest was there before or was moved there, whole. -/
theorem run_whole (h : Run σ ⟨fs, []⟩ es t) (hfew : fs.staged + t.puts.length ≤ 2 ^ 64)
    (hobject : σ.object? hash t.fs = some body) :
    σ.object? hash fs = some body ∨
      ∃ i, .turn i .move ∈ es ∧ t.requests[i]? = some (hash, body) := by
  induction h with
  | nil => exact .inl hobject
  | snoc hrun hstep ih =>
    have hlength := hstep.length_le
    have hsound := run_sound hrun (by omega)
    rcases object?_cases hstep hsound (hsound.few (by omega)) hash with
      hsame | ⟨i, moved, rfl, hrequest, hmoved⟩
    · rcases ih (by omega) (hsame ▸ hobject) with hbefore | ⟨i, hi, hrequest⟩
      · exact .inl hbefore
      · exact .inr ⟨i, List.mem_append_left _ hi, requests_of_step hstep hrequest⟩
    · obtain rfl : moved = body := Option.some.inj (hmoved.symm.trans hobject)
      exact .inr ⟨i, by simp, requests_of_step hstep hrequest⟩

theorem run_untouched (h : Run σ ⟨fs, []⟩ es t) (hfew : fs.staged + t.puts.length ≤ 2 ^ 64)
    (huntouched : Untouched t.requests hash es) : σ.object? hash t.fs = σ.object? hash fs := by
  induction h with
  | nil => rfl
  | snoc hrun hstep ih =>
    have hlength := hstep.length_le
    have hsound := run_sound hrun (by omega)
    rw [object?_of_step hstep hsound (hsound.few (by omega)) ?_, ih (by omega) ?_]
    · intro i moved hi hrequest
      exact huntouched i moved (List.mem_append_left _ hi) (requests_of_step hstep hrequest)
    · rintro i moved rfl hrequest
      exact huntouched i moved (by simp) (requests_of_step hstep hrequest)

/-- What a put has moved into place is read until another put of the object comes that far. -/
theorem run_seen (h : Run σ ⟨fs, []⟩ es t) (hfew : fs.staged + t.puts.length ≤ 2 ^ 64)
    {i : Nat} {es₁ es₂ : List Event} (hes : es = es₁ ++ .turn i .move :: es₂)
    (hrequest : t.requests[i]? = some (hash, body))
    (huntouched : Untouched t.requests hash es₂) :
    FileSystem.get σ.root (σ.key hash) t.fs = .ok body := by
  induction h generalizing es₂ with
  | nil => simp at hes
  | @snoc es u v e hrun hstep ih =>
    have hlength := hstep.length_le
    have hsound := run_sound hrun (by omega)
    rcases List.eq_nil_or_concat es₂ with rfl | ⟨es₂, last, rfl⟩
    · obtain ⟨rfl, hlast⟩ := List.append_inj' hes rfl
      cases hlast
      exact get_of_move hstep hsound hrequest
    · rw [List.concat_eq_append, ← List.cons_append, ← List.append_assoc] at hes
      obtain ⟨rfl, hlast⟩ := List.append_inj' hes rfl
      cases hlast
      rw [requests_of_lt hstep (hsound.begun i .move (by simp))] at hrequest
      refine get_of_step hstep hsound (hsound.few (by omega)) ?_ (ih (by omega) rfl hrequest ?_)
      · rintro j moved rfl hmoved
        exact huntouched j moved (by simp) (requests_of_step hstep hmoved)
      · intro j moved hj hmoved
        exact huntouched j moved (by simp [hj]) (requests_of_step hstep hmoved)

structure Atomic (σ : Shelf) (fs : FileSystem) (es : List Event) (t : Site) : Prop where
  /-- The file of an object is the one from before or holds the whole body of a put of it. -/
  whole : ∀ hash body, σ.object? hash t.fs = some body → σ.object? hash fs = some body ∨
    ∃ i, .turn i .move ∈ es ∧ t.requests[i]? = some (hash, body)
  reads : ∀ hash body, FileSystem.get σ.root (σ.key hash) t.fs = .ok body →
    σ.object? hash t.fs = some body
  /-- A put that has returned well has moved its body into place before. -/
  moved : ∀ (i : Nat) (put : Put) (n? : Option Nat), t.puts[i]? = some put →
    put.stage = .returned n? (.ok ()) → es.count (.turn i .move) = 1
  /-- Once there, a body is what is read until the next put of the object comes that far. -/
  seen : ∀ i hash body es₁ es₂, es = es₁ ++ .turn i .move :: es₂ →
    t.requests[i]? = some (hash, body) → Untouched t.requests hash es₂ →
      FileSystem.get σ.root (σ.key hash) t.fs = .ok body
  failed : ∀ (i : Nat) (put : Put) (n? : Option Nat) (fault : Fault), t.puts[i]? = some put →
    put.stage = .returned n? (.error fault) → .turn i .move ∉ es
  untouched : ∀ hash, Untouched t.requests hash es → σ.object? hash t.fs = σ.object? hash fs
  /-- The next step changes no object, or moves the body of a put of the only one it changes. -/
  framed : ∀ e u, Step σ t e u → ∀ hash, σ.object? hash u.fs = σ.object? hash t.fs ∨
    ∃ i body, e = .turn i .move ∧ t.requests[i]? = some (hash, body) ∧
      σ.object? hash u.fs = some body
  /-- A put that has returned has left no staged file, unless it has failed to remove it. -/
  tidy : ∀ (i : Nat) (put : Put) (n : Nat) (result : Except Fault Unit), t.puts[i]? = some put →
    put.stage = .returned (some n) result → σ.staged? put.hash t.fs n = none ∨
      result ≠ .ok () ∧ .turn i .leave ∈ es

/-- Whatever the order of the steps of all puts, what stands under a digest was there before or is
the whole body of a put that moved it there. -/
theorem run_atomic (σ : Shelf) (fs : FileSystem) (es : List Event) (t : Site)
    (h : Run σ ⟨fs, []⟩ es t) (hfew : fs.staged + t.puts.length ≤ 2 ^ 64) :
    Atomic σ fs es t := by
  have hsound := run_sound h hfew
  refine ⟨fun _ _ => run_whole h hfew, ?_, ?_, fun _ _ _ _ _ => run_seen h hfew, ?_,
    fun _ => run_untouched h hfew, fun _ _ hstep => object?_cases hstep hsound (hsound.few hfew),
    ?_⟩
  · intro hash body hget
    exact (Shelf.get_ok_iff.mp hget).2.2
  · intro i put n? hput hstage
    have hcounts := hsound.counts i put hput
    rw [hstage] at hcounts
    exact hcounts
  · intro i put n? fault hput hstage
    have hcounts := hsound.counts i put hput
    rw [hstage] at hcounts
    exact List.count_eq_zero.mp hcounts
  · intro i put n result hput hstage
    have hfits := hsound.ready i put hput n (by rw [hstage]; rfl)
    rw [hstage] at hfits
    cases result with
    | ok _ => exact .inl hfits
    | error fault => exact hfits.imp_right fun hleave => ⟨by simp, hleave⟩

def twoPuts (hash : Hash) (nodes : List (Disk.Path × Disk.Node)) (staged : Nat)
    (first second : Stage) : Site :=
  ⟨⟨⟨nodes⟩, 7, staged⟩, [⟨hash, [1], first⟩, ⟨hash, [2, 3], second⟩]⟩

section TwoPuts

variable {nodes nodes' : List (Disk.Path × Disk.Node)} {n n' : Nat} {act : Act}
  {first first' second second' : Stage}

theorem step_first
    (h : Turn σ hash [1] act ⟨⟨nodes⟩, 7, n⟩ first ⟨⟨nodes'⟩, 7, n'⟩ first') :
    Step σ (twoPuts hash nodes n first second) (.turn 0 act)
      (twoPuts hash nodes' n' first' second) :=
  .turn _ 0 act ⟨hash, [1], first⟩ _ first' rfl h

theorem step_second
    (h : Turn σ hash [2, 3] act ⟨⟨nodes⟩, 7, n⟩ second ⟨⟨nodes'⟩, 7, n'⟩ second') :
    Step σ (twoPuts hash nodes n first second) (.turn 1 act)
      (twoPuts hash nodes' n' first second') :=
  .turn _ 1 act ⟨hash, [2, 3], second⟩ _ second' rfl h

end TwoPuts

/-- Two puts of one object at once. The first has returned while the second still writes. -/
theorem run_atomic_overtaking :
    let σ : Shelf := ⟨"", .standard⟩
    let hash : Hash := ⟨List.replicate 32 0, rfl⟩
    let es : List Event := [.begin hash [1], .begin hash [2, 3], .turn 0 .pass, .turn 1 .pass,
      .turn 0 .name, .turn 1 .name, .turn 0 .create, .turn 1 .create, .turn 1 .append,
      .turn 0 .append, .turn 0 .sync, .turn 0 .move, .turn 0 .finish]
    let t : Site := twoPuts hash
      [([hash.digits], .file [1]), ([hash.digits ++ ".tmp.7.1"], .file [2])] 2
      (.returned (some 0) (.ok ())) (.writing 1 [3])
    Run σ ⟨⟨.empty, 7, 0⟩, []⟩ es t ∧ 0 + t.puts.length ≤ 2 ^ 64 ∧
      Atomic σ ⟨.empty, 7, 0⟩ es t := by
  intro σ hash es t
  have hentry : entry σ hash = .making [[]] [] := by
    have hpath : Location.pathFor σ.root (σ.key hash) = .ok hash.digits := by decide +kernel
    have hway : (σ.route hash).parent = [] := by decide +kernel
    rw [entry, hpath, hway]
    rfl
  have hthere : ∀ d : Disk, d.isDirectory [] = true := fun _ => rfl
  have hbegun : Run σ ⟨⟨.empty, 7, 0⟩, []⟩ (es.take 2)
      (twoPuts hash [] 0 (.making [[]] []) (.making [[]] [])) := by
    have hboth := (Steps.nil.snoc (@Step.begin σ ⟨⟨.empty, 7, 0⟩, []⟩ hash [1])).snoc
      (.begin _ hash [2, 3])
    rwa [hentry] at hboth
  have hnamed : Run σ ⟨⟨.empty, 7, 0⟩, []⟩ (es.take 6)
      (twoPuts hash [] 2 (.creating 0) (.creating 1)) :=
    (((hbegun.snoc (step_first (.pass _ _ _ _ _ rfl (hthere _)))).snoc
      (step_second (.pass _ _ _ _ _ rfl (hthere _)))).snoc
      (step_first (.name _))).snoc (step_second (.name _))
  have hcreated : Run σ ⟨⟨.empty, 7, 0⟩, []⟩ (es.take 8)
      (twoPuts hash [([hash.digits ++ ".tmp.7.1"], .file []),
        ([hash.digits ++ ".tmp.7.0"], .file [])] 2 (.writing 0 [1]) (.writing 1 [2, 3])) :=
    (hnamed.snoc (step_first (.create _ 0 ⟨[([hash.digits ++ ".tmp.7.0"], .file [])]⟩
      (by decide +kernel)))).snoc (step_second (.create _ 1 _ (by decide +kernel)))
  have hwritten : Run σ ⟨⟨.empty, 7, 0⟩, []⟩ (es.take 10)
      (twoPuts hash [([hash.digits ++ ".tmp.7.0"], .file [1]),
        ([hash.digits ++ ".tmp.7.1"], .file [2])] 2 (.writing 0 []) (.writing 1 [3])) :=
    (hcreated.snoc (step_second (.append _ 1 [2] [3]
      ⟨[([hash.digits ++ ".tmp.7.1"], .file [2]), ([hash.digits ++ ".tmp.7.0"], .file [])]⟩
      (by decide +kernel)))).snoc (step_first (.append _ 0 [1] [] _ (by decide +kernel)))
  have hrun : Run σ ⟨⟨.empty, 7, 0⟩, []⟩ es t :=
    ((hwritten.snoc (step_first (.sync _ 0 _ rfl))).snoc (step_first (.move _ 0
      ⟨[([hash.digits], .file [1]), ([hash.digits ++ ".tmp.7.1"], .file [2])]⟩
      (by decide +kernel)))).snoc (step_first (.finish _ 0))
  have hfew : 0 + t.puts.length ≤ 2 ^ 64 := by decide
  exact ⟨hrun, hfew, run_atomic σ ⟨.empty, 7, 0⟩ es t hrun hfew⟩

end Runs

end Puts

end Validium.Store
