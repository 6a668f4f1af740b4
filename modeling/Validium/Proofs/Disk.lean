import Mathlib
import Validium.Disk

/-!
What the steps on a file system do to it. Where a route leads is told by its names alone, so
a route that can be walked leads to the same place as long as no directory goes away. Each
step changes the files at the places that it is given, and no other; directories only come to
be where nothing was.
-/
namespace Validium.Disk

section Places

def Route.go (place : Path) (step : String) : Path :=
  if isIdle step then place else if step = ".." then place.dropLast else place ++ [step]

def Route.place (r : Route) : Path := r.foldl Route.go []

def Keeps (d e : Disk) : Prop :=
  ∀ p, d.node? p = some .directory → e.node? p = some .directory

variable {d e : Disk} {r : Route} {p : Path}

theorem Keeps.refl (d : Disk) : Keeps d d := fun _ h => h

theorem Keeps.trans {f : Disk} (h : Keeps d e) (h' : Keeps e f) : Keeps d f :=
  fun p hp => h' p (h p hp)

theorem walk_place (place : Path) (h : d.walk place r = .ok p) : p = r.foldl Route.go place := by
  induction r generalizing place with
  | nil =>
    cases h
    rfl
  | cons step rest ih =>
    rw [walk] at h
    rw [List.foldl_cons, Route.go]
    split at h
    · cases h
    · cases h
    · split at h
      · rw [if_pos ‹_›]
        exact ih _ h
      · rw [if_neg ‹_›]
        split at h
        · rw [if_pos ‹_›]
          exact ih _ h
        · rw [if_neg ‹_›]
          split at h
          · cases h
          · exact ih _ h

theorem walk_of_keeps (hkeeps : Keeps d e) (place : Path) (h : d.walk place r = .ok p) :
    e.walk place r = .ok p := by
  induction r generalizing place with
  | nil => exact h
  | cons step rest ih =>
    rw [walk] at h ⊢
    split at h
    · cases h
    · cases h
    · rw [hkeeps place ‹_›]
      split at h
      · exact (if_pos ‹_›).trans (ih _ h)
      · refine (if_neg ‹_›).trans ?_
        split at h
        · exact (if_pos ‹_›).trans (ih _ h)
        · refine (if_neg ‹_›).trans ?_
          split at h
          · cases h
          · exact (if_neg ‹_›).trans (ih _ h)

theorem walk_of_resolve (h : d.resolve r = .ok p) : d.walk [] r = .ok p := by
  rw [resolve] at h
  split at h
  · cases h
  · split at h
    · cases h
    · exact h

theorem resolve_place (h : d.resolve r = .ok p) : p = r.place :=
  walk_place [] (walk_of_resolve h)

theorem resolve_of_keeps (hkeeps : Keeps d e) (h : d.resolve r = .ok p) : e.resolve r = .ok p := by
  have hwalk := walk_of_keeps hkeeps [] (walk_of_resolve h)
  rw [resolve] at h ⊢
  split at h
  · cases h
  · rw [if_neg ‹_›]
    split at h
    · cases h
    · rw [if_neg ‹_›]
      exact hwalk

end Places

section Nodes

variable {d : Disk} {p q : Path}

theorem find?_filter_ne (nodes : List (Path × Node)) (p q : Path) :
    (nodes.filter (·.1 != p)).find? (·.1 == q) =
      if q = p then none else nodes.find? (·.1 == q) := by
  rw [List.find?_filter]
  by_cases hq : q = p
  · subst hq
    rw [if_pos rfl, List.find?_eq_none]
    intro node _
    simp
  · rw [if_neg hq]
    congr 1
    funext node
    by_cases hnode : node.1 = q
    · simp [hnode, hq]
    · simp [hnode]

theorem node?_nil (d : Disk) : d.node? [] = some .directory := rfl

theorem ne_nil_of_node? (h : d.node? p ≠ some .directory) : p ≠ [] := by
  rintro rfl
  exact h d.node?_nil

theorem node?_insert (hp : p ≠ []) (n : Node) (q : Path) :
    (d.insert p n).node? q = if q = p then some n else d.node? q := by
  by_cases hq : q = []
  · subst hq
    rw [if_neg (Ne.symm hp)]
    rfl
  · simp only [node?, insert, List.isEmpty_iff, if_neg hq, List.find?_cons, find?_filter_ne]
    by_cases hpq : q = p
    · simp [hpq]
    · have hbeq : (p == q) = false := by simpa using Ne.symm hpq
      simp [hpq, hbeq]

theorem node?_erase (hp : p ≠ []) (q : Path) :
    (d.erase p).node? q = if q = p then none else d.node? q := by
  by_cases hq : q = []
  · subst hq
    rw [if_neg (Ne.symm hp)]
    rfl
  · simp only [node?, erase, List.isEmpty_iff, if_neg hq, find?_filter_ne]
    by_cases hpq : q = p
    · simp [hpq]
    · simp [hpq]

def file? (d : Disk) (p : Path) : Option Bytes :=
  match d.node? p with
  | some (.file body) => some body
  | _ => none

theorem node?_of_file? {body : Bytes} (h : d.file? p = some body) :
    d.node? p = some (.file body) := by
  rw [file?] at h
  split at h
  · cases h
    assumption
  · cases h

theorem file?_of_node? {body : Bytes} (h : d.node? p = some (.file body)) :
    d.file? p = some body := by
  rw [file?, h]

theorem keeps_insert (n : Node) (hp : d.node? p ≠ some .directory) : Keeps d (d.insert p n) := by
  intro q hq
  have hpq : q ≠ p := by
    rintro rfl
    exact hp hq
  rw [node?_insert (ne_nil_of_node? hp) n q, if_neg hpq]
  exact hq

theorem keeps_erase (hp : d.node? p ≠ some .directory) : Keeps d (d.erase p) := by
  intro q hq
  have hpq : q ≠ p := by
    rintro rfl
    exact hp hq
  rw [node?_erase (ne_nil_of_node? hp) q, if_neg hpq]
  exact hq

theorem file?_insert_file {body : Bytes} (hp : p ≠ []) (q : Path) :
    (d.insert p (.file body)).file? q = if q = p then some body else d.file? q := by
  rw [file?, node?_insert hp _ q]
  by_cases hq : q = p
  · rw [if_pos hq, if_pos hq]
  · rw [if_neg hq, if_neg hq, file?]

theorem file?_insert_directory (hp : d.node? p = none) (q : Path) :
    (d.insert p .directory).file? q = d.file? q := by
  have hne : p ≠ [] := ne_nil_of_node? (by rw [hp]; simp)
  rw [file?, node?_insert hne _ q]
  by_cases hq : q = p
  · rw [if_pos hq, file?, hq, hp]
  · rw [if_neg hq, file?]

theorem file?_erase (hp : p ≠ []) (q : Path) :
    (d.erase p).file? q = if q = p then none else d.file? q := by
  rw [file?, node?_erase hp q]
  by_cases hq : q = p
  · rw [if_pos hq, if_pos hq]
  · rw [if_neg hq, if_neg hq, file?]

end Nodes

section Steps

variable {d e : Disk} {r s : Route}

/-- A step that is taken is taken at the place that its route leads to. -/
theorem resolve_bind_ok {α : Type} {f : Path → Except Fault α} {a : α}
    (h : d.resolve r >>= f = .ok a) : d.resolve r = .ok r.place ∧ f r.place = .ok a := by
  cases hplace : d.resolve r with
  | error fault =>
    rw [hplace] at h
    cases h
  | ok p =>
    rw [hplace] at h
    obtain rfl := resolve_place hplace
    exact ⟨rfl, h⟩

theorem mkdir_ok (h : d.mkdir r = .ok e) : Keeps d e ∧ ∀ q, e.file? q = d.file? q := by
  obtain ⟨-, h⟩ := resolve_bind_ok h
  split at h
  · cases h
  · cases h
    exact ⟨keeps_insert _ (by simp [*]), file?_insert_directory ‹_›⟩

theorem create_ok (h : d.create r = .ok e) :
    Keeps d e ∧ ∀ q, e.file? q = if q = r.place then some [] else d.file? q := by
  obtain ⟨-, h⟩ := resolve_bind_ok h
  split at h
  · cases h
  · rename_i hnode
    cases h
    exact ⟨keeps_insert _ hnode, file?_insert_file (ne_nil_of_node? hnode)⟩

theorem append_ok {b : Bytes} (h : d.append r b = .ok e) :
    ∃ body, d.file? r.place = some body ∧ Keeps d e ∧
      ∀ q, e.file? q = if q = r.place then some (body ++ b) else d.file? q := by
  obtain ⟨-, h⟩ := resolve_bind_ok h
  split at h
  · rename_i body hnode
    cases h
    have hfile : d.node? r.place ≠ some .directory := by simp [hnode]
    exact ⟨body, file?_of_node? hnode, keeps_insert _ hfile,
      file?_insert_file (ne_nil_of_node? hfile)⟩
  · cases h
  · cases h

theorem unlink_ok (h : d.unlink r = .ok e) :
    Keeps d e ∧ ∀ q, e.file? q = if q = r.place then none else d.file? q := by
  obtain ⟨-, h⟩ := resolve_bind_ok h
  split at h
  · cases h
  · cases h
  · rename_i body hnode
    cases h
    have hfile : d.node? r.place ≠ some .directory := by simp [hnode]
    exact ⟨keeps_erase hfile, file?_erase (ne_nil_of_node? hfile)⟩

/-- A file is moved to another place. -/
theorem rename_ok {body : Bytes} (h : d.rename r s = .ok e) (hbody : d.file? r.place = some body) :
    Keeps d e ∧ e.resolve s = .ok s.place ∧
      ∀ q, e.file? q =
        if q = s.place then some body else if q = r.place then none else d.file? q := by
  obtain ⟨-, h⟩ := resolve_bind_ok h
  obtain ⟨hplace, h⟩ := resolve_bind_ok h
  have hnode := node?_of_file? hbody
  have hfrom : d.node? r.place ≠ some .directory := by simp [hnode]
  rw [hnode] at h
  split at h
  · cases h
  · simp only at h
    split at h
    · cases h
    · rename_i hto
      cases h
      have hto' : (d.erase r.place).node? s.place ≠ some .directory := by
        rw [node?_erase (ne_nil_of_node? hfrom)]
        split
        · simp
        · exact hto
      have hkeeps := (keeps_erase hfrom).trans (keeps_insert (.file body) hto')
      refine ⟨hkeeps, resolve_of_keeps hkeeps hplace, ?_⟩
      intro q
      rw [file?_insert_file (ne_nil_of_node? hto), file?_erase (ne_nil_of_node? hfrom)]

theorem read_ok {body : Bytes} (h : d.read r = .ok body) : d.file? r.place = some body := by
  obtain ⟨-, h⟩ := resolve_bind_ok h
  split at h
  · cases h
  · cases h
  · rename_i other hnode
    cases h
    exact file?_of_node? hnode

theorem read_of_file? {body : Bytes} (hplace : d.resolve r = .ok r.place)
    (h : d.file? r.place = some body) : d.read r = .ok body := by
  rw [read, hplace]
  simp only [bind, Except.bind, node?_of_file? h]
  rfl

end Steps

end Validium.Disk
