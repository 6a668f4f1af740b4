import Mathlib
import Validium.Proofs.Positions
import Validium.Proofs.Store.Shelf

/-!
What holds in every state that puts to one file store can reach together. Every put that has a
number has it for itself, and the file staged under it holds just what the put has written so
far, because no other step touches that file. The steps that touch the file of an object are the
last steps of puts of this object, which move a complete body there.
-/
namespace Validium.Store

open Disk (Route Keeps)

def Shelf.object? (σ : Shelf) (hash : Hash) (fs : FileSystem) : Option Bytes :=
  fs.disk.file? (σ.route hash).place

def Shelf.staged? (σ : Shelf) (hash : Hash) (fs : FileSystem) (n : Nat) : Option Bytes :=
  fs.disk.file? (σ.staged hash fs.process n).place

namespace Puts

variable {σ : Shelf}

section Turns

variable {hash : Hash} {body : Bytes} {act : Act} {fs fs' : FileSystem} {stage stage' : Stage}

/-- What a put has staged when it has come to a stage. If it has returned a fault, a file may
be left that could not be removed. -/
def Fits (body : Bytes) (left : Prop) (staged? : Option Bytes) : Stage → Prop
  | .writing _ rest => ∃ written, staged? = some written ∧ written ++ rest = body
  | .moving _ => staged? = some body
  | .moved _ => staged? = none
  | .returned _ (.ok _) => staged? = none
  | .returned _ (.error _) => staged? = none ∨ left
  | _ => True

def Counts (moves : Nat) : Stage → Prop
  | .moved _ => moves = 1
  | .returned _ (.ok _) => moves = 1
  | .stopped _ => moves ≤ 1
  | _ => moves = 0

theorem Turn.isOpen (h : Turn σ hash body act fs stage fs' stage') : stage.isOpen = true := by
  cases h with
  | fail fs stage n fault hstage => cases stage <;> first | rfl | cases hstage
  | stop fs stage hopen => exact hopen
  | _ => rfl

theorem Turn.process (h : Turn σ hash body act fs stage fs' stage') :
    fs'.process = fs.process := by
  cases h <;> rfl

theorem Turn.counts (h : Turn σ hash body act fs stage fs' stage') {moves : Nat}
    (hcounts : Counts moves stage) : Counts (moves + [act].count .move) stage' := by
  cases h with
  | stop fs stage hopen =>
    cases stage <;> simp_all [Counts, Stage.isOpen]
  | fail fs stage n fault hstage =>
    cases stage <;> simp_all [Counts, Stage.staging?]
  | _ => simp_all [Counts]

/-- A put takes its number once, and numbers go up. -/
theorem Turn.number (h : Turn σ hash body act fs stage fs' stage') :
    (stage'.number? = stage.number? ∧ fs'.staged = fs.staged) ∨
      stage.number? = none ∧ stage'.number? = some fs.staged ∧ fs'.staged = fs.staged + 1 := by
  cases h with
  | name fs => exact .inr ⟨rfl, rfl, rfl⟩
  | fail fs stage n fault hstage =>
    cases stage <;> first | exact .inl ⟨hstage.symm, rfl⟩ | cases hstage
  | _ => exact .inl ⟨rfl, rfl⟩

def Ready (σ : Shelf) (hash : Hash) (body : Bytes) (left : Prop) (fs : FileSystem)
    (stage : Stage) : Prop :=
  ∀ n, stage.number? = some n → Fits body left (σ.staged? hash fs n) stage

theorem Turn.keeps (h : Turn σ hash body act fs stage fs' stage') {left : Prop}
    (hready : Ready σ hash body left fs stage) : Keeps fs.disk fs'.disk := by
  cases h with
  | make fs down up later r d hnext hmake => exact (Disk.mkdir_ok hmake).1
  | create fs n d hcreate => exact (Disk.create_ok hcreate).1
  | append fs n piece rest d happend =>
    obtain ⟨_, -, hkeeps, -⟩ := Disk.append_ok happend
    exact hkeeps
  | sync fs n d hsync =>
    cases hsync
    exact Keeps.refl _
  | move fs n d hmove => exact (Disk.rename_ok hmove (hready n rfl)).1
  | unlink fs n fault d hunlink => exact (Disk.unlink_ok hunlink).1
  | _ => exact Keeps.refl _

/-- A put touches the file that it has staged and, when it moves this file, the file of its
object. -/
theorem Turn.files (h : Turn σ hash body act fs stage fs' stage') {left : Prop}
    (hready : Ready σ hash body left fs stage) {q : Disk.Path}
    (hstaged : ∀ n, stage.number? = some n → q ≠ (σ.staged hash fs.process n).place)
    (hplace : act = .move → q ≠ (σ.route hash).place) : fs'.disk.file? q = fs.disk.file? q := by
  cases h with
  | make fs down up later r d hnext hmake => exact (Disk.mkdir_ok hmake).2 q
  | create fs n d hcreate => rw [(Disk.create_ok hcreate).2, if_neg (hstaged n rfl)]
  | append fs n piece rest d happend =>
    obtain ⟨_, -, -, hfiles⟩ := Disk.append_ok happend
    rw [hfiles, if_neg (hstaged n rfl)]
  | sync fs n d hsync =>
    cases hsync
    rfl
  | move fs n d hmove =>
    rw [(Disk.rename_ok hmove (hready n rfl)).2.2, if_neg (hplace rfl), if_neg (hstaged n rfl)]
  | unlink fs n fault d hunlink => rw [(Disk.unlink_ok hunlink).2, if_neg (hstaged n rfl)]
  | _ => rfl

/-- Each step of a put leaves in the staged file what the next one needs. -/
theorem Turn.ready (h : Turn σ hash body act fs stage fs' stage') {left left' : Prop}
    (hready : Ready σ hash body left fs stage) (hleft : act = .leave → left')
    (hplace : ∀ n, stage.number? = some n →
      (σ.staged hash fs.process n).place ≠ (σ.route hash).place) :
    Ready σ hash body left' fs' stage' := by
  intro m hm
  cases h with
  | make => cases hm
  | pass => cases hm
  | climb => cases hm
  | quit => cases hm
  | name fs => trivial
  | create fs n d hcreate =>
    cases hm
    refine ⟨[], ?_, rfl⟩
    exact ((Disk.create_ok hcreate).2 _).trans (if_pos rfl)
  | append fs n piece rest d happend =>
    cases hm
    obtain ⟨written, hwritten, hbody⟩ := hready m rfl
    obtain ⟨found, hfound, -, hfiles⟩ := Disk.append_ok happend
    obtain rfl : found = written := Option.some.inj (hfound.symm.trans hwritten)
    refine ⟨found ++ piece, (hfiles _).trans (if_pos rfl), ?_⟩
    rw [List.append_assoc]
    exact hbody
  | sync fs n d hsync =>
    cases hm
    cases hsync
    obtain ⟨written, hwritten, hbody⟩ := hready m rfl
    rw [List.append_nil] at hbody
    exact hbody ▸ hwritten
  | move fs n d hmove =>
    cases hm
    refine ((Disk.rename_ok hmove (hready m rfl)).2.2 _).trans ?_
    exact (if_neg (hplace m rfl)).trans (if_pos rfl)
  | finish fs n =>
    cases hm
    exact hready m rfl
  | fail fs stage n fault hstage => trivial
  | unlink fs n fault d hunlink =>
    cases hm
    exact .inl (((Disk.unlink_ok hunlink).2 _).trans (if_pos rfl))
  | leave fs n fault => exact .inr (hleft rfl)
  | stop fs stage hopen => trivial

end Turns

section Runs

variable {s t : Site} {es : List Event} {e : Event} {start : Nat}

structure Sound (σ : Shelf) (start : Nat) (es : List Event) (t : Site) : Prop where
  ready : ∀ (i : Nat) (put : Put), t.puts[i]? = some put →
    Ready σ put.hash put.body (.turn i .leave ∈ es) t.fs put.stage
  counts : ∀ (i : Nat) (put : Put), t.puts[i]? = some put →
    Counts (es.count (.turn i .move)) put.stage
  begun : ∀ i act, .turn i act ∈ es → i < t.puts.length
  keyed : ∀ (i : Nat) (put : Put), t.puts[i]? = some put → put.stage.isOpen = true →
    ∃ path, Location.pathFor σ.root (σ.key put.hash) = .ok path
  below : ∀ (i : Nat) (put : Put), t.puts[i]? = some put → ∀ n, put.stage.number? = some n →
    n < t.fs.staged
  alone : ∀ (i j : Nat) (put put' : Put) (n : Nat), t.puts[i]? = some put →
    t.puts[j]? = some put' → put.stage.number? = some n → put'.stage.number? = some n → i = j
  staged : t.fs.staged = start + t.puts.countP fun put => put.stage.number?.isSome

theorem initial_sound (fs : FileSystem) : Sound σ fs.staged [] ⟨fs, []⟩ where
  ready := by simp
  counts := by simp
  begun := by simp
  keyed := by simp
  below := by simp
  alone := by simp
  staged := rfl

/-- A put begins without a number and without having moved anything. -/
theorem entry_cases (σ : Shelf) (hash : Hash) :
    (∃ fault, entry σ hash = .returned none (.error fault)) ∨
      ((∃ path, Location.pathFor σ.root (σ.key hash) = .ok path) ∧
        ∃ down, entry σ hash = .making down []) := by
  rw [entry]
  cases Location.pathFor σ.root (σ.key hash) with
  | error fault => exact .inl ⟨fault, rfl⟩
  | ok path => exact .inr ⟨⟨path, rfl⟩, _, rfl⟩

theorem number?_entry (hash : Hash) : (entry σ hash).number? = none := by
  obtain ⟨fault, h⟩ | ⟨-, down, h⟩ := entry_cases σ hash <;> rw [h] <;> rfl

theorem counts_entry (hash : Hash) : Counts 0 (entry σ hash) := by
  obtain ⟨fault, h⟩ | ⟨-, down, h⟩ := entry_cases σ hash <;> rw [h] <;> rfl

theorem keyed_entry {hash : Hash} (h : (entry σ hash).isOpen = true) :
    ∃ path, Location.pathFor σ.root (σ.key hash) = .ok path := by
  obtain ⟨fault, hentry⟩ | ⟨hkey, -⟩ := entry_cases σ hash
  · rw [hentry] at h
    cases h
  · exact hkey

theorem Ready.mono {hash : Hash} {body : Bytes} {left left' : Prop} {fs : FileSystem}
    {stage : Stage} (h : Ready σ hash body left fs stage) (hleft : left → left') :
    Ready σ hash body left' fs stage := by
  intro n hn
  have hfits := h n hn
  cases stage with
  | returned n? result =>
    cases result with
    | ok _ => exact hfits
    | error fault => exact hfits.imp_right hleft
  | _ => exact hfits

/-- A put that begins finds its place among the others. -/
theorem step_begin (hs : Sound σ start es s) (hash : Hash) (body : Bytes) :
    Sound σ start (es ++ [.begin hash body])
      { s with puts := s.puts ++ [⟨hash, body, entry σ hash⟩] } where
  ready := by
    refine forall_concat ?_ ?_
    · intro n hn
      rw [number?_entry] at hn
      cases hn
    · intro i put hput
      exact (hs.ready i put hput).mono (List.mem_append_left _)
  counts := by
    refine forall_concat ?_ ?_
    · have hnone : Event.turn s.puts.length .move ∉ es := by
        intro hmem
        exact absurd (hs.begun _ _ hmem) (Nat.lt_irrefl _)
      rw [List.count_append, List.count_eq_zero_of_not_mem hnone]
      exact counts_entry hash
    · intro i put hput
      rw [List.count_append]
      exact hs.counts i put hput
  begun := by
    intro i act hmem
    have hold : Event.turn i act ∈ es := by simpa using hmem
    have hlt := hs.begun i act hold
    simp only [List.length_append]
    omega
  keyed := forall_concat keyed_entry hs.keyed
  below := by
    refine forall_concat ?_ hs.below
    intro n hn
    rw [number?_entry] at hn
    cases hn
  alone := by
    have hnone : ∀ n, (entry σ hash).number? ≠ some n := by simp [number?_entry]
    intro i j put put' n hi hj hn hn'
    have hold : ∀ (k : Nat) (other : Put),
        (s.puts ++ [⟨hash, body, entry σ hash⟩])[k]? = some other →
          other.stage.number? = some n → s.puts[k]? = some other :=
      forall_concat (fun hnew => absurd hnew (hnone n)) fun _ _ hother _ => hother
    exact hs.alone i j put put' n (hold i put hi hn) (hold j put' hj hn') hn hn'
  staged := by
    rw [hs.staged, List.countP_append]
    simp [number?_entry]

/-- No put touches what another has staged. -/
theorem staged?_of_turn {i j : Nat} {put other : Put} {act : Act} {fs : FileSystem}
    {stage : Stage} {n : Nat} (hs : Sound σ start es s) (hfew : s.fs.staged ≤ 2 ^ 64)
    (hput : s.puts[i]? = some put) (hturn : Turn σ put.hash put.body act s.fs put.stage fs stage)
    (hother : s.puts[j]? = some other) (hij : j ≠ i) (hn : other.stage.number? = some n) :
    σ.staged? other.hash fs n = σ.staged? other.hash s.fs n := by
  have hbelow := hs.below j other hother n hn
  rw [Shelf.staged?, Shelf.staged?, hturn.process]
  refine hturn.files (hs.ready i put hput) ?_ ?_
  · intro m hm hplace
    obtain rfl := σ.staged_injective hplace
    exact hij (hs.alone j i other put n hother hput hn hm)
  · intro _
    exact σ.staged_ne_place (by omega) _ _ _

/-- A turn of one put keeps what is known of all. -/
theorem step_turn {i : Nat} {put : Put} {act : Act} {fs : FileSystem} {stage : Stage}
    (hs : Sound σ start es s) (hfew : s.fs.staged ≤ 2 ^ 64) (hput : s.puts[i]? = some put)
    (hturn : Turn σ put.hash put.body act s.fs put.stage fs stage) :
    Sound σ start (es ++ [.turn i act])
      ⟨fs, s.puts.set i { put with stage := stage }⟩ where
  ready := by
    refine forall_set hput ?_ ?_
    · refine (hturn.ready (hs.ready i put hput) ?_ ?_)
      · rintro rfl
        simp
      · intro n hn
        have hbelow := hs.below i put hput n hn
        exact σ.staged_ne_place (by omega) _ _ _
    · intro j other hij hother n hn
      rw [staged?_of_turn hs hfew hput hturn hother hij hn]
      exact (hs.ready j other hother).mono (List.mem_append_left _) n hn
  counts := by
    refine forall_set hput ?_ ?_
    · have hcounts := hturn.counts (hs.counts i put hput)
      have hcount : [Event.turn i act].count (.turn i .move) = [act].count .move := by
        by_cases hact : act = .move <;> simp [hact]
      rwa [List.count_append, hcount]
    · intro j other hij hother
      have hnone : [Event.turn i act].count (.turn j .move) = 0 :=
        List.count_eq_zero_of_not_mem (by simp [hij])
      rw [List.count_append, hnone]
      exact hs.counts j other hother
  begun := by
    intro j act' hmem
    rw [List.length_set]
    rcases List.mem_append.mp hmem with hold | hnew
    · exact hs.begun j act' hold
    · cases List.mem_singleton.mp hnew
      exact (List.getElem?_eq_some_iff.mp hput).1
  keyed := by
    refine forall_set hput ?_ ?_
    · intro _
      exact hs.keyed i put hput hturn.isOpen
    · intro j other _
      exact hs.keyed j other
  below := by
    have hle : s.fs.staged ≤ fs.staged := by
      rcases hturn.number with h | h <;> omega
    refine forall_set hput ?_ ?_
    · intro n hn
      rcases hturn.number with ⟨hsame, -⟩ | ⟨-, hnew, hnext⟩
      · rw [hsame] at hn
        exact Nat.lt_of_lt_of_le (hs.below i put hput n hn) hle
      · obtain rfl : s.fs.staged = n := Option.some.inj (hnew.symm.trans hn)
        show s.fs.staged < fs.staged
        omega
    · intro j other _ hother n hn
      exact Nat.lt_of_lt_of_le (hs.below j other hother n hn) hle
  alone := by
    -- A number that is new is above those of all other puts.
    have hown : ∀ (j : Nat) (other : Put) (n : Nat), j ≠ i → s.puts[j]? = some other →
        other.stage.number? = some n → stage.number? ≠ some n := by
      intro j other n hij hother hn hn'
      rcases hturn.number with ⟨hsame, -⟩ | ⟨-, hnew, -⟩
      · rw [hsame] at hn'
        exact hij (hs.alone j i other put n hother hput hn hn')
      · obtain rfl : s.fs.staged = n := Option.some.inj (hnew.symm.trans hn')
        exact Nat.lt_irrefl _ (hs.below j other hother _ hn)
    intro j k first second n hj hk hn hn'
    by_cases hji : j = i
    · subst hji
      by_cases hki : k = j
      · exact hki.symm
      · rw [List.getElem?_set_self (List.getElem?_eq_some_iff.mp hput).1] at hj
        rw [List.getElem?_set_ne (Ne.symm hki)] at hk
        cases hj
        exact absurd hn (hown k second n hki hk hn')
    · rw [List.getElem?_set_ne (Ne.symm hji)] at hj
      by_cases hki : k = i
      · subst hki
        rw [List.getElem?_set_self (List.getElem?_eq_some_iff.mp hput).1] at hk
        cases hk
        exact absurd hn' (hown j first n hji hj hn)
      · rw [List.getElem?_set_ne (Ne.symm hki)] at hk
        exact hs.alone j k first second n hj hk hn hn'
  staged := by
    have hcount := countP_set_add (fun put : Put => put.stage.number?.isSome) s.puts i put
      { put with stage := stage } hput
    have hstaged := hs.staged
    rcases hturn.number with ⟨hsame, hnext⟩ | ⟨hnone, hnew, hnext⟩
    · simp only [hsame] at hcount
      show fs.staged = start + (s.puts.set i _).countP _
      omega
    · simp only [hnone, hnew, Option.isSome_none, Option.isSome_some, Bool.toNat_false,
        Bool.toNat_true] at hcount
      show fs.staged = start + (s.puts.set i _).countP _
      omega

theorem step_sound (h : Step σ s e t) (hs : Sound σ start es s) (hfew : s.fs.staged ≤ 2 ^ 64) :
    Sound σ start (es ++ [e]) t := by
  cases h with
  | begin hash body => exact step_begin hs hash body
  | turn i act put fs stage hput hturn => exact step_turn hs hfew hput hturn

theorem Step.length_le (h : Step σ s e t) : s.puts.length ≤ t.puts.length := by
  cases h with
  | begin hash body => simp
  | turn i act put fs stage hput hturn => simp

theorem Sound.few (h : Sound σ start es t) (hfew : start + t.puts.length ≤ 2 ^ 64) :
    t.fs.staged ≤ 2 ^ 64 := by
  have hstaged := h.staged
  have hcount := List.countP_le_length (p := fun put : Put => put.stage.number?.isSome)
    (l := t.puts)
  omega

theorem run_sound {fs : FileSystem} (h : Run σ ⟨fs, []⟩ es t)
    (hfew : fs.staged + t.puts.length ≤ 2 ^ 64) : Sound σ fs.staged es t := by
  induction h with
  | nil => exact initial_sound fs
  | snoc _ hstep ih =>
    have hlength := hstep.length_le
    have hsound := ih (by omega)
    exact step_sound hstep hsound (hsound.few (by omega))

end Runs

end Puts

end Validium.Store
