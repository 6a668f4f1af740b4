import Mathlib
import Validium.Proofs.Store.Shelf

/-!
Which keys have a path, and where it leads. The path of a key goes through the directory of the
store and from there along names, one at least, so it never leaves the directory; and neither
does the route on which a body is staged for it. Single points and empty names within a key
lead nowhere, so several keys can have paths to one place; keys that are spelled without points
are among those that have one.
-/
namespace Validium

namespace Text

variable {mark : Char}

theorem cut_ne_nil (mark : Char) (cs : List Char) : cut mark cs ≠ [] := by
  cases cs with
  | nil => exact List.cons_ne_nil _ _
  | cons c cs =>
    rw [cut]
    split
    · exact List.cons_ne_nil _ _
    · split <;> exact List.cons_ne_nil _ _

theorem exists_cut_cons (mark c : Char) (cs : List Char) :
    ∃ part parts, cut mark cs = part :: parts ∧
      cut mark (c :: cs) = if c = mark then [] :: part :: parts else (c :: part) :: parts := by
  obtain ⟨part, parts, hcut⟩ := List.exists_cons_of_ne_nil (cut_ne_nil mark cs)
  exact ⟨part, parts, hcut, by rw [cut, hcut]⟩

theorem cut_mark_cons (cs : List Char) : cut mark (mark :: cs) = [] :: cut mark cs := by
  obtain ⟨part, parts, hcut, hcons⟩ := exists_cut_cons mark mark cs
  rw [hcons, if_pos rfl, hcut]

theorem cut_append_cons (mark : Char) (cs ds : List Char) :
    cut mark (cs ++ mark :: ds) = cut mark cs ++ cut mark ds := by
  induction cs with
  | nil => exact cut_mark_cons ds
  | cons c cs ih =>
    obtain ⟨part, parts, hcut, hcons⟩ := exists_cut_cons mark c cs
    obtain ⟨other, others, hlong, hlonger⟩ := exists_cut_cons mark c (cs ++ mark :: ds)
    rw [ih, hcut, List.cons_append, List.cons.injEq] at hlong
    obtain ⟨rfl, rfl⟩ := hlong
    rw [List.cons_append, hlonger, hcons]
    split <;> rfl

theorem not_mem_of_mem_cut {cs part : List Char} (h : part ∈ cut mark cs) : mark ∉ part := by
  induction cs generalizing part with
  | nil =>
    rw [cut, List.mem_singleton] at h
    rw [h]
    exact List.not_mem_nil
  | cons c cs ih =>
    obtain ⟨first, others, hcut, hcons⟩ := exists_cut_cons mark c cs
    rw [hcut] at ih
    rw [hcons] at h
    split at h
    · rcases List.mem_cons.mp h with rfl | h
      · exact List.not_mem_nil
      · exact ih h
    · rcases List.mem_cons.mp h with rfl | h
      · rw [List.mem_cons, not_or]
        exact ⟨Ne.symm ‹_›, ih List.mem_cons_self⟩
      · exact ih (List.mem_cons_of_mem first h)

/-- Parts that hold no mark are found again between the marks. -/
theorem cut_intercalate {parts : List (List Char)} (hne : parts ≠ [])
    (hparts : ∀ part ∈ parts, mark ∉ part) : cut mark ([mark].intercalate parts) = parts := by
  induction parts with
  | nil => exact absurd rfl hne
  | cons part parts ih =>
    have hpart := hparts part List.mem_cons_self
    cases parts with
    | nil => rw [List.intercalate_singleton, cut_of_not_mem mark part hpart]
    | cons next others =>
      have hrest := ih (List.cons_ne_nil _ _) fun p hp => hparts p (List.mem_cons_of_mem part hp)
      rw [List.intercalate_cons_cons, List.append_assoc, List.singleton_append, cut_append_cons,
        hrest, cut_of_not_mem mark part hpart, List.singleton_append]

end Text

namespace Disk.Route

def steps (r : Route) : Route := r.filter fun step => !isIdle step

/-- A name that stands for a file or directory: it is not empty, is neither one point nor two,
and has no slash. -/
structure IsOrdinary (name : String) : Prop where
  leads : IsName name
  whole : '/' ∉ name.toList

/-- The route goes where the other one goes and from there along names, one at least. -/
def Below (r base : Route) : Prop :=
  ∃ names, names ≠ [] ∧ (∀ name ∈ names, IsOrdinary name) ∧ r.steps = base.steps ++ names

theorem steps_append (r s : Route) : steps (r ++ s) = steps r ++ steps s := List.filter_append r s

theorem steps_idle {r : Route} (h : ∀ step ∈ r, isIdle step = true) : steps r = [] := by
  rw [steps, List.filter_eq_nil_iff]
  intro step hstep
  simp [h step hstep]

theorem steps_singleton {step : String} (h : isIdle step = false) : steps [step] = [step] := by
  rw [steps, List.filter_cons_of_pos (by simp [h]), List.filter_nil]

theorem mem_steps {r : Route} {step : String} (h : step ∈ steps r) :
    step ∈ r ∧ isIdle step = false := by
  rw [steps, List.mem_filter, Bool.not_eq_true'] at h
  exact h

theorem steps_steps (r : Route) : steps (steps r) = steps r := by
  rw [steps, steps, List.filter_filter]
  simp

theorem place_steps (r : Route) : place (steps r) = place r := by
  rw [place, place, steps, List.foldl_filter]
  congr 1
  funext p step
  cases hidle : isIdle step <;> simp [go, hidle]

/-- A route that goes nowhere but down leads further by its names. -/
theorem foldl_go_names {names : List String} (h : ∀ name ∈ names, IsName name) (p : Path) :
    names.foldl go p = p ++ names := by
  induction names generalizing p with
  | nil => exact (List.append_nil p).symm
  | cons name names ih =>
    have hname := h name List.mem_cons_self
    rw [List.foldl_cons, go, if_neg (by simp [hname.1]), if_neg hname.2,
      ih (fun other hother => h other (List.mem_cons_of_mem name hother)), List.append_assoc,
      List.singleton_append]

theorem Below.place {r base : Route} (h : r.Below base) :
    ∃ names, names ≠ [] ∧ r.place = base.place ++ names := by
  obtain ⟨names, hne, hnames, hsteps⟩ := h
  refine ⟨names, hne, ?_⟩
  have hplace : Route.place (base.steps ++ names) = base.steps.place ++ names := by
    rw [Route.place, List.foldl_append]
    exact foldl_go_names (fun name hname => (hnames name hname).leads) _
  rw [← place_steps r, hsteps, hplace, place_steps]

/-- Whatever disk the route is walked on, it leads to a place below the other one's. -/
theorem Below.found {r base : Route} (h : r.Below base) {d : Disk} {q : Path}
    (hfound : d.resolve r = .ok q) : ∃ names, names ≠ [] ∧ q = base.place ++ names := by
  rw [resolve_place hfound]
  exact h.place

section Staged

theorem exists_trimmed (r : Route) :
    trimmed r = [] ∨ ∃ front last, trimmed r = front ++ [last] ∧ isIdle last = false := by
  rw [trimmed]
  cases hrest : r.reverse.dropWhile isIdle with
  | nil => exact .inl rfl
  | cons last rest =>
    refine .inr ⟨rest.reverse, last, List.reverse_cons, ?_⟩
    have hhead := List.head?_dropWhile_not isIdle r.reverse
    rw [hrest] at hhead
    simpa using hhead

theorem steps_trimmed (r : Route) : steps (trimmed r) = steps r := by
  obtain ⟨tail, hidle, hsplit⟩ := exists_idle_tail r
  calc steps (trimmed r) = steps (trimmed r) ++ steps tail := by
        rw [steps_idle hidle, List.append_nil]
    _ = steps r := by rw [← steps_append, ← hsplit]

theorem steps_parent (r : Route) : steps r.parent = r.steps.dropLast := by
  rw [parent, steps_trimmed, ← steps_trimmed r]
  rcases r.exists_trimmed with hnil | ⟨front, last, hlast, hidle⟩
  · rw [hnil]
    rfl
  · rw [hlast, List.dropLast_concat, steps_append, steps_singleton hidle, List.dropLast_concat]

theorem name_eq (r : Route) : r.name = r.steps.getLast?.getD "" := by
  rw [name, ← steps_trimmed r]
  rcases r.exists_trimmed with hnil | ⟨front, last, hlast, hidle⟩
  · rw [hnil]
    rfl
  · rw [hlast, steps_append, steps_singleton hidle, List.getLast?_concat, List.getLast?_concat]

theorem not_slash_repr (n : Nat) : '/' ∉ n.repr.toList := by
  rw [Nat.toList_repr]
  intro h
  have hdigit := Nat.isDigit_of_mem_toDigits (by decide) (by decide) h
  revert hdigit
  decide

theorem isOrdinary_stagedName {name : String} (h : IsOrdinary name) (process n : Nat) :
    IsOrdinary (Store.Shelf.stagedName name process n) := by
  refine ⟨Store.Shelf.isName_stagedName name process n, ?_⟩
  have htext : (Store.Shelf.stagedName name process n).toList =
      name.toList ++ ".tmp.".toList ++ process.repr.toList ++ ".".toList ++ n.repr.toList := by
    simp [Store.Shelf.stagedName, toString]
  rw [htext]
  simp only [List.mem_append, not_or]
  exact ⟨⟨⟨⟨h.whole, by decide⟩, not_slash_repr process⟩, by decide⟩, not_slash_repr n⟩

/-- What is staged beside a place below a directory lies below it as well. -/
theorem Below.staged {r base : Route} (h : r.Below base) (fs : Store.FileSystem) :
    (Store.FileSystem.stagedRoute r fs).1.Below base := by
  obtain ⟨names, hne, hnames, hsteps⟩ := h
  obtain ⟨front, last, rfl⟩ := (List.eq_nil_or_concat' names).resolve_left hne
  have hlast := hnames last (List.mem_append_right front List.mem_cons_self)
  have hname : r.name = last := by
    rw [name_eq, hsteps, ← List.append_assoc, List.getLast?_concat]
    rfl
  have hordinary := isOrdinary_stagedName hlast fs.process fs.staged
  have hroute : (Store.FileSystem.stagedRoute r fs).1 =
      r.parent ++ [Store.Shelf.stagedName last fs.process fs.staged] := by
    rw [← hname]
    rfl
  refine ⟨front ++ [Store.Shelf.stagedName last fs.process fs.staged], by simp, ?_, ?_⟩
  · intro name hmem
    rcases List.mem_append.mp hmem with hfront | hnew
    · exact hnames name (List.mem_append_left _ hfront)
    · rw [List.mem_singleton.mp hnew]
      exact hordinary
  · rw [hroute, steps_append, steps_parent, hsteps, ← List.append_assoc, List.dropLast_concat,
      steps_singleton hordinary.leads.1, List.append_assoc]

end Staged

/-! ### Written paths -/

theorem not_slash_of_mem_ofText {text part : String} (h : part ∈ ofText text) :
    '/' ∉ part.toList := by
  rw [ofText, List.mem_map] at h
  obtain ⟨cs, hcs, rfl⟩ := h
  rw [String.toList_ofList]
  exact Text.not_mem_of_mem_cut hcs

theorem ofText_append_slash (text rest : String) :
    ofText (text ++ "/" ++ rest) = ofText text ++ ofText rest := by
  have hlist : (text ++ "/" ++ rest).toList = text.toList ++ '/' :: rest.toList := by
    simp [String.toList_append]
  rw [ofText, hlist, Text.cut_append_cons, List.map_append]
  rfl

theorem ofText_of_parts {parts : Route} (hne : parts ≠ [])
    (hparts : ∀ part ∈ parts, '/' ∉ part.toList) : ofText ("/".intercalate parts) = parts := by
  have hcut : Text.cut '/' ("/".toList.intercalate (parts.map String.toList)) =
      parts.map String.toList := Text.cut_intercalate (by simpa using hne) (by simpa using hparts)
  rw [ofText, String.toList_intercalate, hcut, List.map_map]
  simp [Function.comp_def]

theorem head?_ofText_of_slash {text : String} (h : text.toList.head? = some '/') :
    (ofText text).head? = some "" := by
  obtain ⟨rest, hrest⟩ := List.head?_eq_some_iff.mp h
  rw [ofText, hrest, Text.cut_mark_cons]
  rfl

theorem head?_ofText_eq_empty {text : String} (h : (ofText text).head? = some "") :
    text = "" ∨ text.toList.head? = some '/' := by
  cases htext : text.toList with
  | nil => exact .inl (String.toList_eq_nil_iff.mp htext)
  | cons c cs =>
    obtain ⟨part, parts, -, hcons⟩ := Text.exists_cut_cons '/' c cs
    rw [ofText, htext, hcons] at h
    split at h
    · exact .inr (congrArg some ‹c = '/'›)
    · simp at h

theorem getLast?_ofText_of_slash {text : String} (h : text.toList.getLast? = some '/') :
    (ofText text).getLast? = some "" := by
  obtain ⟨front, hfront⟩ := List.getLast?_eq_some_iff.mp h
  rw [ofText, hfront, Text.cut_append_cons, List.map_append]
  simp [Text.cut]

end Disk.Route

namespace Store.Location

open Disk (Route)

/-- The keys that have a path: those that are not empty, start neither at the top nor with a
point, never go up, and do not end with a slash. -/
structure Admissible (key : String) : Prop where
  nonempty : key ≠ ""
  relative : key.toList.head? ≠ some '/'
  pointless : (Route.ofText key).head? ≠ some "."
  down : ".." ∉ Route.ofText key
  named : key.toList.getLast? ≠ some '/'

/-- The keys that are spelled without points: those that are not empty, neither start nor end
with a slash, and have no part that is one point or two. -/
structure Regular (key : String) : Prop where
  nonempty : key ≠ ""
  relative : key.toList.head? ≠ some '/'
  named : key.toList.getLast? ≠ some '/'
  parts : ∀ part ∈ Route.ofText key, part ≠ "." ∧ part ≠ ".."

/-- A plain key starts neither at the root nor at the place itself, and never climbs. -/
theorem isPlain_iff (key : String) (h : key ≠ "") : isPlain key = true ↔
    key.toList.head? ≠ some '/' ∧ (Route.ofText key).head? ≠ some "." ∧
      ".." ∉ Route.ofText key := by
  have hstart : (Route.ofText key).head? = some "" ↔ key.toList.head? = some '/' :=
    ⟨fun hhead => (Route.head?_ofText_eq_empty hhead).resolve_left h,
      Route.head?_ofText_of_slash⟩
  rw [isPlain, Ne, ← hstart]
  simp [and_assoc]

theorem endsWithSlash_iff (text : String) :
    endsWithSlash text = true ↔ text.toList.getLast? = some '/' := by
  rw [endsWithSlash, beq_iff_eq]

theorem pathFor_of_admissible {key : String} (h : Admissible key) (root : String) :
    pathFor root key = .ok (join root key) := by
  have hplain := (isPlain_iff key h.nonempty).mpr ⟨h.relative, h.pointless, h.down⟩
  have hnamed : ¬ endsWithSlash key = true := fun hslash =>
    h.named ((endsWithSlash_iff key).mp hslash)
  rw [pathFor, if_neg (by simpa using h.nonempty), if_neg (by simp [hplain]), if_neg hnamed]

theorem pathFor_of_not_admissible {key : String} (h : ¬ Admissible key) (root : String) :
    ∃ reason, pathFor root key = .error (.invalidKey key reason) := by
  rw [pathFor]
  split_ifs with hempty hplain hslash
  · exact ⟨_, rfl⟩
  · exact ⟨_, rfl⟩
  · exact ⟨_, rfl⟩
  · have hnonempty : key ≠ "" := by simpa using hempty
    obtain ⟨hrelative, hpointless, hdown⟩ :=
      (isPlain_iff key hnonempty).mp (by simpa using hplain)
    exact absurd ⟨hnonempty, hrelative, hpointless, hdown,
      fun hlast => hslash ((endsWithSlash_iff key).mpr hlast)⟩ h

theorem pathFor_eq_ok_iff (root key path : String) :
    pathFor root key = .ok path ↔ Admissible key ∧ path = join root key := by
  constructor
  · intro h
    by_cases hkey : Admissible key
    · rw [pathFor_of_admissible hkey root] at h
      cases h
      exact ⟨hkey, rfl⟩
    · obtain ⟨reason, hreason⟩ := pathFor_of_not_admissible hkey root
      rw [hreason] at h
      cases h
  · rintro ⟨hkey, rfl⟩
    exact pathFor_of_admissible hkey root

/-- The path of a key is the key behind the parts of the directory. -/
theorem exists_ofText_join (root key : String) :
    ∃ front, Route.ofText (join root key) = front ++ Route.ofText key ∧
      Route.steps front = (Route.ofText root).steps := by
  rw [join]
  split_ifs with hroot
  · rcases (Bool.or_eq_true _ _).mp hroot with hempty | hslash
    · obtain rfl : root = "" := by simpa using hempty
      exact ⟨[], by simp, by decide⟩
    · obtain ⟨front, hfront⟩ := List.getLast?_eq_some_iff.mp ((endsWithSlash_iff root).mp hslash)
      have hsplit : root = String.ofList front ++ "/" := by
        apply String.toList_injective
        simp [hfront]
      refine ⟨Route.ofText (String.ofList front), ?_, ?_⟩
      · rw [hsplit, Route.ofText_append_slash]
      · have hempty := Route.ofText_append_slash (String.ofList front) ""
        rw [String.append_empty, ← hsplit] at hempty
        rw [hempty, Route.steps_append]
        exact (List.append_nil _).symm
  · exact ⟨Route.ofText root, Route.ofText_append_slash root key, rfl⟩

/-- All that leads anywhere in a key that has a path are names, and there is one. -/
theorem Admissible.steps {key : String} (h : Admissible key) :
    (Route.ofText key).steps ≠ [] ∧
      ∀ name ∈ (Route.ofText key).steps, Route.IsOrdinary name := by
  have hordinary : ∀ part ∈ Route.ofText key, Route.isIdle part = false →
      Route.IsOrdinary part := by
    intro part hpart hidle
    refine ⟨⟨hidle, ?_⟩, Route.not_slash_of_mem_ofText hpart⟩
    rintro rfl
    exact h.down hpart
  constructor
  · have hne : Route.ofText key ≠ [] := by simpa [Route.ofText] using Text.cut_ne_nil '/' key.toList
    obtain ⟨first, rest, hparts⟩ := List.exists_cons_of_ne_nil hne
    have hhead : (Route.ofText key).head? = some first := by rw [hparts, List.head?_cons]
    have hidle : Route.isIdle first = false := by
      rw [Route.isIdle, Bool.or_eq_false_iff, beq_eq_false_iff_ne, beq_eq_false_iff_ne]
      constructor
      · rintro rfl
        rcases Route.head?_ofText_eq_empty hhead with hempty | hslash
        · exact h.nonempty hempty
        · exact h.relative hslash
      · rintro rfl
        exact h.pointless hhead
    rw [hparts, ← List.singleton_append, Route.steps_append, Route.steps_singleton hidle]
    exact List.cons_ne_nil first _
  · intro name hname
    obtain ⟨hpart, hidle⟩ := Route.mem_steps hname
    exact hordinary name hpart hidle

theorem Regular.admissible {key : String} (h : Regular key) : Admissible key :=
  ⟨h.nonempty, h.relative, fun hfirst => (h.parts "." (List.mem_of_mem_head? hfirst)).1 rfl,
    fun hmem => (h.parts ".." hmem).2 rfl, h.named⟩

theorem Admissible.regular {key : String} (h : Admissible key)
    (htail : "." ∉ (Route.ofText key).tail) : Regular key := by
  refine ⟨h.nonempty, h.relative, h.named, ?_⟩
  intro part hpart
  refine ⟨?_, ?_⟩
  · rintro rfl
    cases hparts : Route.ofText key with
    | nil =>
      rw [hparts] at hpart
      cases hpart
    | cons first rest =>
      rw [hparts] at hpart htail
      rcases List.mem_cons.mp hpart with rfl | hrest
      · exact h.pointless (congrArg List.head? hparts)
      · exact htail hrest
  · rintro rfl
    exact h.down hpart

/-- The names of an admissible key, written one after another, are a key that is spelled without
points. -/
theorem Admissible.exists_regular {key : String} (h : Admissible key) :
    ∃ key', Route.ofText key' = (Route.ofText key).steps ∧ Regular key' := by
  obtain ⟨hne, hnames⟩ := h.steps
  have hparts : Route.ofText ("/".intercalate (Route.ofText key).steps) =
      (Route.ofText key).steps :=
    Route.ofText_of_parts hne fun name hname => (hnames name hname).whole
  have hidle : ∀ step, Route.isIdle step = true →
      step ∉ Route.ofText ("/".intercalate (Route.ofText key).steps) := by
    intro step hstep hmem
    rw [hparts] at hmem
    have hleads := (hnames step hmem).leads.1
    rw [hstep] at hleads
    cases hleads
  refine ⟨_, hparts, ?_, ?_, ?_, ?_⟩
  · intro hempty
    rw [hempty] at hidle
    exact hidle "" (by decide) (by decide)
  · intro hslash
    exact hidle "" (by decide) (List.mem_of_mem_head? (Route.head?_ofText_of_slash hslash))
  · intro hslash
    exact hidle "" (by decide) (List.mem_of_getLast? (Route.getLast?_ofText_of_slash hslash))
  · intro part hpart
    refine ⟨?_, ?_⟩
    · rintro rfl
      exact hidle "." (by decide) hpart
    · rw [hparts] at hpart
      exact (hnames part hpart).leads.2

theorem place_join (root key : String) : (Route.ofText (join root key)).place =
    ((Route.ofText root).steps ++ (Route.ofText key).steps : Route).place := by
  obtain ⟨front, hwritten, hfront⟩ := exists_ofText_join root key
  rw [← Route.place_steps (Route.ofText (join root key)), hwritten, Route.steps_append, hfront]

/-- Exactly the admissible keys have a path. They are the keys that are spelled without points
and, beside these, others with points behind their first part, each of which has a path to the
same place as one that is spelled without. -/
theorem exists_path_iff_admissible (root key : String) :
    ((∃ path, pathFor root key = .ok path) ↔ Admissible key) ∧
    ((∃ reason, pathFor root key = .error (.invalidKey key reason)) ↔ ¬ Admissible key) ∧
    ("." ∉ (Route.ofText key).tail → (Admissible key ↔ Regular key)) ∧
    ∀ path, pathFor root key = .ok path →
      ∃ key' path', Regular key' ∧ Route.ofText key' = (Route.ofText key).steps ∧
        pathFor root key' = .ok path' ∧
        (Route.ofText path').place = (Route.ofText path).place := by
  refine ⟨?_, ?_, ?_, ?_⟩
  · simp only [pathFor_eq_ok_iff, exists_and_left, exists_eq, and_true]
  · refine ⟨?_, fun h => pathFor_of_not_admissible h root⟩
    rintro ⟨reason, hreason⟩ hkey
    rw [pathFor_of_admissible hkey root] at hreason
    cases hreason
  · exact fun htail => ⟨fun h => h.regular htail, Regular.admissible⟩
  · intro path h
    obtain ⟨hkey, rfl⟩ := (pathFor_eq_ok_iff root key path).mp h
    obtain ⟨key', hparts, hregular⟩ := hkey.exists_regular
    refine ⟨key', _, hregular, hparts, pathFor_of_admissible hregular.admissible root, ?_⟩
    rw [place_join, place_join, hparts, Route.steps_steps]

/-- A key with a point between its names has a path, to the place of the key without it. -/
theorem exists_path_iff_admissible_pointed :
    pathFor "/tmp/dab" "a/./b" = .ok "/tmp/dab/a/./b" ∧
    (Admissible "a/b" ↔ Regular "a/b") ∧
    ∃ key' path', Regular key' ∧ Route.ofText key' = ["a", "b"] ∧
      pathFor "/tmp/dab" key' = .ok path' ∧
      (Route.ofText path').place = ["tmp", "dab", "a", "b"] := by
  have hpath : pathFor "/tmp/dab" "a/./b" = .ok "/tmp/dab/a/./b" := by decide
  obtain ⟨-, -, -, hrespelled⟩ := exists_path_iff_admissible "/tmp/dab" "a/./b"
  obtain ⟨-, -, hregular, -⟩ := exists_path_iff_admissible "/tmp/dab" "a/b"
  exact ⟨hpath, hregular (by decide), hrespelled _ hpath⟩

/-- Not only the keys that are spelled without points have a path. -/
theorem not_only_regular :
    ¬ ∀ root key, (∃ path, pathFor root key = .ok path) ↔ Regular key := by
  intro h
  have hregular := (h "/tmp/dab" "a/./b").mp ⟨"/tmp/dab/a/./b", by decide⟩
  exact (hregular.parts "." (by decide)).1 rfl

structure Sheltered (root key path : String) : Prop where
  below : (Route.ofText path).Below (Route.ofText root)
  /-- The path is written as the directory and then the key, which never goes up. -/
  written : ∃ front, Route.ofText path = front ++ Route.ofText key ∧
    Route.steps front = (Route.ofText root).steps
  down : ".." ∉ Route.ofText key
  /-- It starts at the top if the directory does. -/
  rooted : path.toList.head? = some '/' ↔ root.toList.head? = some '/'
  /-- Wherever a disk finds it, that is below the directory. -/
  found : ∀ (d : Disk) (q : Disk.Path), d.resolve (Route.ofText path) = .ok q →
    ∃ names, names ≠ [] ∧ q = (Route.ofText root).place ++ names
  staged_below : ∀ fs, (FileSystem.stagedRoute (Route.ofText path) fs).1.Below (Route.ofText root)
  staged_found : ∀ fs (d : Disk) (q : Disk.Path),
    d.resolve (FileSystem.stagedRoute (Route.ofText path) fs).1 = .ok q →
      ∃ names, names ≠ [] ∧ q = (Route.ofText root).place ++ names

theorem sheltered_of_admissible {key : String} (h : Admissible key) (root : String) :
    Sheltered root key (join root key) := by
  obtain ⟨front, hwritten, hfront⟩ := exists_ofText_join root key
  obtain ⟨hne, hnames⟩ := h.steps
  have hbelow : (Route.ofText (join root key)).Below (Route.ofText root) :=
    ⟨(Route.ofText key).steps, hne, hnames, by rw [hwritten, Route.steps_append, hfront]⟩
  refine ⟨hbelow, ⟨front, hwritten, hfront⟩, h.down, ?_, fun d q => hbelow.found, hbelow.staged,
    fun fs d q => (hbelow.staged fs).found⟩
  cases hroot : root.toList with
  | nil =>
    obtain rfl : root = "" := String.toList_eq_nil_iff.mp hroot
    simpa [join] using h.relative
  | cons c cs =>
    rw [join]
    split_ifs <;> simp [hroot]

section Digests

variable (policy : Policy)

theorem exists_ofText_keyOf : ∃ (front : Route) (last : String), ∀ hash,
    Route.ofText (Archive.keyOf policy hash) = front ++ [last ++ hash.digits] := by
  obtain ⟨front, last, hcut⟩ := Text.exists_cut_append '/' policy.keyHead.toList
  refine ⟨front.map String.ofList, String.ofList last, ?_⟩
  intro hash
  have hslash : '/' ∉ hash.digits.toList := fun hmem => (hash.mem_digits _ hmem).1 rfl
  rw [Archive.keyOf, Route.ofText, String.toList_append, hcut _ hslash, List.map_append,
    List.map_singleton, String.ofList_append, String.ofList_toList]

/-- Whether a digest has a path is told by the head of the keys alone. -/
theorem admissible_keyOf {hash : Hash} (h : Admissible (Archive.keyOf policy hash))
    (other : Hash) : Admissible (Archive.keyOf policy other) := by
  obtain ⟨front, last, hparts⟩ := exists_ofText_keyOf policy
  have hname := Shelf.isName_append_digits last other
  have hslash : '/' ∉ other.digits.toList := fun hmem => (other.mem_digits _ hmem).1 rfl
  have hne : other.digits.toList ≠ [] := by
    intro hnil
    have hlength := other.length_digits
    rw [hnil] at hlength
    cases hlength
  have hkey : (Archive.keyOf policy other).toList =
      policy.keyHead.toList ++ other.digits.toList := String.toList_append ..
  obtain ⟨-, hrelative, hpointless, hdown, -⟩ := h
  rw [hparts] at hpointless hdown
  rw [Archive.keyOf, String.toList_append] at hrelative
  refine ⟨?_, ?_, ?_, ?_, ?_⟩
  · intro hempty
    rw [hempty] at hkey
    exact hne (List.append_eq_nil_iff.mp hkey.symm).2
  · rw [hkey]
    cases hhead : policy.keyHead.toList with
    | nil => exact fun hfirst => hslash (List.mem_of_mem_head? hfirst)
    | cons c cs =>
      rw [hhead] at hrelative
      exact hrelative
  · rw [hparts]
    cases front with
    | nil =>
      intro hfirst
      rw [Option.some.inj hfirst] at hname
      exact absurd hname.1 (by decide)
    | cons part front => exact hpointless
  · rw [hparts, List.mem_append, List.mem_singleton, not_or]
    exact ⟨fun hfront => hdown (List.mem_append_left _ hfront), Ne.symm hname.2⟩
  · rw [hkey, List.getLast?_append_of_ne_nil _ hne]
    exact fun hlast => hslash (List.mem_of_getLast? hlast)

end Digests

/-- The path of a key leads below the directory, and so does the route on which a body is staged
for it; keys that lead anywhere else are refused; and different digests have different paths, or
none. -/
theorem paths_stay_below (root : String) :
    (∀ key path, pathFor root key = .ok path → Sheltered root key path) ∧
    (∀ key, key = "" ∨ key.toList.head? = some '/' ∨ ".." ∈ Route.ofText key ∨
        (Route.ofText key).head? = some "." ∨ key.toList.getLast? = some '/' →
      ∃ reason, pathFor root key = .error (.invalidKey key reason)) ∧
    ∀ (policy : Policy) (hash hash' : Hash), hash ≠ hash' →
      (∃ path path', pathFor root (Archive.keyOf policy hash) = .ok path ∧
        pathFor root (Archive.keyOf policy hash') = .ok path' ∧
        (Route.ofText path).steps ≠ (Route.ofText path').steps) ∨
      ∃ reason reason',
        pathFor root (Archive.keyOf policy hash) =
          .error (.invalidKey (Archive.keyOf policy hash) reason) ∧
        pathFor root (Archive.keyOf policy hash') =
          .error (.invalidKey (Archive.keyOf policy hash') reason') := by
  refine ⟨?_, ?_, ?_⟩
  · intro key path h
    obtain ⟨hkey, rfl⟩ := (pathFor_eq_ok_iff root key path).mp h
    exact sheltered_of_admissible hkey root
  · intro key h
    apply pathFor_of_not_admissible
    rintro ⟨hnonempty, hrelative, hpointless, hdown, hnamed⟩
    rcases h with h | h | h | h | h
    · exact hnonempty h
    · exact hrelative h
    · exact hdown h
    · exact hpointless h
    · exact hnamed h
  · intro policy hash hash' hne
    by_cases hkey : Admissible (Archive.keyOf policy hash)
    · refine .inl ⟨_, _, pathFor_of_admissible hkey root,
        pathFor_of_admissible (admissible_keyOf policy hkey hash') root, ?_⟩
      intro hsteps
      have hplace := congrArg Route.place hsteps
      rw [Route.place_steps, Route.place_steps] at hplace
      exact hne (Shelf.place_injective ⟨root, policy⟩ hplace)
    · have hkey' : ¬ Admissible (Archive.keyOf policy hash') := fun h =>
        hkey (admissible_keyOf policy h hash)
      obtain ⟨reason, hreason⟩ := pathFor_of_not_admissible hkey root
      obtain ⟨reason', hreason'⟩ := pathFor_of_not_admissible hkey' root
      exact .inr ⟨reason, reason', hreason, hreason'⟩

/-- A key with points and slashes that do not count, one that climbs, and two digests. -/
theorem paths_stay_below_wandering :
    Sheltered "/r/../s" "a/.//b/." "/r/../s/a/.//b/." ∧
    (∃ reason, pathFor "/r/../s" "a//.." = .error (.invalidKey "a//.." reason)) ∧
    ((∃ path path', pathFor "/r/../s" (Archive.keyOf .standard (.ofNat 0)) = .ok path ∧
        pathFor "/r/../s" (Archive.keyOf .standard (.ofNat 1)) = .ok path' ∧
        (Route.ofText path).steps ≠ (Route.ofText path').steps) ∨
      ∃ reason reason',
        pathFor "/r/../s" (Archive.keyOf .standard (.ofNat 0)) =
          .error (.invalidKey (Archive.keyOf .standard (.ofNat 0)) reason) ∧
        pathFor "/r/../s" (Archive.keyOf .standard (.ofNat 1)) =
          .error (.invalidKey (Archive.keyOf .standard (.ofNat 1)) reason')) := by
  obtain ⟨hsheltered, hrefused, hdigests⟩ := paths_stay_below "/r/../s"
  have hclimbs : ".." ∈ Route.ofText "a//.." := by decide
  exact ⟨hsheltered _ _ (by decide), hrefused _ (.inr (.inr (.inl hclimbs))),
    hdigests .standard _ _ (by decide)⟩

end Store.Location

end Validium
