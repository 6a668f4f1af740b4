import Mathlib
import Validium.Proofs.Store.Atomic
import Validium.Proofs.World.Passage

/-!
A put that no other put disturbs is one of the ways in which puts can go together. So what holds
of all of them holds of the put that runs through, and what it has stored is read back.
-/
namespace Validium.Store.Puts

open Disk (Route)
open FileSystem (putAt write)

variable {σ : Shelf} {hash : Hash} {body : Bytes}

abbrev Turns (σ : Shelf) (hash : Hash) (body : Bytes) :
    FileSystem × Stage → List Act → FileSystem × Stage → Prop :=
  Steps fun s act t => Turn σ hash body act s.1 s.2 t.1 t.2

theorem Turns.one {act : Act} {fs fs' : FileSystem} {stage stage' : Stage}
    (h : Turn σ hash body act fs stage fs' stage') :
    Turns σ hash body (fs, stage) [act] (fs', stage') :=
  Steps.nil.snoc h

theorem Turns.next {s : FileSystem × Stage} {acts : List Act} {act : Act}
    {fs fs' : FileSystem} {stage stage' : Stage} (h : Turns σ hash body s acts (fs, stage))
    (hturn : Turn σ hash body act fs stage fs' stage') :
    Turns σ hash body s (acts ++ [act]) (fs', stage') :=
  Steps.snoc h hturn

theorem Turns.process {s t : FileSystem × Stage} {acts : List Act}
    (h : Turns σ hash body s acts t) : t.1.process = s.1.process := by
  induction h with
  | nil => rfl
  | snoc _ hturn ih => exact hturn.process.trans ih

/-- The put that has begun last goes on alone. -/
theorem run_of_turns {fs : FileSystem} {stage : Stage} {acts : List Act} {t : FileSystem × Stage}
    (h : Turns σ hash body (fs, stage) acts t) (puts : List Put) :
    Run σ ⟨fs, puts ++ [⟨hash, body, stage⟩]⟩ (acts.map (.turn puts.length))
      ⟨t.1, puts ++ [⟨hash, body, t.2⟩]⟩ := by
  induction h with
  | nil => exact Steps.nil
  | @snoc acts t u act _ hturn ih =>
    have hstep := @Step.turn σ ⟨t.1, puts ++ [⟨hash, body, t.2⟩]⟩ puts.length act
      ⟨hash, body, t.2⟩ u.1 u.2 (by simp) hturn
    simp only [set_length_append] at hstep
    rw [List.map_append]
    exact ih.snoc hstep

section Making

def made (σ : Shelf) (hash : Hash) (later : List Route) : Except Disk.Fault Unit → Stage
  | .ok () => .making [] later
  | .error fault => .returned none (.error (.io (σ.key hash) fault))

theorem turns_attempt (body : Bytes) (fs : FileSystem) {down up later : List Route} {r : Route}
    (hnext : next? down up = some (r, later)) :
    ∃ acts, Turns σ hash body (fs, .making down up) acts
      ({ fs with disk := (Disk.mkdirsUp.attempt r fs.disk).2 },
        made σ hash later (Disk.mkdirsUp.attempt r fs.disk).1) := by
  rw [Disk.mkdirsUp.attempt]
  split
  · exact ⟨_, Turns.one (.make fs down up later r _ hnext ‹_›)⟩
  · by_cases hthere : fs.disk.isDirectory r = true
    · rw [if_pos hthere]
      exact ⟨_, Turns.one (.pass fs down up later r hnext hthere)⟩
    · rw [if_neg hthere]
      exact ⟨_, Turns.one (.quit fs down up later r _ hnext)⟩
  · exact ⟨_, Turns.one (.quit fs down up later r _ hnext)⟩

theorem attempt_error {r : Route} {d e : Disk} {fault : Disk.Fault}
    (h : Disk.mkdirsUp.attempt r d = (.error fault, e)) : e = d := by
  rw [Disk.mkdirsUp.attempt] at h
  split at h
  · cases h
  · exact (Prod.ext_iff.mp h).2.symm
  · exact (Prod.ext_iff.mp h).2.symm

/-- The directories on the way are made one after the other, beginning at the first whose own
way is there. -/
theorem turns_mkdirsUp (σ : Shelf) (hash : Hash) (body : Bytes) (fs : FileSystem)
    (down up : List Route) : ∃ acts, Turns σ hash body (fs, .making down up) acts
      ({ fs with disk := (Disk.mkdirsUp down fs.disk).2 },
        made σ hash up (Disk.mkdirsUp down fs.disk).1) := by
  induction down generalizing fs up with
  | nil => exact ⟨_, Steps.nil⟩
  | cons r above ih =>
    have hnext : next? (r :: above) up = some (r, up) := rfl
    obtain ⟨acts, hfirst⟩ := turns_attempt body fs hnext
    rw [Disk.mkdirsUp, bind_apply]
    rcases hattempt : Disk.mkdirsUp.attempt r fs.disk with ⟨first | ⟨⟩, d⟩
    · by_cases hmissing : first = .noEntry
      · subst hmissing
        obtain rfl := attempt_error hattempt
        obtain ⟨climbs, hclimbs⟩ := ih fs (r :: up)
        have hway := (Turns.one (.climb fs r above up)).trans hclimbs
        simp only [bind_apply]
        rcases hup : Disk.mkdirsUp above fs.disk with ⟨fault | ⟨⟩, d⟩
        · rw [hup] at hway
          exact ⟨_, hway⟩
        · rw [hup] at hway
          have hagain : next? [] (r :: up) = some (r, up) := rfl
          obtain ⟨acts', hlast⟩ := turns_attempt body { fs with disk := d } hagain
          exact ⟨_, hway.trans hlast⟩
      · rw [hattempt] at hfirst
        refine ⟨acts, ?_⟩
        cases first <;> first | exact hfirst | exact absurd rfl hmissing
    · rw [hattempt] at hfirst
      exact ⟨acts, hfirst⟩

end Making

section Writing

theorem step_run_ok (fs : FileSystem) (f : Disk → Except Disk.Fault Disk) {d : Disk}
    (h : f fs.disk = .ok d) : (FileSystem.step f).run fs = (.ok (), { fs with disk := d }) := by
  simp only [FileSystem.step, ExceptT.run, h]

theorem step_run_error (fs : FileSystem) (f : Disk → Except Disk.Fault Disk) {fault : Disk.Fault}
    (h : f fs.disk = .error fault) : (FileSystem.step f).run fs = (.error fault, fs) := by
  simp only [FileSystem.step, ExceptT.run, h]

def wrote (n : Nat) : Except Disk.Fault Unit → Stage
  | .ok () => .moved n
  | .error fault => .cleaning n fault

theorem turns_write (σ : Shelf) (hash : Hash) (body : Bytes) (fs : FileSystem) (n : Nat) :
    ∃ acts, Turns σ hash body (fs, .creating n) acts
      (((write (σ.staged hash fs.process n) (σ.route hash) body).run fs).2,
        wrote n ((write (σ.staged hash fs.process n) (σ.route hash) body).run fs).1) := by
  generalize hstaged : σ.staged hash fs.process n = staged
  generalize htarget : σ.route hash = target
  rw [write]
  cases hcreate : fs.disk.create staged with
  | error fault =>
    have hrun := step_run_error fs (·.create staged) hcreate
    rw [run_bind_error hrun]
    exact ⟨_, Turns.one (.fail fs _ n fault rfl)⟩
  | ok created =>
    have hrun := step_run_ok fs (·.create staged) hcreate
    have hcreated : Turns σ hash body (fs, .creating n) [.create]
        ({ fs with disk := created }, .writing n body) :=
      Turns.one (.create fs n created (by rw [hstaged]; exact hcreate))
    rw [run_bind_ok hrun]
    cases happend : created.append staged body with
    | error fault =>
      have hrun := step_run_error { fs with disk := created } (·.append staged body) happend
      rw [run_bind_error hrun]
      exact ⟨_, hcreated.next (.fail _ _ n fault rfl)⟩
    | ok written =>
      have hrun := step_run_ok { fs with disk := created } (·.append staged body) happend
      have hwritten := @Turn.append σ hash body { fs with disk := created } n body [] written
        (by rw [← hstaged] at happend; exact happend)
      rw [List.append_nil] at hwritten
      have hsynced := (hcreated.next hwritten).next (.sync _ n written rfl)
      have hsync := step_run_ok { fs with disk := written } (·.sync staged) rfl
      rw [run_bind_ok hrun, run_bind_ok hsync]
      cases hmove : written.rename staged target with
      | error fault =>
        have hrun := step_run_error { fs with disk := written } (·.rename staged target) hmove
        rw [hrun]
        exact ⟨_, hsynced.next (.fail _ _ n fault rfl)⟩
      | ok moved =>
        have hrun := step_run_ok { fs with disk := written } (·.rename staged target) hmove
        rw [hrun]
        rw [← hstaged, ← htarget] at hmove
        exact ⟨_, hsynced.next (.move _ n moved hmove)⟩

def stage (staged target : Route) (body : Bytes) : StateM FileSystem (Except Disk.Fault Unit) := do
  match ← (write staged target body).run with
  | .ok () => return .ok ()
  | .error fault =>
    FileSystem.discard staged
    return .error fault

theorem stage_apply (staged target : Route) (body : Bytes) (fs : FileSystem) :
    stage staged target body fs =
      match (write staged target body).run fs with
      | (.ok (), gs) => (.ok (), gs)
      | (.error fault, gs) =>
        (.error fault, ((FileSystem.step (·.unlink staged)).run gs).2) := by
  rw [stage, bind_apply]
  rcases (write staged target body).run fs with ⟨fault | ⟨⟩, gs⟩
  · rfl
  · rfl

theorem putAt_apply (r : Route) (body : Bytes) (fs : FileSystem) :
    putAt r body fs =
      match Disk.mkdirs r.parent fs.disk with
      | (.ok (), d) => stage (r.parent ++ [s!"{r.name}.tmp.{fs.process}.{fs.staged}"]) r body
          { fs with disk := d, staged := fs.staged + 1 }
      | (.error fault, d) => (.error fault, { fs with disk := d }) := by
  rw [putAt, bind_apply, FileSystem.onDisk]
  rcases Disk.mkdirs r.parent fs.disk with ⟨fault | ⟨⟩, d⟩
  · rfl
  · rfl

theorem put_apply {root key path : String} (h : Location.pathFor root key = .ok path)
    (body : Bytes) (fs : FileSystem) : FileSystem.put root key body fs =
      ((putAt (.ofText path) body fs).1.mapError (.io key), (putAt (.ofText path) body fs).2) := by
  rw [FileSystem.put, h]
  simp only [bind_apply]
  generalize putAt (.ofText path) body fs = done
  rfl

theorem turns_stage (σ : Shelf) (hash : Hash) (body : Bytes) (fs : FileSystem) (n : Nat) :
    ∃ acts, Turns σ hash body (fs, .creating n) acts
      ((stage (σ.staged hash fs.process n) (σ.route hash) body fs).2,
        .returned (some n) ((stage (σ.staged hash fs.process n) (σ.route hash) body fs).1.mapError
          (.io (σ.key hash)))) := by
  obtain ⟨acts, hwrite⟩ := turns_write σ hash body fs n
  have hprocess := hwrite.process
  rw [stage_apply]
  rcases hwrote : (write (σ.staged hash fs.process n) (σ.route hash) body).run fs with
    ⟨fault | ⟨⟩, gs⟩
  · rw [hwrote] at hwrite hprocess
    dsimp only at hprocess ⊢
    cases hunlink : gs.disk.unlink (σ.staged hash fs.process n) with
    | error other =>
      rw [step_run_error gs (·.unlink (σ.staged hash fs.process n)) hunlink]
      exact ⟨_, hwrite.next (.leave gs n fault)⟩
    | ok d =>
      rw [step_run_ok gs (·.unlink (σ.staged hash fs.process n)) hunlink]
      rw [← hprocess] at hunlink
      exact ⟨_, hwrite.next (.unlink gs n fault d hunlink)⟩
  · rw [hwrote] at hwrite
    exact ⟨_, hwrite.next (.finish gs n)⟩

theorem turns_putAt (σ : Shelf) (hash : Hash) (body : Bytes) (fs : FileSystem) :
    ∃ acts n?, Turns σ hash body
      (fs, .making ((σ.route hash).parent :: (σ.route hash).parent.above) []) acts
      ((putAt (σ.route hash) body fs).2,
        .returned n? ((putAt (σ.route hash) body fs).1.mapError (.io (σ.key hash)))) := by
  obtain ⟨makes, hmade⟩ := turns_mkdirsUp σ hash body fs
    ((σ.route hash).parent :: (σ.route hash).parent.above) []
  rw [putAt_apply, Disk.mkdirs]
  rcases hmkdirs : Disk.mkdirsUp ((σ.route hash).parent :: (σ.route hash).parent.above) fs.disk
    with ⟨fault | ⟨⟩, d⟩
  · rw [hmkdirs] at hmade
    exact ⟨_, none, hmade⟩
  · rw [hmkdirs] at hmade
    obtain ⟨acts, hstage⟩ := turns_stage σ hash body
      { fs with disk := d, staged := fs.staged + 1 } fs.staged
    exact ⟨_, _, (hmade.next (.name _)).trans hstage⟩

end Writing

/-- A put that runs through without being disturbed is a way in which puts can go. -/
theorem exists_run_of_put (σ : Shelf) (hash : Hash) (body : Bytes) (fs : FileSystem)
    (puts : List Put) : ∃ es n?, Run σ ⟨fs, puts⟩ es
      ⟨(FileSystem.put σ.root (σ.key hash) body fs).2, puts ++ [⟨hash, body,
        .returned n? (FileSystem.put σ.root (σ.key hash) body fs).1⟩]⟩ := by
  have hbegin : Run σ ⟨fs, puts⟩ [.begin hash body] ⟨fs, puts ++ [⟨hash, body, entry σ hash⟩]⟩ :=
    Steps.nil.snoc (.begin ⟨fs, puts⟩ hash body)
  rw [entry] at hbegin
  cases hpath : Location.pathFor σ.root (σ.key hash) with
  | error fault =>
    rw [hpath] at hbegin
    rw [FileSystem.put, hpath]
    exact ⟨_, none, hbegin⟩
  | ok path =>
    obtain ⟨acts, n?, hacts⟩ := turns_putAt σ hash body fs
    have hroute : Route.ofText path = σ.route hash := by
      rw [((Location.pathFor_eq_ok_iff ..).mp hpath).2]
      rfl
    rw [hpath] at hbegin
    rw [put_apply hpath, hroute]
    dsimp only at hbegin ⊢
    have halone := run_of_turns hacts puts
    dsimp only at halone
    exact ⟨_, n?, hbegin.trans halone⟩

/-- What a put has stored is read back. -/
theorem get_put (σ : Shelf) (hash : Hash) (body : Bytes) (fs : FileSystem)
    (hfew : fs.staged < 2 ^ 64) (h : (FileSystem.put σ.root (σ.key hash) body fs).1 = .ok ()) :
    FileSystem.get σ.root (σ.key hash) (FileSystem.put σ.root (σ.key hash) body fs).2 =
      .ok body := by
  obtain ⟨es, n?, hrun⟩ := exists_run_of_put σ hash body fs []
  generalize FileSystem.put σ.root (σ.key hash) body fs = done at h hrun ⊢
  have hsound := run_sound hrun hfew
  have hmoved := hsound.counts 0 _ rfl
  rw [h] at hmoved
  have hcount : es.count (.turn 0 .move) = 1 := hmoved
  have hpos : 0 < es.count (.turn 0 .move) := by omega
  obtain ⟨es₁, es₂, hes⟩ := List.append_of_mem (List.count_pos_iff.mp hpos)
  have hseen := @run_seen σ hash body _ es fs hrun hfew 0 es₁ es₂ hes rfl
  refine hseen ?_
  intro i other hmem hrequest
  have hbegun := hsound.begun i .move (by rw [hes]; simp [hmem])
  obtain rfl : i = 0 := by simpa using hbegun
  have hagain := List.count_pos_iff.mpr hmem
  rw [hes, List.count_append, List.count_cons_self] at hcount
  omega

/-- A put changes no object but its own, and none at all when it returns a fault. -/
theorem object?_put (σ : Shelf) (hash other : Hash) (body : Bytes) (fs : FileSystem)
    (hfew : fs.staged < 2 ^ 64)
    (h : other ≠ hash ∨ (FileSystem.put σ.root (σ.key hash) body fs).1 ≠ .ok ()) :
    σ.object? other (FileSystem.put σ.root (σ.key hash) body fs).2 = σ.object? other fs := by
  obtain ⟨es, n?, hrun⟩ := exists_run_of_put σ hash body fs []
  generalize FileSystem.put σ.root (σ.key hash) body fs = done at h hrun ⊢
  have hsound := run_sound hrun hfew
  refine run_untouched hrun hfew ?_
  intro i moved hmem hrequest
  obtain rfl : i = 0 := by simpa using hsound.begun i .move hmem
  cases hrequest
  rcases h with hother | hfailed
  · exact hother rfl
  · have hcounts := hsound.counts 0 _ rfl
    cases hresult : done.1 with
    | ok _ => exact hfailed hresult
    | error fault =>
      rw [hresult] at hcounts
      exact List.count_eq_zero.mp hcounts hmem

end Validium.Store.Puts
