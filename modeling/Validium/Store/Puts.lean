import Validium.Steps
import Validium.Store.Archive
import Validium.Store.FileSystem

/-!
Every way in which puts to one file store can go together. A put takes the steps that it
takes when it is alone, in the same order: it makes the directories on the way to its file,
takes a number for the name of the staged file, creates that file, writes the body to it in any
number of pieces, syncs it and renames it. The steps of different puts come in any order. Any
step may fail, whatever the disk would say to it, and a step that fails changes nothing; the put
then removes its staged file and returns the fault. A put may also stop for good at any
point, and then leaves its staged file where it is.
-/
namespace Validium.Store

open Disk (Route)

structure Shelf where
  root : String
  policy : Policy
  deriving DecidableEq, Repr

namespace Shelf

variable (σ : Shelf)

def key (hash : Hash) : String := Archive.keyOf σ.policy hash

def route (hash : Hash) : Route := .ofText (Location.join σ.root (σ.key hash))

def staged (hash : Hash) (process n : Nat) : Route :=
  (σ.route hash).parent ++ [s!"{(σ.route hash).name}.tmp.{process}.{n}"]

end Shelf

namespace Puts

inductive Stage where
  /-- Making directories: those still to be tried, each of which lies in the next, and those
  to be tried again when the way to them is there. -/
  | making (down up : List Route)
  | creating (n : Nat)
  | writing (n : Nat) (rest : Bytes)
  | moving (n : Nat)
  | moved (n : Nat)
  /-- About to remove the staged file. -/
  | cleaning (n : Nat) (fault : Disk.Fault)
  | returned (n? : Option Nat) (result : Except Fault Unit)
  | stopped (n? : Option Nat)

namespace Stage

def number? : Stage → Option Nat
  | .making _ _ => none
  | .creating n => some n
  | .writing n _ => some n
  | .moving n => some n
  | .moved n => some n
  | .cleaning n _ => some n
  | .returned n? _ => n?
  | .stopped n? => n?

def staging? : Stage → Option Nat
  | .creating n => some n
  | .writing n _ => some n
  | .moving n => some n
  | _ => none

def isOpen : Stage → Bool
  | .returned _ _ => false
  | .stopped _ => false
  | _ => true

end Stage

/-- The directory that is tried next, and those that are to be tried again after it. -/
def next? : List Route → List Route → Option (Route × List Route)
  | r :: _, up => some (r, up)
  | [], r :: up => some (r, up)
  | [], [] => none

structure Put where
  hash : Hash
  body : Bytes
  stage : Stage

/-- Where a put begins. One with a key that leads nowhere ends there as well. -/
def entry (σ : Shelf) (hash : Hash) : Stage :=
  match Location.pathFor σ.root (σ.key hash) with
  | .error fault => .returned none (.error fault)
  | .ok _ => .making ((σ.route hash).parent :: (σ.route hash).parent.above) []

structure Site where
  fs : FileSystem
  puts : List Put

inductive Act where
  | make
  | pass
  | climb
  | name
  | create
  | append
  | sync
  | move
  | finish
  | fail
  | unlink
  /-- The staged file could not be removed. -/
  | leave
  | stop
  deriving DecidableEq, Repr

inductive Event where
  | begin (hash : Hash) (body : Bytes)
  /-- What the put with this number does. -/
  | turn (i : Nat) (act : Act)
  deriving DecidableEq

inductive Turn (σ : Shelf) (hash : Hash) (body : Bytes) :
    Act → FileSystem → Stage → FileSystem → Stage → Prop
  | make (fs : FileSystem) (down up later : List Route) (r : Route) (d : Disk)
      (hnext : next? down up = some (r, later)) (hmake : fs.disk.mkdir r = .ok d) :
      Turn σ hash body .make fs (.making down up) { fs with disk := d } (.making [] later)
  /-- A directory that could not be made is there. -/
  | pass (fs : FileSystem) (down up later : List Route) (r : Route)
      (hnext : next? down up = some (r, later)) (hthere : fs.disk.isDirectory r = true) :
      Turn σ hash body .pass fs (.making down up) fs (.making [] later)
  /-- The way to a directory that could not be made is missing. -/
  | climb (fs : FileSystem) (r : Route) (above up : List Route) :
      Turn σ hash body .climb fs (.making (r :: above) up) fs (.making above (r :: up))
  | quit (fs : FileSystem) (down up later : List Route) (r : Route) (fault : Disk.Fault)
      (hnext : next? down up = some (r, later)) :
      Turn σ hash body .fail fs (.making down up) fs
        (.returned none (.error (.io (σ.key hash) fault)))
  | name (fs : FileSystem) :
      Turn σ hash body .name fs (.making [] []) { fs with staged := fs.staged + 1 }
        (.creating fs.staged)
  | create (fs : FileSystem) (n : Nat) (d : Disk)
      (hcreate : fs.disk.create (σ.staged hash fs.process n) = .ok d) :
      Turn σ hash body .create fs (.creating n) { fs with disk := d } (.writing n body)
  | append (fs : FileSystem) (n : Nat) (piece rest : Bytes) (d : Disk)
      (happend : fs.disk.append (σ.staged hash fs.process n) piece = .ok d) :
      Turn σ hash body .append fs (.writing n (piece ++ rest)) { fs with disk := d }
        (.writing n rest)
  | sync (fs : FileSystem) (n : Nat) (d : Disk)
      (hsync : fs.disk.sync (σ.staged hash fs.process n) = .ok d) :
      Turn σ hash body .sync fs (.writing n []) { fs with disk := d } (.moving n)
  | move (fs : FileSystem) (n : Nat) (d : Disk)
      (hmove : fs.disk.rename (σ.staged hash fs.process n) (σ.route hash) = .ok d) :
      Turn σ hash body .move fs (.moving n) { fs with disk := d } (.moved n)
  | finish (fs : FileSystem) (n : Nat) :
      Turn σ hash body .finish fs (.moved n) fs (.returned (some n) (.ok ()))
  | fail (fs : FileSystem) (stage : Stage) (n : Nat) (fault : Disk.Fault)
      (hstage : stage.staging? = some n) :
      Turn σ hash body .fail fs stage fs (.cleaning n fault)
  | unlink (fs : FileSystem) (n : Nat) (fault : Disk.Fault) (d : Disk)
      (hunlink : fs.disk.unlink (σ.staged hash fs.process n) = .ok d) :
      Turn σ hash body .unlink fs (.cleaning n fault) { fs with disk := d }
        (.returned (some n) (.error (.io (σ.key hash) fault)))
  | leave (fs : FileSystem) (n : Nat) (fault : Disk.Fault) :
      Turn σ hash body .leave fs (.cleaning n fault) fs
        (.returned (some n) (.error (.io (σ.key hash) fault)))
  | stop (fs : FileSystem) (stage : Stage) (hopen : stage.isOpen = true) :
      Turn σ hash body .stop fs stage fs (.stopped stage.number?)

inductive Step (σ : Shelf) : Site → Event → Site → Prop
  | begin (s : Site) (hash : Hash) (body : Bytes) :
      Step σ s (.begin hash body)
        { s with puts := s.puts ++ [⟨hash, body, entry σ hash⟩] }
  | turn (s : Site) (i : Nat) (act : Act) (put : Put) (fs : FileSystem) (stage : Stage)
      (hput : s.puts[i]? = some put)
      (hturn : Turn σ put.hash put.body act s.fs put.stage fs stage) :
      Step σ s (.turn i act) ⟨fs, s.puts.set i { put with stage := stage }⟩

abbrev Run (σ : Shelf) : Site → List Event → Site → Prop := Steps (Step σ)

end Puts

end Validium.Store
