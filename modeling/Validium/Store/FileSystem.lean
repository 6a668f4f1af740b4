import Validium.Store.Location
import Validium.Store.Object
import Validium.World

/-!
Objects as files below a directory. A body is first written to a file beside its place,
under a name that no other writing uses, and then renamed to its place; so the file there
is always a whole body. Times of expiry are not kept.
-/
namespace Validium.Store

/-- A disk, the number of the process that writes to it, and how many files it has staged
so far. -/
structure FileSystem where
  disk : Disk
  process : Nat
  staged : Nat
  deriving DecidableEq, Repr

namespace FileSystem

def onDisk {α : Type} (action : StateM Disk α) : StateM FileSystem α := fun fs =>
  let (a, d) := action fs.disk
  (a, { fs with disk := d })

/-- One step on the disk, which stays as it is when the step fails. -/
def step (f : Disk → Except Disk.Fault Disk) : ExceptT Disk.Fault (StateM FileSystem) Unit :=
  fun fs =>
    match f fs.disk with
    | .ok d => (.ok (), { fs with disk := d })
    | .error fault => (.error fault, fs)

def stagedRoute (r : Disk.Route) : StateM FileSystem Disk.Route := do
  let fs ← get
  set { fs with staged := fs.staged + 1 }
  return r.parent ++ [s!"{r.name}.tmp.{fs.process}.{fs.staged}"]

def write (staged target : Disk.Route) (body : Bytes) :
    ExceptT Disk.Fault (StateM FileSystem) Unit := do
  step (·.create staged)
  step (·.append staged body)
  step (·.sync staged)
  step (·.rename staged target)

def discard (staged : Disk.Route) : StateM FileSystem Unit := do
  let _ ← (step (·.unlink staged)).run

def putAt (r : Disk.Route) (body : Bytes) : StateM FileSystem (Except Disk.Fault Unit) := do
  match ← onDisk (Disk.mkdirs r.parent) with
  | .error fault => return .error fault
  | .ok () =>
    let staged ← stagedRoute r
    match ← (write staged r body).run with
    | .ok () => return .ok ()
    | .error fault =>
      discard staged
      return .error fault

def put (root key : String) (body : Bytes) : StateM FileSystem (Except Fault Unit) := do
  match Location.pathFor root key with
  | .error fault => return .error fault
  | .ok path => return (← putAt (.ofText path) body).mapError (.io key)

def get (root key : String) (fs : FileSystem) : Except Fault Bytes :=
  match Location.pathFor root key with
  | .error fault => .error fault
  | .ok path =>
    match fs.disk.read (.ofText path) with
    | .ok body => .ok body
    | .error .noEntry => .error (.notFound key)
    | .error fault => .error (.io key fault)

/-- Usable means that the directory is there or can be made. -/
def health (root : String) : StateM FileSystem (Except Fault Unit) := do
  return (← onDisk (Disk.mkdirs (.ofText root))).mapError (.io root)

def objects {W : Type} (part : Part W FileSystem) (root : String) : Objects W where
  name := "filesystem"
  put key body _ := part.run do return .returned (← put root key body)
  get key := part.run fun fs => (.returned (get root key fs), fs)
  health := part.run (health root)

end FileSystem

end Validium.Store
