import Validium.Bytes
import Validium.Text.Cut

/-!
A file system as a map from places to directories and files. A place is the list of the
names that lead to it from the top. Whoever works on a place names a route to it, which is
walked step by step through directories that exist and fails at the first step that cannot
be taken; the place at its end need not exist.
-/
namespace Validium

inductive Disk.Node where
  | directory
  | file (body : Bytes)
  deriving DecidableEq, Repr

/-- Everything below the top directory, which always exists. -/
structure Disk where
  nodes : List (List String × Disk.Node)
  deriving DecidableEq, Repr

namespace Disk

abbrev Path := List String

/-- What stands between the slashes of a written path. A name leads down and two points lead
up; one point, and nothing at all, stay. -/
abbrev Route := List String

namespace Route

def ofText (text : String) : Route :=
  (Text.cut '/' text.toList).map String.ofList

def isIdle (step : String) : Bool := step == "" || step == "."

def trimmed (r : Route) : Route := (r.reverse.dropWhile isIdle).reverse

def parent (r : Route) : Route := trimmed (trimmed r).dropLast

def name (r : Route) : String := (trimmed r).getLast?.getD ""

def size (r : Route) : Nat := r.foldl (fun n step => n + step.utf8ByteSize + 1) 0 - 1

def above (r : Route) : List Route :=
  go (trimmed r).dropLast.reverse
where
  /-- The steps come last first. -/
  go : List String → List Route
    | [] => []
    | step :: rest => if isIdle step then go rest else (step :: rest).reverse :: go rest

end Route

inductive Fault where
  | noEntry
  | busy
  | alreadyExists
  | notDirectory
  | isDirectory
  | nameTooLong
  | zeroByte
  deriving DecidableEq, Repr

def Fault.message : Fault → String
  | .noEntry => "No such file or directory (os error 2)"
  | .busy => "Device or resource busy (os error 16)"
  | .alreadyExists => "File exists (os error 17)"
  | .notDirectory => "Not a directory (os error 20)"
  | .isDirectory => "Is a directory (os error 21)"
  | .nameTooLong => "File name too long (os error 36)"
  | .zeroByte => "file name contained an unexpected NUL byte"

def empty : Disk := ⟨[]⟩

def node? (d : Disk) (p : Path) : Option Node :=
  if p.isEmpty then some .directory else (d.nodes.find? (·.1 == p)).map (·.2)

def insert (d : Disk) (p : Path) (n : Node) : Disk :=
  ⟨(p, n) :: d.nodes.filter (·.1 != p)⟩

def erase (d : Disk) (p : Path) : Disk :=
  ⟨d.nodes.filter (·.1 != p)⟩

def maxName : Nat := 255

def maxSize : Nat := 4095

/-- Walks from a place; each step is taken from a directory. -/
def walk (d : Disk) : Path → Route → Except Fault Path
  | place, [] => .ok place
  | place, step :: rest =>
    match d.node? place with
    | none => .error .noEntry
    | some (.file _) => .error .notDirectory
    | some .directory =>
      if Route.isIdle step then walk d place rest
      else if step = ".." then walk d place.dropLast rest
      else if maxName < step.utf8ByteSize then .error .nameTooLong
      else walk d (place ++ [step]) rest

def resolve (d : Disk) (r : Route) : Except Fault Path :=
  if r.any (fun step => step.toList.contains '\x00') then .error .zeroByte
  else if maxSize < r.size then .error .nameTooLong
  else d.walk [] r

def mkdir (d : Disk) (r : Route) : Except Fault Disk := do
  let p ← d.resolve (r.reverse.dropWhile String.isEmpty).reverse
  match d.node? p with
  | some _ => .error .alreadyExists
  | none => return d.insert p .directory

/-- Opens a file for writing, emptying it if it exists. -/
def create (d : Disk) (r : Route) : Except Fault Disk := do
  let p ← d.resolve r
  match d.node? p with
  | some .directory => .error .isDirectory
  | _ => return d.insert p (.file [])

def append (d : Disk) (r : Route) (b : Bytes) : Except Fault Disk := do
  let p ← d.resolve r
  match d.node? p with
  | some (.file body) => return d.insert p (.file (body ++ b))
  | some .directory => .error .isDirectory
  | none => .error .noEntry

/-- Forces a file to the medium; the map already shows what was written. -/
def sync (d : Disk) (_ : Route) : Except Fault Disk := .ok d

/-- Gives a file another name, in place of a file that has it already. The new path must
end in the name. -/
def rename (d : Disk) (r s : Route) : Except Fault Disk := do
  let p ← d.resolve r
  let q ← d.resolve s
  if s.getLast?.any Route.isIdle then .error .busy
  else
    match d.node? p with
    | none => .error .noEntry
    | some n =>
      match d.node? q with
      | some .directory => .error .isDirectory
      | _ => return (d.erase p).insert q n

def unlink (d : Disk) (r : Route) : Except Fault Disk := do
  let p ← d.resolve r
  match d.node? p with
  | none => .error .noEntry
  | some .directory => .error .isDirectory
  | some (.file _) => return d.erase p

def read (d : Disk) (r : Route) : Except Fault Bytes := do
  let p ← d.resolve r
  match d.node? p with
  | none => .error .noEntry
  | some .directory => .error .isDirectory
  | some (.file body) => return body

def isDirectory (d : Disk) (r : Route) : Bool :=
  match d.resolve r with
  | .ok p => d.node? p == some .directory
  | .error _ => false

/-- Makes the first of some directories, each of which lies in the next. If the way to it is
missing, that is made before; what was made stays when a later step fails. -/
def mkdirsUp : List Route → StateM Disk (Except Fault Unit)
  | [] => return .ok ()
  | r :: above => do
    let first ← attempt r
    match first with
    | .error .noEntry =>
      match ← mkdirsUp above with
      | .error fault => return .error fault
      | .ok () => attempt r
    | _ => return first
where
  /-- One directory; that it exists already is no fault. -/
  attempt (r : Route) : StateM Disk (Except Fault Unit) := fun d =>
    match d.mkdir r with
    | .ok e => (.ok (), e)
    | .error .alreadyExists => (if d.isDirectory r then .ok () else .error .alreadyExists, d)
    | .error fault => (.error fault, d)

/-- Makes a directory and all that lead to it; those that exist already are kept. -/
def mkdirs (r : Route) : StateM Disk (Except Fault Unit) :=
  mkdirsUp (r :: r.above)

def furnish (r : Route) (body : Bytes) : StateM Disk Unit := do
  let _ ← mkdirs r.parent
  modify fun d =>
    match d.resolve r with
    | .ok p => (Disk.mk (d.nodes.filter fun n => !p.isPrefixOf n.1)).insert p (.file body)
    | .error _ => d

def filesUnder (d : Disk) (r : Route) : List (Path × Bytes) :=
  match d.resolve r with
  | .error _ => []
  | .ok p => d.nodes.filterMap fun (q, n) =>
    match n with
    | .file body => if p.isPrefixOf q && p ≠ q then some (q.drop p.length, body) else none
    | .directory => none

end Disk

end Validium
