import Validium.Disk
import Validium.Signal
import Validium.Text.Quoted

/-!
What can go wrong with stored objects: a fault of one object, or a list of such faults in
an operation on several.
-/
namespace Validium.Store

inductive Fault where
  | notFound (key : String)
  /-- The content has another digest than the key says. -/
  | corrupt (key : String)
  | invalidKey (key reason : String)
  | io (key : String) (fault : Disk.Fault)
  | backend (name message : String)
  | worker (message : String)
  | cancelled
  deriving DecidableEq, Repr

namespace Fault

def message : Fault → String
  | .notFound key => "object not found: " ++ key
  | .corrupt key => s!"object {key} is corrupt: content does not match its hash"
  | .invalidKey key reason => s!"invalid object key {Text.quoted key}: {reason}"
  | .io key fault => s!"I/O error on {key}: " ++ fault.message
  | .backend name text => s!"{name} backend error: {text}"
  | .worker text => "store worker failed: " ++ text
  | .cancelled => Cancelled.message

def causes : Fault → List String
  | .io _ fault => [fault.message]
  | _ => []

def brokenWorker : Fault := .worker "worker panicked before reporting"

end Fault

structure Failure where
  index : Nat
  key : String
  fault : Fault
  deriving DecidableEq, Repr

structure Incomplete where
  total : Nat
  failures : List Failure
  deriving DecidableEq, Repr

namespace Incomplete

def failureText (f : Failure) : String :=
  s!"[{f.index}] {f.key}: " ++ f.fault.message

def message (e : Incomplete) : String :=
  let head := s!"{e.failures.length} of {e.total} store operations failed"
  if e.failures.isEmpty then head
  else head ++ ": " ++ String.intercalate "; " (e.failures.map failureText)

def indices (e : Incomplete) : List Nat :=
  e.failures.map Failure.index

end Incomplete

inductive Error where
  | fault (f : Fault)
  | incomplete (e : Incomplete)
  deriving DecidableEq, Repr

namespace Error

def message : Error → String
  | .fault f => f.message
  | .incomplete e => e.message

def causes : Error → List String
  | .fault f => f.causes
  | .incomplete _ => []

end Error

end Validium.Store
