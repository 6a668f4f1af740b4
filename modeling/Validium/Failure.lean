/-!
A failure as an operator reads it: what went wrong, then the causes under it, the nearest
first.
-/
namespace Validium

structure Failure where
  message : String
  causes : List String
  deriving DecidableEq, Repr

namespace Failure

def under (context : String) (f : Failure) : Failure :=
  ⟨context, f.message :: f.causes⟩

def ofMessage (message : String) : Failure := ⟨message, []⟩

def line (f : Failure) : String :=
  String.intercalate ": " (f.message :: f.causes)

/-- The lines of a report: the message, and the causes, numbered if there are several. -/
def report (f : Failure) : List String :=
  ("Error: " ++ f.message) ::
    match f.causes with
    | [] => []
    | [cause] => ["Caused by:", cause]
    | causes => "Caused by:" :: causes.zipIdx.map fun (cause, n) => s!"{n}: " ++ cause

end Failure

end Validium
