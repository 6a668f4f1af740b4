import Validium.Command.Run

/-!
The program. It works with the file of settings that it is given and has no way to the
network: every exchange fails, so a migration counts its blocks as failed.
-/
namespace Validium.Station

def network : Network Store.FileSystem := ⟨fun _ => return .failed .unreachable⟩

/-- Waiting for what cannot come takes no time. -/
def clock : Clock Store.FileSystem := ⟨fun _ => return (), fun d => return d⟩

def host (lookup : String → Option String) : Command.Host Store.FileSystem where
  around := ⟨network, clock, .whole⟩
  signal := .never
  fireAfter _ := return ()
  lookup := lookup

def diskWith (path : String) (content : Option ByteArray) : Disk :=
  match content with
  | none => .empty
  | some bytes => ((Disk.furnish (.ofText path) bytes.toList).run .empty).2

def readFile (path : String) : IO (Option ByteArray) := do
  try return some (← IO.FS.readBinFile path) catch _ => return none

def environment : IO (List (String × String)) :=
  Command.variableNames.filterMapM fun name => do
    return (← IO.getEnv name).map fun value => (name, value)

def configOf : Command.Request → Option String
  | .run i => i.config
  | _ => none

def stage (r : Command.Request) : IO Disk := do
  match configOf r with
  | some path => return diskWith path (← readFile path)
  | none => return .empty

def complaintLine : Command.Complaint → String
  | .usage => "error: the arguments are not understood"
  | .failure f => "error: " ++ f.line

end Validium.Station

open Validium in
def main (arguments : List String) : IO UInt32 := do
  let environment ← Station.environment
  let lookup (name : String) := environment.lookup name
  let disk ← Station.stage (Command.parse lookup arguments)
  let (ending, _) := (Command.run (Station.host lookup) arguments).run ⟨disk, 1, 0⟩
  IO.print ending.output
  match ending.complaint with
  | some c => IO.eprintln (Station.complaintLine c)
  | none => pure ()
  return UInt32.ofNat ending.status
