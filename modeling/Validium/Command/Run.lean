import Validium.Command.Arguments
import Validium.Inspection

/-!
What the program does with its arguments, and how it ends: a status, what it prints, and
what it complains about. A migration that was not clean has status one, everything that
could not be begun has status two, and a program that breaks down has status 101.
-/
namespace Validium.Command

structure Host (W : Type) where
  around : Surroundings W
  signal : Signal W
  /-- Lets the signal fire once some time has passed. -/
  fireAfter : Duration → StateM W Unit
  /-- The variables of the environment. -/
  lookup : String → Option String

inductive Complaint where
  /-- The arguments are wrong. -/
  | usage
  | failure (f : Failure)
  deriving DecidableEq, Repr

structure Ending where
  status : Nat
  output : String
  complaint : Option Complaint
  deriving DecidableEq, Repr

namespace Ending

def failed (f : Failure) : Ending := ⟨2, "", some (.failure f)⟩

def brokenDown : Ending := ⟨101, "", none⟩

def printed (status : Nat) (v : Json.Value) : Ending := ⟨status, v.indented ++ "\n", none⟩

end Ending

def versionLine : String := "dab 0.3.0\n"

def settingsFailure (context : String) (e : Settings.Error) : Failure :=
  Failure.under context ⟨e.message, e.causes⟩

variable {W : Type}

/-- The settings in the file that is named, otherwise those in the environment. -/
def loadSettings (host : Host W) (config : Option String) : StateM W (Except Failure Settings) := do
  match config with
  | some path =>
    let disk := (host.around.files.view (← get)).disk
    return (Settings.ofFile path (disk.read (.ofText path))).mapError
      (settingsFailure ("failed to load " ++ path))
  | none =>
    return (Settings.ofLookup host.lookup).mapError (settingsFailure "invalid DA_* environment")

/-- The bytes that a word spells, which may have blanks around it and `0x` before it. -/
def readHex (data : String) : Except Failure Bytes :=
  let digits := Text.dropAll ['0', 'x'] (Text.trim data).toList
  (Hex.decode (Bytes.ofText (String.ofList digits))).mapError fun e =>
    (Failure.ofMessage e.message).under "input is not hex"

def inspect (data : String) (calldata : Bool) : Ending :=
  let shown := do
    let bytes ← readHex data
    if calldata then Inspection.calldata bytes else Inspection.envelope bytes
  match shown with
  | .ok v => .printed 0 v
  | .error f => .failed f

def migrate (host : Host W) (plan : Migration.Plan) (settings : Settings) : StateM W Ending := do
  match plan.prepare host.around settings with
  | .error f => return .failed f
  | .ok migrator =>
    host.fireAfter plan.timeout
    match ← migrator.run host.signal plan.firstBlock plan.lastBlock with
    | .brokeDown => return .brokenDown
    | .returned report => return .printed (if report.isClean then 0 else 1) report.toJson

def runAction (host : Host W) (config : Option String) : Action → StateM W Ending
  | .inspect data calldata => return inspect data calldata
  | .migrate plan => do
    match ← loadSettings host config with
    | .error f => return .failed f
    | .ok settings => migrate host plan settings

def runRequest (host : Host W) : Request → StateM W Ending
  | .nothing => return ⟨2, "", none⟩
  | .version => return ⟨0, versionLine, none⟩
  | .help => return ⟨0, "", none⟩
  | .misused => return ⟨2, "", some .usage⟩
  | .run i => runAction host i.config i.action

def run (host : Host W) (arguments : List String) : StateM W Ending :=
  runRequest host (parse host.lookup arguments)

end Validium.Command
