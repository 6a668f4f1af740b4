import Validium.Committee
import Validium.Migration.Report
import Validium.RawSubmission
import Validium.Retry
import Validium.Rollup.Scanner
import Validium.Store.Archive

/-!
Copying past batches into the archive. For every block of a range the scanner finds the
hashes of its batches; the data of each is fetched from the committee, perhaps submitted to
a service as well, and kept under its hash. What fails is counted and left out, and the
signal ends the run where it is. A store that breaks down takes the run with it.
-/
namespace Validium

structure Migrator (W : Type) where
  scanner : Rollup.Scanner W
  committee : JsonRpc.Client W
  submission : Option (RawSubmission.Client W)
  archive : Store.Archive W
  clock : Clock W
  policy : Retry.Policy

namespace Migration

inductive BatchOutcome where
  | migrated
  | fetchFailed
  | uploadFailed
  | cancelled
  | brokeDown
  deriving DecidableEq, Repr

inductive UploadError where
  | submission (e : RawSubmission.Error)
  | store (f : Store.Fault)
  deriving DecidableEq, Repr

namespace Report

/-- Counts the end of a batch. One that is cancelled counts nowhere, and no report is left of
one that broke down. -/
def addBatch (r : Report) : BatchOutcome → Report
  | .migrated => { r with batchesMigrated := r.batchesMigrated + 1 }
  | .fetchFailed => { r with fetchFailures := r.fetchFailures + 1 }
  | .uploadFailed => { r with uploadFailures := r.uploadFailures + 1 }
  | .cancelled => { r with interrupted := true }
  | .brokeDown => r

def addFailedBlock (r : Report) : Report := { r with blocksFailed := r.blocksFailed + 1 }

def addBlock (r : Report) (hashes : List Hash) : Report :=
  { r with
    blocksScanned := r.blocksScanned + 1, batchesFound := r.batchesFound + hashes.length }

def interrupt (r : Report) : Report := { r with interrupted := true }

end Report

end Migration

namespace Migrator

open Migration

variable {W : Type}

def pacing (m : Migrator W) (signal : Signal W) : Retry.Pacing (ExceptT Cancelled (StateM W)) :=
  .interruptible signal m.clock

def fetch (m : Migrator W) (signal : Signal W) (hash : Hash) :
    Interruptible W (Except (Retry.Error Committee.Error) Bytes) :=
  Retry.runIf m.policy (m.pacing signal) (fun _ => signal.await (Committee.fetch m.committee hash))
    Committee.Error.isRetryable

/-- A breakdown is not an error to try again after. It ends the attempts. -/
def keep (m : Migrator W) (signal : Signal W) (hash : Hash) (data : Bytes) :
    Interruptible W (Except UploadError (Completion Unit)) := do
  match ← signal.await (m.archive.put data hash none) with
  | .brokeDown => return .ok .brokeDown
  | .returned (.ok ()) => return .ok (.returned ())
  | .returned (.error fault) => return .error (.store fault)

/-- One attempt: the data goes to the service first, and is kept once that has taken it. -/
def uploadOnce (m : Migrator W) (signal : Signal W) (hash : Hash) (data : Bytes) :
    Interruptible W (Except UploadError (Completion Unit)) := do
  match m.submission with
  | none => m.keep signal hash data
  | some client =>
    match ← signal.await (client.submit data) with
    | .error e => return .error (.submission e)
    | .ok _ => m.keep signal hash data

def upload (m : Migrator W) (signal : Signal W) (hash : Hash) (data : Bytes) :
    Interruptible W (Except (Retry.Error UploadError) (Completion Unit)) :=
  Retry.run m.policy (m.pacing signal) fun _ => m.uploadOnce signal hash data

/-- Both kinds of cancellation end the batch in the same way. -/
def migrateBatch (m : Migrator W) (signal : Signal W) (hash : Hash) : StateM W BatchOutcome := do
  match ← (m.fetch signal hash).run with
  | .error _ => return .cancelled
  | .ok (.error .cancelled) => return .cancelled
  | .ok (.error _) => return .fetchFailed
  | .ok (.ok data) =>
    match ← (m.upload signal hash data).run with
    | .error _ => return .cancelled
    | .ok (.error .cancelled) => return .cancelled
    | .ok (.error _) => return .uploadFailed
    | .ok (.ok (.returned ())) => return .migrated
    | .ok (.ok .brokeDown) => return .brokeDown

def migrateBatches (m : Migrator W) (signal : Signal W) :
    List Hash → Report → StateM W (Completion Report)
  | [], report => return .returned report
  | hash :: rest, report => do
    match ← m.migrateBatch signal hash with
    | .brokeDown => return .brokeDown
    | .cancelled => return .returned (report.addBatch .cancelled)
    | outcome => m.migrateBatches signal rest (report.addBatch outcome)

/-- `count` blocks from `block` on. A block that cannot be read is counted and left out. -/
def runFrom (m : Migrator W) (signal : Signal W) :
    Nat → UInt64 → Report → StateM W (Completion Report)
  | 0, _, report => return .returned report
  | count + 1, block, report => do
    match ← (signal.await (m.scanner.batchHashes block)).run with
    | .error _ => return .returned report.interrupt
    | .ok (.error _) => runFrom m signal count (block + 1) report.addFailedBlock
    | .ok (.ok hashes) =>
      match ← m.migrateBatches signal hashes (report.addBlock hashes) with
      | .brokeDown => return .brokeDown
      | .returned report =>
        if report.interrupted then return .returned report
        else runFrom m signal count (block + 1) report

def blockCount (first last : UInt64) : Nat := last.toNat + 1 - first.toNat

def run (m : Migrator W) (signal : Signal W) (first last : UInt64) :
    StateM W (Completion Report) :=
  m.runFrom signal (blockCount first last) first .empty

end Migrator

end Validium
