import Validium.Migration.Plan
import Validium.Text.Numeral

/-!
The arguments of the program. Two options may stand anywhere: how much to log, and the file
with the settings. Then comes one of two commands with its own options. An option that is
not given takes its value from a variable of the environment, if it has one.
-/
namespace Validium.Command

inductive Action where
  | inspect (data : String) (calldata : Bool)
  | migrate (plan : Migration.Plan)
  deriving DecidableEq, Repr

structure Invocation where
  verbosity : Nat
  config : Option String
  action : Action
  deriving DecidableEq, Repr

inductive Request where
  /-- Nothing is asked, so what can be asked is shown. -/
  | nothing
  | version
  | help
  | misused
  | run (i : Invocation)
  deriving DecidableEq, Repr

inductive Name where
  | inspect
  | migrate
  deriving DecidableEq, Repr

def Name.ofWord? : String → Option Name
  | "inspect" => some .inspect
  | "migrate" => some .migrate
  | _ => none

/-- A 64-bit number, which a plus sign may precede. -/
def number64 (text : String) : Option UInt64 :=
  (Text.decimal 64 text).toOption.map UInt64.ofNat

/-- A 32-bit number. Zero may also have a minus sign. -/
def number32 (text : String) : Option UInt32 :=
  match text.toList with
  | '-' :: c :: r => if (c :: r).all (· == '0') then some 0 else none
  | _ => (Text.decimal 32 text).toOption.map UInt32.ofNat

inductive Setting where
  | config
  | rpcUrl
  | contract
  | firstBlock
  | lastBlock
  | committeeUrl
  | submissionUrl
  | submissionKey
  | maxAttempts
  | timeoutMinutes
  deriving DecidableEq, Repr

namespace Setting

def all : List Setting := [
  .config, .rpcUrl, .contract, .firstBlock, .lastBlock, .committeeUrl, .submissionUrl,
  .submissionKey, .maxAttempts, .timeoutMinutes]

def ofOption? (command : Option Name) (name : String) : Option Setting :=
  if name = "config" then some .config
  else if command = some .migrate then
    match name with
    | "l1-rpc-url" => some .rpcUrl
    | "rollup-contract" => some .contract
    | "start-block" => some .firstBlock
    | "end-block" => some .lastBlock
    | "dac-url" => some .committeeUrl
    | "turbo-da-url" => some .submissionUrl
    | "turbo-da-api-key" => some .submissionKey
    | "max-attempts" => some .maxAttempts
    | "timeout-mins" => some .timeoutMinutes
    | _ => none
  else none

/-- Whether a text can be the value of a setting: numbers are numbers, and the name of a
file is not empty. -/
def accepts (o : Setting) (value : String) : Bool :=
  match o with
  | .config => !value.isEmpty
  | .firstBlock | .lastBlock | .timeoutMinutes => (number64 value).isSome
  | .maxAttempts => (number32 value).isSome
  | _ => true

/-- The variable that stands in for an option. -/
def variableName? : Setting → Option String
  | .config => none
  | .rpcUrl => some "DA_MIGRATE_L1_RPC_URL"
  | .contract => some "DA_ROLLUP_CONTRACT"
  | .firstBlock => some "DA_MIGRATE_START_BLOCK"
  | .lastBlock => some "DA_MIGRATE_END_BLOCK"
  | .committeeUrl => some "DA_DAC_URL"
  | .submissionUrl => some "DA_TURBO_DA_URL"
  | .submissionKey => some "DA_TURBO_DA_API_KEY"
  | .maxAttempts => some "DA_MIGRATE_MAX_ATTEMPTS"
  | .timeoutMinutes => some "DA_MIGRATE_TIMEOUT_MINS"

end Setting

structure Scan where
  command : Option Name
  verbosity : Nat
  calldata : Bool
  /-- The values given before the command. -/
  above : List (Setting × String)
  /-- The values given since the command. -/
  values : List (Setting × String)
  /-- The words behind the command. -/
  words : List String
  deriving DecidableEq, Repr

namespace Scan

def start : Scan := ⟨none, 0, false, [], [], []⟩

/-- Notes a value. A setting may be given once before the command and once behind it. -/
def addValue (s : Scan) (o : Setting) (value : String) : Option Scan :=
  if s.values.any (·.1 == o) || !o.accepts value then none
  else some { s with values := s.values ++ [(o, value)] }

/-- The value of a setting; the one behind the command counts. -/
def value? (s : Scan) (o : Setting) : Option String :=
  (s.values ++ s.above).lookup o

def addWord (s : Scan) (word : String) : Option Scan :=
  if s.command = some .inspect && s.words.isEmpty then some { s with words := [word] } else none

def addPlain (s : Scan) (word : String) : Option Scan :=
  match s.command with
  | some _ => s.addWord word
  | none =>
    (Name.ofWord? word).map fun name =>
      { s with command := some name, above := s.values, values := [] }

def isBlank (s : Scan) : Bool := s == start

end Scan

inductive Progress where
  | going (s : Scan)
  /-- The option still needs its value. -/
  | pending (s : Scan) (o : Setting)
  /-- All that follows are words. -/
  | wordsOnly (s : Scan)
  /-- Help is asked for, perhaps on a command that is named. -/
  | helping (named : Bool)
  /-- The request is settled, whatever follows. -/
  | settled (r : Request)

namespace Progress

def ofScan? : Option Scan → Progress
  | some s => .going s
  | none => .settled .misused

/-- The version is told before a command only. -/
def version (s : Scan) : Progress :=
  .settled (if s.command.isNone then .version else .misused)

def letters (s : Scan) : List Char → Progress
  | [] => .going s
  | 'v' :: r => letters { s with verbosity := s.verbosity + 1 } r
  | 'h' :: _ => .settled .help
  | 'V' :: _ => version s
  | _ => .settled .misused

def cutValue (cs : List Char) : String × Option String :=
  match cs.dropWhile (· != '=') with
  | [] => (String.ofList cs, none)
  | _ :: value => (String.ofList (cs.takeWhile (· != '=')), some (String.ofList value))

def long (s : Scan) (cs : List Char) : Progress :=
  match cutValue cs with
  | ("verbose", none) => .going { s with verbosity := s.verbosity + 1 }
  | ("help", none) => .settled .help
  | ("version", none) => version s
  | ("calldata", none) =>
    if s.command = some .inspect && !s.calldata then .going { s with calldata := true }
    else .settled .misused
  | (name, value) =>
    match Setting.ofOption? s.command name, value with
    | none, _ => .settled .misused
    | some o, some value => ofScan? (s.addValue o value)
    | some o, none => .pending s o

def isValue (word : String) : Bool :=
  word == "-" || word.toList.head? != some '-'

def step : Progress → String → Progress
  | .settled r, _ => .settled r
  | .wordsOnly s, word =>
    match s.addWord word with
    | some t => .wordsOnly t
    | none => .settled .misused
  | .helping named, word =>
    if !named && (word == "help" || (Name.ofWord? word).isSome) then .helping true
    else .settled .misused
  | .pending s o, word => if isValue word then ofScan? (s.addValue o word) else .settled .misused
  | .going s, word =>
    match word.toList with
    | ['-', '-'] => .wordsOnly s
    | '-' :: '-' :: cs => long s cs
    | '-' :: c :: r => letters s (c :: r)
    | _ =>
      if s.command.isNone && word == "help" then .helping false
      else ofScan? (s.addPlain word)

end Progress

variable (lookup : String → Option String)

def valueOf (s : Scan) (o : Setting) : Option String :=
  match s.value? o with
  | some v => some v
  | none => o.variableName?.bind lookup

def readOr {α : Type} (read : String → Option α) (otherwise : α) : Option String → Option α
  | none => some otherwise
  | some text => read text

/-- The plan that the options spell. Address and key of the service need each other. -/
def planOf (s : Scan) : Option Migration.Plan := do
  let rpcUrl ← valueOf lookup s .rpcUrl
  let contract ← valueOf lookup s .contract
  let firstBlock ← (valueOf lookup s .firstBlock).bind number64
  let lastBlock ← (valueOf lookup s .lastBlock).bind number64
  let committeeUrl ← valueOf lookup s .committeeUrl
  let submissionUrl := valueOf lookup s .submissionUrl
  let submissionKey := valueOf lookup s .submissionKey
  if submissionUrl.isSome != submissionKey.isSome then none
  let maxAttempts ← readOr number32 5 (valueOf lookup s .maxAttempts)
  let timeoutMinutes ← readOr number64 10 (valueOf lookup s .timeoutMinutes)
  return {
    rpcUrl, contract, firstBlock, lastBlock, committeeUrl, submissionUrl, submissionKey
    maxAttempts, timeoutMinutes }

def actionOf (s : Scan) : Option Action :=
  match s.command with
  | none => none
  | some .inspect => s.words.head?.map fun data => .inspect data s.calldata
  | some .migrate => (planOf lookup s).map .migrate

def variableNames : List String :=
  Setting.all.filterMap Setting.variableName? ++ Settings.variableNames

def requestOf (s : Scan) : Request :=
  if s.isBlank then .nothing
  else
    match actionOf lookup s with
    | some action => .run ⟨s.verbosity, s.value? .config, action⟩
    | none => .misused

def Progress.request : Progress → Request
  | .going s => requestOf lookup s
  | .wordsOnly s => requestOf lookup s
  | .pending .. => .misused
  | .helping _ => .help
  | .settled r => r

/-- What the arguments ask for, in an environment. They are read from the left, and the
first that asks for something else, or is wrong, decides. -/
def parse (arguments : List String) : Request :=
  (arguments.foldl Progress.step (.going .start)).request lookup

end Validium.Command
