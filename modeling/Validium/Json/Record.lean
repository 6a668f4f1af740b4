import Validium.Json.Parser
import Validium.Word

/-!
Records written in JSON. A record is an object, whose unknown fields are skipped and whose
known fields occur at most once, or an array of the fields in their declared order, of
which the last ones may be missing. Each field is then read by its type; `null` stands for
a missing value only where a value may be missing.
-/
namespace Validium.Json.Record

/-- The field of this name, `none` if there is none; fails if it occurs twice. -/
def only? (name : String) (fields : List (Option String × Tree)) : Option (Option Tree) :=
  match fields.filter (fun f => f.1 == some name) with
  | [] => some none
  | [f] => some (some f.2)
  | _ => none

/-- What stands for each declared field, in the order of declaration. -/
def fields? (names : List String) : Tree → Option (List (Option Tree))
  | .object fields =>
    if fields.all (fun f => f.1.isSome) then names.mapM (fun n => only? n fields) else none
  | .array items =>
    if items.length ≤ names.length then
      some (items.map some ++ List.replicate (names.length - items.length) none)
    else none
  | _ => none

/-- A reader of one field, given what stands for it. -/
abbrev Field (α : Type) := Option Tree → Option α

def required {α : Type} (read : Tree → Option α) : Field α
  | none => none
  | some t => read t

def orElse {α : Type} (value : α) (read : Tree → Option α) : Field α
  | none => some value
  | some t => read t

/-- A field that may be missing or null. -/
def nullable {α : Type} (read : Tree → Option α) : Field (Option α)
  | none => some none
  | some .null => some none
  | some t => (read t).map some

def text : Tree → Option String
  | .string s => s
  | _ => none

def flag : Tree → Option Bool
  | .bool b => some b
  | _ => none

def unsigned (width : Nat) : Tree → Option Nat
  | .number (some n) => n.unsigned? width
  | _ => none

/-- Thirty-two bytes, as hexadecimal digits or as an array of numbers. -/
def word : Tree → Option Word
  | .string (some s) => (Word.parse s).toOption
  | .array items =>
    match items.mapM (unsigned 8) with
    | some ns => Word.ofBytes? (ns.map UInt8.ofNat)
    | none => none
  | _ => none

def list {α : Type} (read : Tree → Option α) : Tree → Option (List α)
  | .array items => items.mapM read
  | _ => none

end Validium.Json.Record
