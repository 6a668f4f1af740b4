import Validium.Json.Value

/-!
The tree of a JSON text as it stands: fields in the order written, with repetitions. A
number beyond every float and a string with half of a surrogate pair or with bytes of no
character have their place in the tree but no value, since a reader that skips them does
not mind; one that needs a value refuses them. `toValue?` needs all values and bounds the
depth.
-/
namespace Validium.Json

inductive Tree where
  | null
  | bool (b : Bool)
  | number (n : Option Number)
  | string (s : Option String)
  | array (items : List Tree)
  | object (fields : List (Option String × Tree))

namespace Tree

mutual

def ofValue : Value → Tree
  | .null => .null
  | .bool b => .bool b
  | .number n => .number (some n)
  | .string s => .string (some s)
  | .array items => .array (ofItems items)
  | .object fields => .object (ofFields fields)

def ofItems : List Value → List Tree
  | [] => []
  | v :: r => ofValue v :: ofItems r

def ofFields : List (String × Value) → List (Option String × Tree)
  | [] => []
  | (n, v) :: r => (some n, ofValue v) :: ofFields r

end

mutual

/-- The value of the tree when every part has one and at most `depth` arrays and objects
stand inside each other. -/
def toValueWithin? (depth : Nat) : Tree → Option Value
  | .null => some .null
  | .bool b => some (.bool b)
  | .number n => n.map .number
  | .string s => s.map .string
  | .array items =>
    match depth with
    | 0 => none
    | depth + 1 => (itemsWithin? depth items).map .array
  | .object fields =>
    match depth with
    | 0 => none
    | depth + 1 => (fieldsWithin? depth fields).map Value.ofFields

def itemsWithin? (depth : Nat) : List Tree → Option (List Value)
  | [] => some []
  | t :: r =>
    match toValueWithin? depth t, itemsWithin? depth r with
    | some v, some vs => some (v :: vs)
    | _, _ => none

def fieldsWithin? (depth : Nat) : List (Option String × Tree) → Option (List (String × Value))
  | [] => some []
  | (name, t) :: r =>
    match name, toValueWithin? depth t, fieldsWithin? depth r with
    | some n, some v, some vs => some ((n, v) :: vs)
    | _, _, _ => none

end

def maxDepth : Nat := 127

def toValue? (t : Tree) : Option Value :=
  toValueWithin? maxDepth t

end Tree

end Validium.Json
