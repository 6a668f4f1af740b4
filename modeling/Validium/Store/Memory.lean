import Validium.Store.Object
import Validium.World

/-!
Objects held in memory, in the order of their keys. A time of expiry is noted and shown,
and nothing is dropped when it comes.
-/
namespace Validium.Store

structure Memory.Entry where
  key : String
  body : Bytes
  expires : Option Nat
  deriving DecidableEq, Repr

structure Memory where
  entries : List Memory.Entry
  deriving DecidableEq, Repr

namespace Memory

def empty : Memory := ⟨[]⟩

def insertEntry (e : Entry) : List Entry → List Entry
  | [] => [e]
  | f :: r =>
    if e.key = f.key then e :: r
    else if e.key < f.key then e :: f :: r
    else f :: insertEntry e r

def insert (m : Memory) (key : String) (body : Bytes) (expires : Option Nat) : Memory :=
  ⟨insertEntry ⟨key, body, expires⟩ m.entries⟩

def find? (m : Memory) (key : String) : Option Entry :=
  m.entries.find? (·.key == key)

def body? (m : Memory) (key : String) : Option Bytes :=
  (m.find? key).map Entry.body

def expires? (m : Memory) (key : String) : Option Nat :=
  (m.find? key).bind Entry.expires

def size (m : Memory) : Nat := m.entries.length

def keys (m : Memory) : List String := m.entries.map Entry.key

def objects {W : Type} (part : Part W Memory) : Objects W where
  name := "memory"
  put key body expires := part.run fun m => (.returned (.ok ()), m.insert key body expires)
  get key := part.run fun m =>
    match m.body? key with
    | some body => (.returned (.ok body), m)
    | none => (.returned (.error (.notFound key)), m)
  health := return .ok ()

end Memory

end Validium.Store
