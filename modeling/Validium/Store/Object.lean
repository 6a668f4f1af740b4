import Validium.Store.Error

/-!
A store of objects: bytes under text keys. A store knows nothing of digests.
-/
namespace Validium.Store

structure Objects (W : Type) where
  /-- The name that messages and answers give. -/
  name : String
  /-- Keeps a body under a key, perhaps only up to a time in seconds. -/
  put : String → Bytes → Option Nat → StateM W (Completion (Except Fault Unit))
  get : String → StateM W (Completion (Except Fault Bytes))
  /-- Whether the store can be used. -/
  health : StateM W (Except Fault Unit)

/-- What a pool tells of work on one object. The worker's breakdown is a fault like others. -/
def settle {α : Type} : Completion (Except Fault α) → Except Fault α
  | .returned r => r
  | .brokeDown => .error .brokenWorker

end Validium.Store
