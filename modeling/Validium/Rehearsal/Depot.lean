import Validium.Rehearsal.Mishaps
import Validium.Store.Archive

/-!
A store in the rehearsal world, in memory or on the disk: the objects as they are, and an
archive that meets the mishaps of the world on its way to them.
-/
namespace Validium.Rehearsal

structure Depot where
  objects : Store.Objects World
  archive : Store.Archive World
  /-- The directory of a store on the disk. -/
  directory : Option String

namespace Depot

def inMemory (policy : Store.Policy) : Depot :=
  let objects := Store.Memory.objects World.memoryPart
  ⟨objects, ⟨World.fallible objects, policy⟩, none⟩

def onDisk (directory : String) (policy : Store.Policy) : Depot :=
  let objects := Store.FileSystem.objects World.filesPart directory
  ⟨objects, ⟨World.fallible objects, policy⟩, some directory⟩

def filesBelow (w : World) (directory : String) : List String :=
  let files := w.files.disk.filesUnder (.ofText directory)
  (files.map fun f => String.intercalate "/" f.1).mergeSort fun a b => !(b < a)

def keys (d : Depot) (w : World) : List String :=
  match d.directory with
  | some directory => filesBelow w directory
  | none => w.memory.keys

end Depot

namespace World

def onFiles (action : StateM Disk Unit) : StateM World Unit :=
  filesPart.run (Store.FileSystem.onDisk action)

def makeDirectory (path : String) : StateM World Unit :=
  onFiles do
    let _ ← Disk.mkdirs (.ofText path)

def putFile (path : String) (body : Bytes) : StateM World Unit :=
  onFiles (Disk.furnish (.ofText path) body)

end World

end Validium.Rehearsal
