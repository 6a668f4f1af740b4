import Validium.Store.Error

/-!
Where the object of a key lies below the directory of a file store. A key is a relative
path of ordinary names. Empty names and single points between or behind others do not
count, and the path keeps the text of the key.
-/
namespace Validium.Store.Location

/-- Whether a key leads nowhere but down: it does not start at the top or with a point, and
never goes up. -/
def isPlain (key : String) : Bool :=
  let parts := Disk.Route.ofText key
  !(parts.head? == some "" || parts.head? == some ".") && !parts.contains ".."

def endsWithSlash (text : String) : Bool :=
  text.toList.getLast? == some '/'

def join (root key : String) : String :=
  if root.isEmpty || endsWithSlash root then root ++ key else root ++ "/" ++ key

def pathFor (root key : String) : Except Fault String :=
  if key.isEmpty then .error (.invalidKey key "empty key")
  else if !isPlain key then
    .error (.invalidKey key "key must be a relative path without . or ..")
  else if endsWithSlash key then .error (.invalidKey key "key must name a file")
  else .ok (join root key)

end Validium.Store.Location
