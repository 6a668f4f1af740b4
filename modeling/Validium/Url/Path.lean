import Validium.Text.Cut
import Validium.Url.Percent

/-!
Paths of addresses. A path is a list of segments with slashes before them, in which points
have been worked out: one point stays where it is, two go up. On the way up a drive, a
letter with a colon or bar, is not left.
-/
namespace Validium.Url.Path

/-- A segment that stands for its own place: a single point, however it is written. -/
def isSinglePoint (s : List Char) : Bool :=
  let t := s.map Char.toLower
  t == ['.'] || t == ['%', '2', 'e']

def isDoublePoint (s : List Char) : Bool :=
  let t := s.map Char.toLower
  ["..", ".%2e", "%2e.", "%2e%2e"].contains (String.ofList t)

def isDrive : List Char → Bool
  | [c, mark] => c.isAlpha && (mark == ':' || mark == '|')
  | _ => false

/-- The segments that are left after going up from the last one; the last one comes
first. -/
def up : List (List Char) → List (List Char)
  | [] => []
  | s :: r => if isDrive s then s :: r else r

/-- Takes segments onto those before them, last first. -/
def resolve : List (List Char) → List (List Char) → List (List Char)
  | acc, [] => acc
  | acc, [s] =>
    if isDoublePoint s then [] :: up acc
    else if isSinglePoint s then [] :: acc
    else s :: acc
  | acc, s :: r =>
    if isDoublePoint s then resolve (up acc) r
    else if isSinglePoint s then resolve acc r
    else resolve (s :: acc) r

def join (segments : List (List Char)) : List Char :=
  segments.flatMap fun s => '/' :: s

def read (body : List Char) : List Char :=
  join (resolve [] ((Text.cut '/' body).map (Percent.encode Percent.inPath))).reverse

/-- The first drive among the segments, if it is the first segment once points are worked
out, written with a colon. -/
def settleDrive : List (List Char) → List (List Char) → Bool × List (List Char)
  | _, [] => (false, [])
  | acc, s :: r =>
    if isDoublePoint s then
      let (found, rest) := settleDrive (up acc) r
      (found, s :: rest)
    else if isSinglePoint s then
      let (found, rest) := settleDrive acc r
      (found, s :: rest)
    else if acc.isEmpty && isDrive s then (true, [s.headD 'c', ':'] :: r)
    else
      let (found, rest) := settleDrive (s :: acc) r
      (found, s :: rest)

/-- The path of a file behind its first slash, and whether it starts with a drive that was
read as one. Empty segments in front do not count. -/
def readFile (body : List Char) : Bool × List Char :=
  let segments := (Text.cut '/' body).map (Percent.encode Percent.inPath)
  let (found, segments) := settleDrive [] segments
  let path := (resolve [] segments).reverse.dropWhile List.isEmpty
  (found, if path.isEmpty then ['/'] else join path)

end Validium.Url.Path
