import Validium.Text.Cut

/-!
Targets of requests, as the first line of a request has them. A target is a path with perhaps
a query, or names scheme and host before them, or is a host alone, which has no path. What
stands behind a `#` is no part of it.
-/
namespace Validium.Server.Target

def isPathChar (c : Char) : Bool :=
  0x20 < c.toNat && c != '<' && c != '>' && c != '\x60'

def isQueryChar (c : Char) : Bool :=
  0x20 < c.toNat && c != '<' && c != '>' && c != '"'

def isSchemeChar (c : Char) : Bool :=
  c.isAlphanum || ['+', '-', '.'].contains c

def isHostChar (c : Char) : Bool :=
  c.isAlphanum ||
    ['!', '$', '&', '\'', '(', ')', '*', '+', ',', '-', '.', ':', ';', '=', '@', '[', ']', '_',
      '~'].contains c

/-- Whether a text names a host: there is at most one colon, that of the port, apart from those
of an address in brackets and of a user. -/
def isAuthority (cs : List Char) : Bool :=
  let host := (Text.cutLast '@' cs).elim cs Prod.snd
  let port := (Text.cutLast ']' host).elim host Prod.snd
  cs.all isHostChar && !host.isEmpty && port.count ':' ≤ 1

def ofPath (cs : List Char) : Option String :=
  let (path, query) := Text.cutFirst '?' (Text.cutFirst '#' cs).1
  if path.all isPathChar && (query.getD []).all isQueryChar then
    some (if path.isEmpty then "/" else String.ofList path)
  else none

def endsHost (c : Char) : Bool := c == '/' || c == '?' || c == '#'

def behindScheme (cs : List Char) : Option (List Char) :=
  match cs.dropWhile isSchemeChar with
  | ':' :: '/' :: '/' :: rest => some rest
  | _ => none

def path? (target : String) : Option String :=
  let cs := target.toList
  if cs.head? == some '/' then ofPath cs
  else
    match behindScheme cs with
    | some rest =>
      if isAuthority (rest.takeWhile (!endsHost ·)) then ofPath (rest.dropWhile (!endsHost ·))
      else none
    | none => if isAuthority cs then some "" else none

end Validium.Server.Target
