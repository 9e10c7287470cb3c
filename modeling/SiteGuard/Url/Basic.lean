import SiteGuard.Url.Host
import SiteGuard.Url.Query

/-!
# URLs

The parts of a URL in the form in which they are written.  A URL without an
authority has either a rooted path or a plain text after its scheme.
-/

namespace SiteGuard

open Text

namespace Url

/-! ## Schemes -/

/-- Schemes with rules of their own for hosts and paths. -/
inductive Kind where
  | file
  | special
  | other
  deriving DecidableEq

def Kind.isSpecial : Kind → Bool
  | other => false
  | _ => true

def kindOf (scheme : List Char) : Kind :=
  if scheme = "file".toList then .file
  else if ["http", "https", "ws", "wss", "ftp"].any (fun s => s.toList == scheme) then .special
  else .other

def defaultPort? (scheme : List Char) : Option Nat :=
  if scheme = "http".toList ∨ scheme = "ws".toList then some 80
  else if scheme = "https".toList ∨ scheme = "wss".toList then some 443
  else if scheme = "ftp".toList then some 21
  else none

/-! ## Parts -/

structure Authority where
  user : List Char
  password : Option (List Char)
  host : Option Host
  port : Option Nat
  deriving DecidableEq

inductive Path where
  | rooted (segments : List (List Char))
  | plain (text : List Char)
  deriving DecidableEq

end Url

structure Url where
  scheme : List Char
  authority : Option Url.Authority
  path : Url.Path
  query : Option (List Char)
  fragment : Option (List Char)
  deriving DecidableEq

namespace Url

def host? (u : Url) : Option String :=
  (u.authority.bind (·.host)).map fun h => String.ofList h.text

/-! ## Text -/

def Authority.userinfo (a : Authority) : List Char :=
  match a.user, a.password with
  | [], none => []
  | user, none => user ++ ['@']
  | user, some password => user ++ ':' :: password ++ ['@']

def Authority.text (a : Authority) : List Char :=
  a.userinfo ++ ((a.host.map Host.text).getD [])
    ++ (match a.port with
      | none => []
      | some port => ':' :: (toString port).toList)

def Path.text : Path → List Char
  | rooted segments => segments.flatMap fun s => '/' :: s
  | plain text => text

/--
What follows the scheme and its colon.  A rooted path that begins with an empty
segment would read as an authority, so `/.` is put in front of it.
-/
def locator (u : Url) : List Char :=
  match u.authority with
  | some a => '/' :: '/' :: (a.text ++ u.path.text)
  | none =>
    match u.path with
    | .rooted ([] :: _ :: _) => '/' :: '.' :: u.path.text
    | _ => u.path.text

def marked (mark : Char) : Option (List Char) → List Char
  | none => []
  | some part => mark :: part

def chars (u : Url) : List Char :=
  u.scheme ++ ':' :: (u.locator ++ marked '?' u.query ++ marked '#' u.fragment)

def text (u : Url) : String :=
  String.ofList u.chars

/-! ## Query pairs -/

def pairs (u : Url) : List (String × String) :=
  Query.read (u.query.getD [])

def withPairs (u : Url) (pairs : List (String × String)) : Url :=
  { u with query := some (Query.write pairs) }

end Url
end SiteGuard
