/-!
# URLs

A URL in normal form. A URL has an authority when its scheme is followed by two slashes; without one,
its path either begins with a slash or is mere text, and in the second case nothing can be relative
to it. Two URLs are the same when all their parts are.
-/

namespace BrowserReplay

/-- The part of a URL that names a host. A missing host is the empty one. -/
structure Url.Authority where
  username : String := ""
  password : Option String := none
  host : String := ""
  port : Option Nat := none
  deriving DecidableEq, Repr, Inhabited

structure Url where
  scheme : String
  authority : Option Url.Authority
  path : String
  query : Option String := none
  fragment : Option String := none
  deriving DecidableEq, Repr, Inhabited

namespace Url

def Authority.userinfo (authority : Authority) : String :=
  match authority.password with
  | some password => authority.username ++ ":" ++ password ++ "@"
  | none => if authority.username = "" then "" else authority.username ++ "@"

def Authority.text (authority : Authority) : String :=
  authority.userinfo ++ authority.host ++
    match authority.port with
    | some port => ":" ++ toString port
    | none => ""

def hasHierarchy (url : Url) : Bool := url.authority.isSome || url.path.startsWith "/"

/-- The text of a URL. Without an authority, a path that begins with two slashes is set apart by a
dot. -/
def href (url : Url) : String :=
  url.scheme ++ ":" ++
    (match url.authority with
      | some authority => "//" ++ authority.text
      | none => if url.path.startsWith "//" then "/." else "") ++
    url.path ++
    (match url.query with
      | some query => "?" ++ query
      | none => "") ++
    (match url.fragment with
      | some fragment => "#" ++ fragment
      | none => "")

end Url

end BrowserReplay
