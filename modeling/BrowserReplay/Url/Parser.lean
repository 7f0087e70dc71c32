import BrowserReplay.Url.Basic
import BrowserReplay.Url.Host
import BrowserReplay.Url.Path

/-!
# Reading URLs

A URL is read on its own or relative to another one. Blanks and control characters around it, and
tabs and line ends inside it, do not count. What follows the scheme depends on the kind of scheme:
files, the other well-known schemes, and the rest.
-/

namespace BrowserReplay.Url

def clean (cs : List Char) : List Char :=
  let around (c : Char) : Bool := c.toNat ≤ 0x20
  let inner := ((cs.dropWhile around).reverse.dropWhile around).reverse
  inner.filter fun c => c != '\t' && c != '\n' && c != '\r'

def isSchemeChar (c : Char) : Bool := c.isAlphanum || c == '+' || c == '-' || c == '.'

/-- The scheme in front of a URL, in lower case, and what follows its colon. -/
def scheme? (cs : List Char) : Option (List Char × List Char) :=
  match cs with
  | first :: _ =>
    if first.isAlpha then
      match cs.dropWhile isSchemeChar with
      | ':' :: rest => some ((cs.takeWhile isSchemeChar).map Char.toLower, rest)
      | _ => none
    else none
  | [] => none

def defaultPort? (scheme : String) : Option Nat :=
  if scheme = "http" ∨ scheme = "ws" then some 80
  else if scheme = "https" ∨ scheme = "wss" then some 443
  else if scheme = "ftp" then some 21
  else none

def isSlash (c : Char) : Bool := c == '/' || c == '\\'

def tail (kind : SchemeKind) : List Char → Option String × Option String
  | '?' :: rest =>
    let component := if kind.isSpecial then Component.specialQuery else .query
    let query := String.ofList (encode component (rest.takeWhile (· ≠ '#')))
    match rest.dropWhile (· ≠ '#') with
    | _ :: fragment => (some query, some (String.ofList (encode .fragment fragment)))
    | [] => (some query, none)
  | '#' :: fragment => (none, some (String.ofList (encode .fragment fragment)))
  | _ => (none, none)

/-- A URL with the query and the fragment that stand at the end of its text. -/
def withTail (kind : SchemeKind) (url : Url) (rest : List Char) : Url :=
  let (query, fragment) := tail kind rest
  { url with query, fragment }

/-- The name and the password before an at sign. An empty password does not count. -/
def userinfo (cs : List Char) : String × Option String :=
  let part (cs : List Char) : String := String.ofList (encode .userinfo cs)
  match cs.dropWhile (· ≠ ':') with
  | _ :: c :: password => (part (cs.takeWhile (· ≠ ':')), some (part (c :: password)))
  | _ => (part (cs.takeWhile (· ≠ ':')), none)

def cutAtLast (cs : List Char) : Option (List Char × List Char) :=
  match cs.reverse.dropWhile (· ≠ '@') with
  | [] => none
  | _ :: before => some (before.reverse, (cs.reverse.takeWhile (· ≠ '@')).reverse)

/-- The host at the front of a text and what follows it; a colon between brackets belongs to the
host. -/
def spanHost (kind : SchemeKind) (bracketed : Bool) : List Char → List Char × List Char
  | [] => ([], [])
  | c :: rest =>
    if (c = ':' && !bracketed) || (c = '\\' && kind.isSpecial) || c = '/' || c = '?' || c = '#' then
      ([], c :: rest)
    else
      let bracketed := if c = '[' then true else if c = ']' then false else bracketed
      let (host, rest) := spanHost kind bracketed rest
      (c :: host, rest)

/-- A port of at most five digits' worth, nothing for the scheme's own. -/
def port? (scheme : String) (cs : List Char) : Except Error (Option Nat × List Char) :=
  let digits := cs.takeWhile Char.isDigit
  let rest := cs.dropWhile Char.isDigit
  let ends := match rest with
    | [] => true
    | c :: _ => isSlash c || c == '?' || c == '#'
  let value := Nat.ofDigitChars 10 digits 0
  if value > 65535 || !ends then .error .port
  else if digits.isEmpty ∨ some value = defaultPort? scheme then .ok (none, rest)
  else .ok (some value, rest)

/-- The path after an authority. A well-known scheme always has one. -/
def authorityPath (kind : SchemeKind) (cs : List Char) : List Char × Bool × List Char :=
  match cs with
  | c :: rest =>
    if kind.isSpecial then continuePath kind ['/'] (if isSlash c then rest else cs)
    else if c = '?' ∨ c = '#' then ([], false, cs)
    else continuePath kind (if c = '/' then [] else ['/']) cs
  | [] => if kind.isSpecial then continuePath kind ['/'] [] else ([], false, [])

/-- The name and the password in front of a host, and what follows the at sign. -/
def credentials (kind : SchemeKind) (cs : List Char) :
    Except Error ((String × Option String) × List Char) :=
  let ends (c : Char) : Bool := c == '/' || c == '?' || c == '#' || (c == '\\' && kind.isSpecial)
  let before := cs.takeWhile fun c => !ends c
  let after := cs.dropWhile fun c => !ends c
  match cutAtLast before with
  | none => .ok (("", none), cs)
  | some ([], []) => if after.isEmpty then .ok (("", none), []) else .error .emptyHost
  | some (name, host) => .ok (userinfo name, host ++ after)

def ofAuthority (kind : SchemeKind) (scheme : String) (cs : List Char) : Except Error Url := do
  let ((username, password), rest) ← credentials kind cs
  let (hostText, rest) := spanHost kind false rest
  if kind = .special ∧ hostText = [] then throw .emptyHost
  let host ← if kind = .special then specialHost hostText else plainHost hostText
  let (port, rest) ← match rest with
    | ':' :: rest => if host = [] then throw .emptyHost else port? scheme rest
    | rest => pure (none, rest)
  if host = [] ∧ (username ≠ "" ∨ password.isSome) then throw .emptyHost
  let (path, _, rest) := authorityPath kind rest
  pure (withTail kind
    { scheme, path := String.ofList path,
      authority := some { username, password, host := String.ofList host, port } } rest)

def ofPlainScheme (scheme : String) (cs : List Char) : Except Error Url :=
  match cs with
  | '/' :: '/' :: rest => ofAuthority .plain scheme rest
  | '/' :: rest =>
    let (path, _, rest) := continuePath .plain ['/'] rest
    .ok (withTail .plain { scheme, authority := none, path := String.ofList path } rest)
  | _ =>
    let ends (c : Char) : Bool := c == '?' || c == '#'
    let path := encode .rootless (cs.takeWhile fun c => !ends c)
    .ok (withTail .plain { scheme, authority := none, path := String.ofList path }
      (cs.dropWhile fun c => !ends c))

/-- The base without its query and fragment, with a path that `input` continues. -/
def continued (kind : SchemeKind) (base : Url) (onto input : List Char) : Url :=
  let (path, _, rest) := continuePath kind onto input
  withTail kind { base with path := String.ofList path } rest

def ofRelative (kind : SchemeKind) (base : Url) (cs : List Char) : Except Error Url :=
  match cs with
  | [] => .ok { base with fragment := none }
  | '?' :: _ => .ok (withTail kind base cs)
  | '#' :: _ => .ok { base with fragment := (tail kind cs).2 }
  | '/' :: '/' :: rest => ofAuthority kind base.scheme rest
  | c :: rest =>
    if isSlash c then
      match rest with
      | d :: _ =>
        if isSlash d then ofAuthority kind base.scheme (cs.dropWhile isSlash)
        else .ok (continued kind base ['/'] rest)
      | [] => .ok (continued kind base ['/'] [])
    else
      let kept := popSegment kind base.path.toList
      .ok (continued kind base (if kept.isEmpty then ['/'] else kept) cs)

/-! ### Files -/

def fileUrl (host : String) (onto input : List Char) : Url :=
  continued .file { scheme := "file", authority := some { host }, path := "" } onto input

/-- Whether a text begins with a drive letter that is a segment of its own. -/
def opensWithDrive (cs : List Char) : Bool := beginsWithDrive (cs.take 3)

/-- A file URL from what follows its two slashes. The name `localhost` counts as no host, and a drive
letter is not a host; a host in front of a drive letter does not count either. -/
def ofFileHost (cs : List Char) : Except Error Url := do
  let ends (c : Char) : Bool := isSlash c || c == '?' || c == '#'
  let hostText := cs.takeWhile fun c => !ends c
  let rest := cs.dropWhile fun c => !ends c
  if isDrive hostText then return fileUrl "" ['/'] cs
  if hostText = [] then return fileUrl "" ['/'] rest
  let host ← specialHost hostText
  if String.ofList host = "localhost" then return fileUrl "" ['/'] rest
  let (path, atDrive, rest) := authorityPath .file rest
  let host := if atDrive then "" else String.ofList host
  pure (withTail .file
    { scheme := "file", authority := some { host }, path := String.ofList path } rest)

/-- What a file path that begins with one slash takes over from its base: a drive letter, or else the
host. -/
def fileRoot (base : Option Url) (afterSlash : List Char) : String × List Char :=
  match base with
  | some base =>
    let first := (base.path.toList.drop 1).takeWhile (· ≠ '/')
    if opensWithDrive afterSlash then ("", [])
    else if isNormalDrive first then ("", '/' :: first)
    else ((base.authority.map (·.host)).getD "", [])
  | none => ("", [])

def ofFile (base : Option Url) (cs : List Char) : Except Error Url :=
  match cs with
  | c :: rest =>
    if isSlash c then
      match rest with
      | d :: after =>
        if isSlash d then ofFileHost after
        else
          let (host, onto) := fileRoot base rest
          .ok (fileUrl host onto cs)
      | [] =>
        let (host, onto) := fileRoot base rest
        .ok (fileUrl host onto cs)
    else
      match base with
      | some base =>
        if c = '?' then .ok (withTail .file base cs)
        else if c = '#' then .ok { base with fragment := (tail .file cs).2 }
        else if opensWithDrive cs then .ok (fileUrl "" ['/'] cs)
        else .ok (continued .file base (popSegment .file base.path.toList) cs)
      | none => .ok (fileUrl "" ['/'] cs)
  | [] =>
    match base with
    | some base => .ok { base with fragment := none }
    | none => .ok (fileUrl "" ['/'] [])

/-! ### Whole URLs -/

def ofScheme (base : Option Url) (scheme : List Char) (cs : List Char) : Except Error Url :=
  let name := String.ofList scheme
  match SchemeKind.of scheme with
  | .file => ofFile (base.filter (·.scheme = "file")) cs
  | .plain => ofPlainScheme name cs
  | .special =>
    match base.filter (·.scheme = name) with
    | some base =>
      if (cs.takeWhile isSlash).length < 2 then ofRelative .special base cs
      else ofAuthority .special name (cs.dropWhile isSlash)
    | none => ofAuthority .special name (cs.dropWhile isSlash)

def ofBase (base : Option Url) (cs : List Char) : Except Error Url :=
  match base with
  | none => .error .noBase
  | some base =>
    let kind := SchemeKind.of base.scheme.toList
    match cs with
    | '#' :: _ => .ok { base with fragment := (tail kind cs).2 }
    | _ =>
      if !base.hasHierarchy then .error .rootlessBase
      else if kind = .file then ofFile (some base) cs
      else ofRelative kind base cs

def read (base : Option Url) (text : String) : Except Error Url :=
  let cs := clean text.toList
  match scheme? cs with
  | some (scheme, rest) => ofScheme base scheme rest
  | none => ofBase base cs

def parse (text : String) : Except Error Url := read none text

def join (base : Url) (text : String) : Except Error Url := read (some base) text

end BrowserReplay.Url
