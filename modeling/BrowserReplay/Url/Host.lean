import BrowserReplay.Text.Utf8
import BrowserReplay.Url.Address
import BrowserReplay.Url.Domain
import BrowserReplay.Url.Percent

/-!
# Hosts

The host of a URL with a well-known scheme is a domain name or a numeric address. A domain name is
freed of percent notation and brought into its ASCII form; if its last part is then a number, it must
be an address. Other schemes keep the host as it is, save for control characters.
-/

namespace BrowserReplay.Url

inductive Error where
  | emptyHost
  | domainName
  | port
  | shortAddress
  | longAddress
  | domainCharacter
  /-- A relative URL, and nothing to relate it to. -/
  | noBase
  | rootlessBase
  deriving DecidableEq, Repr, Inhabited

def Error.message : Error → String
  | .emptyHost => "empty host"
  | .domainName => "invalid international domain name"
  | .port => "invalid port number"
  | .shortAddress => "invalid IPv4 address"
  | .longAddress => "invalid IPv6 address"
  | .domainCharacter => "invalid domain character"
  | .noBase => "relative URL without a base"
  | .rootlessBase => "relative URL with a cannot-be-a-base base"

def bracketedHost (cs : List Char) : Except Error (List Char) :=
  match cs.reverse with
  | ']' :: inner =>
    match longAddress? inner.reverse with
    | some groups => .ok ('[' :: (writeLong groups ++ [']']))
    | none => .error .longAddress
  | _ => .error .longAddress

def namedHost (cs : List Char) : Except Error (List Char) :=
  match Text.Utf8.decodeFrom 0 (decodeBytes cs) with
  | .error _ => .error .domainName
  | .ok name =>
    match domainToAscii? name with
    | none => .error .domainName
    | some [] => .error .emptyHost
    | some domain =>
      if endsInNumber domain then
        match shortAddress? domain with
        | some value => .ok (writeShort value)
        | none => .error .shortAddress
      else .ok domain

def specialHost : List Char → Except Error (List Char)
  | '[' :: rest => bracketedHost rest
  | cs => namedHost cs

def isForbiddenInHost (c : Char) : Bool :=
  ['\x00', '\t', '\n', '\r', ' ', '#', '/', ':', '<', '>', '?', '@', '[', '\\', ']', '^',
    '|'].contains c

def plainHost : List Char → Except Error (List Char)
  | '[' :: rest => bracketedHost rest
  | cs => if cs.any isForbiddenInHost then .error .domainCharacter else .ok (encode .rootless cs)

end BrowserReplay.Url
