import BrowserReplay.Text.Composition
import BrowserReplay.Url.Domain.Allowed
import BrowserReplay.Url.Domain.Direction
import BrowserReplay.Url.Domain.Joining
import BrowserReplay.Url.Domain.Punycode
import BrowserReplay.Url.Domain.Replacement

/-!
# Domain names

A domain name consists of labels between dots. It is brought into a usual form, with small letters in
place of capital ones, and then written in ASCII: a label with other characters becomes `xn--` and
its Punycode. A label that is written like that already has to be the form of such a label.
-/

namespace BrowserReplay.Url

def isForbiddenInDomain (c : Char) : Bool :=
  c.toNat ≤ 0x20 || c.toNat = 0x7F ||
    ['%', '#', '/', ':', '<', '>', '?', '@', '[', '\\', ']', '^', '|'].contains c

/-! ### The usual form -/

def usualForm (cs : List Char) : List Char := Text.compose (cs.flatMap standsFor)

/-- Whether a label can stand in a domain name in its usual form. -/
def isGoodLabel (label : List Char) : Bool :=
  label.all isAllowedInDomain && !label.head?.any isMark && areJoinersFounded [] label

def labels (cs : List Char) : List (List Char) := cs.splitOn '.'

/-! ### Labels in ASCII -/

def isAscii (cs : List Char) : Bool := cs.all Punycode.isBasic

/-- A label in its usual form, from the text after `xn--`. -/
def codedLabel? (code : List Char) : Option (List Char) := do
  let label ← Punycode.decode? code
  if isAscii label || usualForm label ≠ label || !isGoodLabel label then none else some label

/-- Reads a label of a domain name in its usual form; gives it with its ASCII form. -/
def readLabel? (label : List Char) : Option (List Char × List Char) :=
  match label with
  | 'x' :: 'n' :: '-' :: '-' :: code => (codedLabel? code).map (·, label)
  | _ =>
    if isAscii label then some (label, label)
    else if isGoodLabel label then
      some (label, 'x' :: 'n' :: '-' :: '-' :: Punycode.encode label)
    else none

/-! ### Domain names in ASCII -/

def domainToAscii? (cs : List Char) : Option (List Char) := do
  let read ← (labels (usualForm cs)).mapM readLabel?
  let isBound := read.any fun (label, _) => label.any bindsDirection
  let ascii := List.intercalate ['.'] (read.map (·.2))
  if isBound && !read.all (fun (label, _) => keepsDirection label) then none
  else if ascii.any isForbiddenInDomain then none
  else some ascii

end BrowserReplay.Url
