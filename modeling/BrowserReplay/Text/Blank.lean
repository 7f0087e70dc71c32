/-!
# Blank characters

A character is blank when Unicode gives it the property `White_Space`. Panel lines are split and
trimmed at blanks, and a config file that holds nothing else counts as empty. The script language of
pages trims a slightly different set, so trimming takes the class as an argument.
-/

namespace BrowserReplay.Text

/-- The characters with the Unicode property `White_Space`. -/
def isBlank (c : Char) : Bool :=
  let n := c.toNat
  (0x9 ≤ n && n ≤ 0xD) || n == 0x20 || n == 0x85 || n == 0xA0 || n == 0x1680 ||
    (0x2000 ≤ n && n ≤ 0x200A) || n == 0x2028 || n == 0x2029 || n == 0x202F || n == 0x205F ||
    n == 0x3000

/-- The characters that a page's own `trim` removes: a byte order mark is one of them and the
control character "next line" is not. -/
def isPageBlank (c : Char) : Bool :=
  c.toNat == 0xFEFF || (isBlank c && c.toNat != 0x85)

/-- Drops the characters of a class from the front of a text. -/
def trimStart (blank : Char → Bool) (cs : List Char) : List Char :=
  cs.dropWhile blank

def trimEnd (blank : Char → Bool) (cs : List Char) : List Char :=
  (cs.reverse.dropWhile blank).reverse

/-- Drops the characters of a class from both ends of a text. -/
def trimBy (blank : Char → Bool) (cs : List Char) : List Char :=
  trimEnd blank (trimStart blank cs)

def trim (s : String) : String :=
  String.ofList (trimBy isBlank s.toList)

/-- Whether a text holds nothing but blanks. -/
def isAllBlank (s : String) : Bool :=
  s.toList.all isBlank

@[simp] theorem trimBy_nil (blank : Char → Bool) : trimBy blank [] = [] := rfl

end BrowserReplay.Text
