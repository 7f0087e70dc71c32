/-!
# Bytes as text

Files and input lines arrive as bytes. They are text when they are well formed UTF-8: the shortest
encoding of each character, no surrogates, nothing above `U+10FFFF`. Reading stops at the first
ill-formed sequence and says where it is and how many bytes of it are beyond repair.
-/

namespace BrowserReplay.Text

inductive Utf8Error where
  /-- From `start` on, `length` bytes cannot begin any character. -/
  | invalid (start length : Nat)
  /-- The bytes end inside the character that begins at `start`. -/
  | incomplete (start : Nat)
  deriving DecidableEq, Repr

def Utf8Error.message : Utf8Error → String
  | .invalid start length =>
    "invalid utf-8 sequence of " ++ toString length ++ " bytes from index " ++ toString start
  | .incomplete start => "incomplete utf-8 byte sequence from index " ++ toString start

namespace Utf8

def isTail (b : Nat) : Bool := 0x80 ≤ b && b ≤ 0xBF

/-- Second bytes allowed after the first byte of a three byte character: neither an overlong form
nor a surrogate may result. -/
def isSecondOfThree (b₀ b₁ : Nat) : Bool :=
  isTail b₁ && (b₀ != 0xE0 || 0xA0 ≤ b₁) && (b₀ != 0xED || b₁ ≤ 0x9F)

/-- Second bytes allowed after the first byte of a four byte character: neither an overlong form nor
a value above `U+10FFFF` may result. -/
def isSecondOfFour (b₀ b₁ : Nat) : Bool :=
  isTail b₁ && (b₀ != 0xF0 || 0x90 ≤ b₁) && (b₀ != 0xF4 || b₁ ≤ 0x8F)

def decodeFrom (start : Nat) : List Nat → Except Utf8Error (List Char)
  | [] => .ok []
  | b₀ :: rest =>
    if b₀ < 0x80 then
      (decodeFrom (start + 1) rest).map (Char.ofNat b₀ :: ·)
    else if 0xC2 ≤ b₀ && b₀ ≤ 0xDF then
      match rest with
      | [] => .error (.incomplete start)
      | b₁ :: rest =>
        if isTail b₁ then
          (decodeFrom (start + 2) rest).map (Char.ofNat ((b₀ - 0xC0) * 64 + (b₁ - 0x80)) :: ·)
        else .error (.invalid start 1)
    else if 0xE0 ≤ b₀ && b₀ ≤ 0xEF then
      match rest with
      | [] => .error (.incomplete start)
      | b₁ :: rest =>
        if isSecondOfThree b₀ b₁ then
          match rest with
          | [] => .error (.incomplete start)
          | b₂ :: rest =>
            if isTail b₂ then
              (decodeFrom (start + 3) rest).map
                (Char.ofNat ((b₀ - 0xE0) * 4096 + (b₁ - 0x80) * 64 + (b₂ - 0x80)) :: ·)
            else .error (.invalid start 2)
        else .error (.invalid start 1)
    else if 0xF0 ≤ b₀ && b₀ ≤ 0xF4 then
      match rest with
      | [] => .error (.incomplete start)
      | b₁ :: rest =>
        if isSecondOfFour b₀ b₁ then
          match rest with
          | [] => .error (.incomplete start)
          | b₂ :: rest =>
            if isTail b₂ then
              match rest with
              | [] => .error (.incomplete start)
              | b₃ :: rest =>
                if isTail b₃ then
                  (decodeFrom (start + 4) rest).map
                    (Char.ofNat ((b₀ - 0xF0) * 262144 + (b₁ - 0x80) * 4096 + (b₂ - 0x80) * 64 +
                      (b₃ - 0x80)) :: ·)
                else .error (.invalid start 3)
            else .error (.invalid start 2)
        else .error (.invalid start 1)
    else .error (.invalid start 1)

def encodeChar (c : Char) : List Nat :=
  let n := c.toNat
  if n < 0x80 then [n]
  else if n < 0x800 then [0xC0 + n / 64, 0x80 + n % 64]
  else if n < 0x10000 then [0xE0 + n / 4096, 0x80 + n / 64 % 64, 0x80 + n % 64]
  else [0xF0 + n / 262144, 0x80 + n / 4096 % 64, 0x80 + n / 64 % 64, 0x80 + n % 64]

end Utf8

/-- The text that bytes spell, or the first thing wrong with them. -/
def ofUtf8 (bytes : List Nat) : Except Utf8Error String :=
  (Utf8.decodeFrom 0 bytes).map String.ofList

def toUtf8 (s : String) : List Nat :=
  s.toList.flatMap Utf8.encodeChar

end BrowserReplay.Text
