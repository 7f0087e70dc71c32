import BrowserReplay.Text.Blank
import BrowserReplay.Text.Utf8

/-!
# Lines typed at the panel

A line is read without the blanks around it. It is passed over when nothing is left, it ends the
session when it is one of the words that do, and otherwise its first word says what is wanted. Only
the word for playing takes an argument: the rest of the line.
-/

namespace BrowserReplay

inductive PanelCommand where
  | play (path : Option String)
  | pause
  | resume
  | stop
  | unknown (line : String)
  deriving DecidableEq, Repr, Inhabited

namespace PanelCommand

def ofWord (line verb : String) (argument : String) : PanelCommand :=
  match verb with
  | "play" | "start" => .play (if argument = "" then none else some argument)
  | "pause" => .pause
  | "resume" => .resume
  | "stop" => .stop
  | _ => .unknown line

/-- The command that a line spells. Its first word ends at the first blank. -/
def parse (line : String) : PanelCommand :=
  let isInWord (c : Char) : Bool := !Text.isBlank c
  ofWord line (String.ofList (line.toList.takeWhile isInWord))
    (String.ofList (Text.trimBy Text.isBlank (line.toList.dropWhile isInWord)))

end PanelCommand

inductive PanelLine where
  | nothing
  | leave
  | command (command : PanelCommand)
  deriving DecidableEq, Repr, Inhabited

namespace PanelLine

/-- Reads a line. `exits` are the words that end the session. -/
def read (exits : List String) (line : String) : PanelLine :=
  let trimmed := Text.trim line
  if trimmed = "" then .nothing
  else if exits.contains trimmed then .leave
  else .command (.parse trimmed)

end PanelLine

/-! ### Lines in a stream of bytes -/

def lineFeed : Nat := 10

/-- Cuts a stream of bytes after each line feed. The last line may lack one. -/
def linesOf : List Nat → List (List Nat)
  | [] => []
  | byte :: rest =>
    if byte = lineFeed then [byte] :: linesOf rest
    else
      match linesOf rest with
      | [] => [[byte]]
      | line :: lines => (byte :: line) :: lines

end BrowserReplay
