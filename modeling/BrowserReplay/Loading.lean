import BrowserReplay.Config.File
import BrowserReplay.FileTree
import BrowserReplay.Script

/-!
# Loading scripts and settings

A script is loaded from the path that names it. Settings come from the path given for them; without
one from the first place that has some, of the working directory and the user's own directory; and
otherwise they are the defaults.
-/

namespace BrowserReplay

inductive LoadError where
  | unreadable (cause : FileError)
  | malformed
  deriving DecidableEq, Repr, Inhabited

def LoadError.message (what : String) : LoadError → String
  | .unreadable cause => "Failed to read " ++ what ++ ": " ++ cause.message
  | .malformed => "Failed to parse " ++ what ++ ": ..."

/-- All that a session can read: the files by their paths, and the settings in the user's own
directory. -/
structure Storage where
  files : FileTree := {}
  ownSettings : Option (List Nat) := none
  deriving DecidableEq, Repr, Inhabited

def loadText (parse? : String → Option α) : Except FileError String → Except LoadError α
  | .error cause => .error (.unreadable cause)
  | .ok text =>
    match parse? text with
    | some value => .ok value
    | none => .error .malformed

namespace Script

def loadedAs : String := "script"

def load (files : FileTree) (path : String) : Except LoadError Script :=
  loadText Script.parse? (files.readText path)

end Script

namespace Config

def loadedAs : String := "config file"

def localPath : String := "./replay.yaml"

def load (storage : Storage) : Option String → Except LoadError Config
  | some path => loadText Config.parse? (storage.files.readText path)
  | none =>
    if storage.files.holds localPath then
      loadText Config.parse? (storage.files.readText localPath)
    else
      match storage.ownSettings with
      | some contents => loadText Config.parse? (FileTree.asText contents)
      | none => .ok {}

end Config

end BrowserReplay
