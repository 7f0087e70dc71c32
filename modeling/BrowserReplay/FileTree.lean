import BrowserReplay.Text.Utf8

/-!
# Files

The files that a session can read, by their paths from the working directory. A directory is there
when something is in it. Nothing is known of what lies outside the working directory.
-/

namespace BrowserReplay

/-- Why a file cannot be read. -/
inductive FileError where
  | notFound
  | isDirectory
  /-- A file stands where the path needs a directory. -/
  | notDirectory
  | nameTooLong
  | nulInPath
  | notText
  deriving DecidableEq, Repr, Inhabited

def FileError.message : FileError → String
  | .notFound => "No such file or directory (os error 2)"
  | .isDirectory => "Is a directory (os error 21)"
  | .notDirectory => "Not a directory (os error 20)"
  | .nameTooLong => "File name too long (os error 36)"
  | .nulInPath => "file name contained an unexpected NUL byte"
  | .notText => "stream did not contain valid UTF-8"

structure FileTree where
  files : List (List String × List Nat) := []
  deriving DecidableEq, Repr, Inhabited

namespace FileTree

inductive Entry where
  | file (contents : List Nat)
  | directory
  deriving DecidableEq, Repr, Inhabited

def parts (path : String) : List String := (path.toList.splitOn '/').map String.ofList

def ofFiles (files : List (String × List Nat)) : FileTree :=
  ⟨files.map fun (path, contents) => (parts path, contents)⟩

def maxPartSize : Nat := 255

def maxPathSize : Nat := 4096

def entryAt? (tree : FileTree) (place : List String) : Option Entry :=
  match tree.files.lookup place with
  | some contents => some (.file contents)
  | none =>
    if place.isEmpty || tree.files.any (fun file => place.isPrefixOf file.1) then some .directory
    else none

def walk (tree : FileTree) (place : List String) : List String → Except FileError Entry
  | [] =>
    match tree.entryAt? place with
    | some entry => .ok entry
    | none => .error .notFound
  | part :: rest =>
    match tree.entryAt? place with
    | none => .error .notFound
    | some (.file _) => .error .notDirectory
    | some .directory =>
      if part = "" || part = "." then walk tree place rest
      else if part = ".." then
        if place.isEmpty then
          if rest.all (fun part => ["", ".", ".."].contains part) then .ok .directory
          else .error .notFound
        else walk tree place.dropLast rest
      else if part.utf8ByteSize > maxPartSize then .error .nameTooLong
      else walk tree (place ++ [part]) rest

/-- What a path leads to. Of the absolute paths only the root is known. -/
def find (tree : FileTree) (path : String) : Except FileError Entry :=
  if path.toList.contains '\x00' then .error .nulInPath
  else if path = "" then .error .notFound
  else if path.utf8ByteSize ≥ maxPathSize then .error .nameTooLong
  else if path.toList.head? = some '/' then
    if (parts path).all (fun part => ["", ".", ".."].contains part) then .ok .directory
    else .error .notFound
  else walk tree [] (parts path)

def holds (tree : FileTree) (path : String) : Bool :=
  match tree.find path with
  | .ok _ => true
  | .error _ => false

def asText (contents : List Nat) : Except FileError String :=
  match Text.ofUtf8 contents with
  | .ok text => .ok text
  | .error _ => .error .notText

def readText (tree : FileTree) (path : String) : Except FileError String :=
  match tree.find path with
  | .ok (.file contents) => asText contents
  | .ok .directory => .error .isDirectory
  | .error error => .error error

end FileTree

end BrowserReplay
