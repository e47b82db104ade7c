import MarkupLog.Entries
import MarkupLog.Files.Path
import MarkupLog.Text.Quoted

/-!
# Files

The files and directories that a program can see, each under the names that lead to it from the
root, and the directory in which the program runs. A path is followed name by name: each name but
the last must lead to a directory, and two dots lead to the directory above. A file may be there and
still be closed to the program.
-/

namespace MarkupLog

inductive FileEntry
  | directory
  | file (bytes : List UInt8)
  /-- A file that the program may not read. -/
  | unreadable
  deriving Repr, DecidableEq

abbrev Location := List String

/-- Files and directories, and the current directory. The root is always a directory. -/
structure FileSystem where
  entries : Entries Location FileEntry := []
  current : Location := []
  deriving Repr, DecidableEq

inductive AccessError
  | missing
  | denied
  | notDirectory
  | isDirectory
  deriving Repr, DecidableEq

def AccessError.number : AccessError → Nat
  | .missing => 2
  | .denied => 13
  | .notDirectory => 20
  | .isDirectory => 21

def AccessError.reason : AccessError → String
  | .missing => "No such file or directory"
  | .denied => "Permission denied"
  | .notDirectory => "Not a directory"
  | .isDirectory => "Is a directory"

def AccessError.message (e : AccessError) (path : String) : String :=
  "[Errno " ++ toString e.number ++ "] " ++ e.reason ++ ": " ++ Text.quoted path

namespace FileSystem

def at? (fs : FileSystem) (place : Location) : Option FileEntry :=
  if place = [] then some .directory else fs.entries.get? place

def follow (fs : FileSystem) (place : Location) : List String → Except AccessError Location
  | [] => .ok place
  | name :: rest =>
    match fs.at? place with
    | none => .error .missing
    | some (.file _) | some .unreadable => .error .notDirectory
    | some .directory =>
      if name = ".." then fs.follow place.dropLast rest
      else if (fs.at? (place ++ [name])).isNone then .error .missing
      else fs.follow (place ++ [name]) rest

def origin (fs : FileSystem) (p : Path) : Location :=
  if p.anchor = .current then fs.current else []

def locate (fs : FileSystem) (p : Path) : Except AccessError Location :=
  fs.follow (fs.origin p) p.names

def entry (fs : FileSystem) (p : Path) : Except AccessError FileEntry :=
  match fs.locate p with
  | .error e => .error e
  | .ok place =>
    match fs.at? place with
    | none => .error .missing
    | some found => .ok found

def read (fs : FileSystem) (p : Path) : Except AccessError (List UInt8) :=
  match fs.entry p with
  | .error e => .error e
  | .ok .directory => .error .isDirectory
  | .ok .unreadable => .error .denied
  | .ok (.file bytes) => .ok bytes

def isFile (fs : FileSystem) (p : Path) : Bool :=
  match fs.entry p with
  | .ok (.file _) | .ok .unreadable => true
  | _ => false

/-- What a path text leads to. Unlike the path that it writes, a text that ends in a slash or a single
dot leads to directories only, and the empty text leads nowhere. -/
def entryOfText (fs : FileSystem) (text : String) : Except AccessError FileEntry :=
  if text = "" then .error .missing
  else
    match fs.entry (Path.ofText text) with
    | .error e => .error e
    | .ok .directory => .ok .directory
    | .ok file =>
      if ((Text.split '/' text).getLast?.any fun part => part = "" ∨ part = ".") then
        .error .notDirectory
      else .ok file

def currentPath (fs : FileSystem) : Path :=
  Path.ofNames fs.current

/-! ### Making files -/

def directoriesAbove (place : Location) : List Location :=
  (Path.beginnings place).drop 1

def withDirectory (fs : FileSystem) (place : Location) : FileSystem :=
  if (fs.at? place).isSome then fs
  else { fs with entries := fs.entries.put place .directory }

def withDirectories (fs : FileSystem) (place : Location) : FileSystem :=
  (place :: directoriesAbove place).foldl withDirectory fs

/-- Writes a file, and makes the directories above it. -/
def withFile (fs : FileSystem) (place : Location) (bytes : List UInt8) : FileSystem :=
  let fs := (directoriesAbove place).foldl withDirectory fs
  { fs with entries := fs.entries.put place (.file bytes) }

end FileSystem

end MarkupLog
