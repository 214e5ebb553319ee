/-! Files by name: why one cannot be read, and a directory tree that is held in memory. -/
namespace TraceTally

/-- Why the text of a file could not be had. -/
inductive ReadFault where
  | notFound
  | notDirectory
  | isDirectory
  | nameTooLong
  | nulInName
  | invalidText
  | other (description : String)
  deriving DecidableEq

def ReadFault.message : ReadFault → String
  | .notFound => "No such file or directory (os error 2)"
  | .notDirectory => "Not a directory (os error 20)"
  | .isDirectory => "Is a directory (os error 21)"
  | .nameTooLong => "File name too long (os error 36)"
  | .nulInName => "file name contained an unexpected NUL byte"
  | .invalidText => "stream did not contain valid UTF-8"
  | .other description => description

/-- Files and directories, each with the names on the way to it from the root, and the directory
that other paths start from. -/
structure FileTree where
  files : List (List String × ByteArray)
  directories : List (List String)
  current : List String

namespace FileTree

/-- The parts of a path. Empty parts and the part `.` lead nowhere and are left out. -/
def components (path : String) : List String :=
  (path.splitOn "/").filter fun c => c != "" && c != "."

/-- A path that ends in a slash, or in `.` after one, names a directory. -/
def namesDirectory (path : String) : Bool :=
  match (path.splitOn "/").getLast? with
  | some last => last == "" || last == "."
  | none => false

/-- Directories that every system has. -/
def commonDirectories : List (List String) :=
  [["bin"], ["dev"], ["etc"], ["home"], ["lib"], ["opt"], ["proc"], ["run"], ["sbin"], ["sys"],
    ["tmp"], ["usr"], ["var"]]

/-- Where the files at hand lie. -/
def workspace : List String := ["tmp", "work"]

/-- The given files and directories in a directory of their own, on a system with nothing else to
read but the empty device. -/
def ofEntries (files : List (List String × ByteArray)) (directories : List (List String)) :
    FileTree where
  files := (["dev", "null"], ByteArray.empty) :: files.map fun f => (workspace ++ f.1, f.2)
  directories := workspace :: directories.map (workspace ++ ·) ++ commonDirectories
  current := workspace

def isDirectory (t : FileTree) (place : List String) : Bool :=
  place.isEmpty || t.directories.any (place.isPrefixOf ·) ||
    t.files.any fun f => place.isPrefixOf f.1 && f.1 != place

def file? (t : FileTree) (place : List String) : Option ByteArray := t.files.lookup place

/-- One step of a walk, by a name or to the directory above. The root is above itself. -/
def enter (t : FileTree) (place : List String) (name : String) : Except ReadFault (List String) :=
  if !t.isDirectory place then .error .notDirectory
  else if 255 < name.utf8ByteSize then .error .nameTooLong
  else if name == ".." then .ok place.dropLast
  else
    let next := place ++ [name]
    if t.isDirectory next || (t.file? next).isSome then .ok next else .error .notFound

def resolve (t : FileTree) (path : String) : Except ReadFault (List String) :=
  if path.contains '\x00' then .error .nulInName
  else if path == "" then .error .notFound
  else if 4096 ≤ path.utf8ByteSize then .error .nameTooLong
  else (components path).foldlM t.enter (if path.startsWith "/" then [] else t.current)

/-- The text of the file that `path` names. -/
def read (t : FileTree) (path : String) : Except ReadFault String := do
  let place ← t.resolve path
  if t.isDirectory place then throw .isDirectory
  if namesDirectory path then throw .notDirectory
  match t.file? place with
  | none => throw .notFound
  | some bytes =>
    match String.fromUTF8? bytes with
    | some s => return s
    | none => throw .invalidText

end FileTree

end TraceTally
