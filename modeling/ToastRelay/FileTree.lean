import ToastRelay.FileTree.Path
import ToastRelay.Text.Utf8

/-!
# File trees

Files and directories by location, with a working directory at which relative paths begin. The
directories on the way to a file must be there. Reading, writing and moving a file fail for the
reasons for which they fail on disk, and a failing operation changes nothing.

There are no links: no entry stands for another one, and no file is entered twice. Nor are there
permissions: whatever is there can be read and written. What is proved of every tree says nothing of
a disk with either of them.
-/

namespace ToastRelay
set_option autoImplicit false

/-- The names that lead from the root to an entry, the innermost first. -/
abbrev Location := List String

inductive Entry where
  | file (content : Bytes)
  | directory
  deriving DecidableEq, Repr

inductive FileError where
  | notFound
  | busy
  | notDirectory
  | isDirectory
  | nameTooLong
  | notText
  | zeroInName
  /-- Another reason, which a file tree never gives. -/
  | other (text : String)
  deriving DecidableEq, Repr

def FileError.text : FileError → String
  | .notFound => "No such file or directory (os error 2)"
  | .busy => "Device or resource busy (os error 16)"
  | .notDirectory => "Not a directory (os error 20)"
  | .isDirectory => "Is a directory (os error 21)"
  | .nameTooLong => "File name too long (os error 36)"
  | .notText => "stream did not contain valid UTF-8"
  | .zeroInName => "file name contained an unexpected NUL byte"
  | .other text => text

structure FileTree where
  workingDirectory : Location
  entries : List (Location × Entry)
  deriving DecidableEq, Repr

namespace FileTree

/-- What is at a location. The root is a directory. -/
def get? (t : FileTree) (l : Location) : Option Entry :=
  if l = [] then some .directory else t.entries.lookup l

def put (t : FileTree) (l : Location) (e : Entry) : FileTree :=
  { t with entries := (l, e) :: t.entries.filter (·.1 ≠ l) }

def delete (t : FileTree) (l : Location) : FileTree :=
  { t with entries := t.entries.filter (·.1 ≠ l) }

/-- The most bytes of a name, and of a path. -/
def longestName : Nat := 255

def longestPath : Nat := 4095

def enter (t : FileTree) (l : Location) (name : String) : Except FileError Location :=
  if name = "." then .ok l
  else if name = ".." then .ok l.tail
  else if longestName < name.utf8ByteSize then .error .nameTooLong
  else match t.get? (name :: l) with
    | none => .error .notFound
    | some (.file _) => .error .notDirectory
    | some .directory => .ok (name :: l)

/-- Where a path leads: into a directory, or to a name in one. -/
inductive Target where
  | directory (l : Location)
  | entry (parent : Location) (name : String) (slash : Bool)

def follow (t : FileTree) (path : String) : Except FileError Target := do
  if path.toList.contains '\x00' then throw .zeroInName
  if path = "" then throw .notFound
  if longestPath < path.utf8ByteSize then throw .nameTooLong
  let route := Path.route path
  let start := if route.absolute then [] else t.workingDirectory
  let l ← route.directories.foldlM t.enter start
  match route.final with
  | .entry name slash => return .entry l name slash
  | _ => return .directory l

def entryIn (t : FileTree) (l : Location) (name : String) : Except FileError (Option Entry) :=
  if longestName < name.utf8ByteSize then .error .nameTooLong else .ok (t.get? (name :: l))

def read (t : FileTree) (path : String) : Except FileError Bytes := do
  match ← t.follow path with
  | .directory _ => throw .isDirectory
  | .entry l name slash =>
    match ← t.entryIn l name with
    | none => throw .notFound
    | some .directory => throw .isDirectory
    | some (.file content) => if slash then throw .notDirectory else return content

def readText (t : FileTree) (path : String) : Except FileError String := do
  match Text.decode? (← t.read path) with
  | some s => return s
  | none => throw .notText

def write (t : FileTree) (path : String) (content : Bytes) : Except FileError FileTree := do
  match ← t.follow path with
  | .directory _ => throw .isDirectory
  | .entry l name slash =>
    if slash then throw .isDirectory
    match ← t.entryIn l name with
    | some .directory => throw .isDirectory
    | _ => return t.put (name :: l) (.file content)

def moveFile (t : FileTree) (source target : String) : Except FileError FileTree := do
  let sourceTarget ← t.follow source
  let targetTarget ← t.follow target
  match sourceTarget, targetTarget with
  | .entry l name _, .entry l' name' slash =>
    match ← t.entryIn l name with
    | none => throw .notFound
    | some .directory => throw .isDirectory
    | some (.file content) =>
      let old ← t.entryIn l' name'
      if slash then throw .notDirectory
      if old = some .directory then throw .isDirectory
      return (t.delete (name :: l)).put (name' :: l') (.file content)
  | _, _ => throw .busy

end FileTree

end ToastRelay
