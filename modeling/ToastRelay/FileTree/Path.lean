import ToastRelay.Text.Fields

/-!
# Paths

A path names its components between slashes. Empty components and single dots say nothing, except
for a dot at the very beginning, and two dots lead to the directory above. The last component that
says something is the file name, unless it is two dots. A path with another file name keeps all that
stands before the old one.
-/

namespace ToastRelay.Path
set_option autoImplicit false

open Text

/-- How many characters at the beginning of a path are not part of any name: the slash of an
absolute path, or a dot that stands alone. -/
def headLength (s : List Char) : Nat :=
  match s with
  | '/' :: _ => 1
  | ['.'] => 1
  | '.' :: '/' :: _ => 1
  | _ => 0

def saysNothing (component : List Char) : Bool := component = [] || component = ['.']

/-- Leaves off the components at the end that say nothing. -/
def trimEnd (components : List (List Char)) : List (List Char) :=
  (components.reverse.dropWhile saysNothing).reverse

/-- The components behind the head, up to the last one that says something. -/
def components (s : List Char) : List (List Char) :=
  trimEnd (fields '/' (s.drop (headLength s)))

def fileName? (path : String) : Option String :=
  ((components path.toList).getLast?.filter (· ≠ ['.', '.'])).map String.ofList

/-- Puts a name behind a path, with a slash between them if one is needed. -/
def push (s name : List Char) : List Char :=
  if s.isEmpty || s.getLast? = some '/' then s ++ name else s ++ '/' :: name

def parent (s : List Char) : List Char :=
  s.take (headLength s) ++ joinFields '/' (trimEnd (components s).dropLast)

/-- The path with another file name, which is added if the path has none. -/
def withFileName (path name : String) : String :=
  let s := path.toList
  String.ofList (push (if (fileName? path).isSome then parent s else s) name.toList)

/-- Where a path ends: at a name, perhaps with a slash behind it, at a directory that it has passed
already or goes back to, or at the root. -/
inductive Final where
  | entry (name : String) (slash : Bool)
  | dots
  | root
  deriving DecidableEq

structure Route where
  absolute : Bool
  directories : List String
  final : Final

def route (path : String) : Route :=
  let s := path.toList
  let names := ((fields '/' s).filter (· ≠ [])).map String.ofList
  let final := match names.getLast? with
    | none => .root
    | some name =>
      if name = "." || name = ".." then .dots else .entry name (s.getLast? = some '/')
  ⟨s.head? = some '/', match final with
    | .dots => names
    | _ => names.dropLast, final⟩

end ToastRelay.Path
