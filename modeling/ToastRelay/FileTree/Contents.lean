import ToastRelay.FileTree

/-!
# The contents of a working directory

A file tree can be made of the files below its working directory, changed from outside, and listed.
Here a name is given from the working directory on; a slash at its end makes it a directory, and the
directories on the way to it need not be there. Single dots in it say nothing.
-/

namespace ToastRelay.FileTree
set_option autoImplicit false

open Text

def locationOf (t : FileTree) (name : String) : Location :=
  (((fields '/' name.toList).filter (!Path.saysNothing ·)).map String.ofList).reverse ++
    t.workingDirectory

def makeDirectory (t : FileTree) (l : Location) : FileTree :=
  if (t.get? l).isSome then t else t.put l .directory

def makeDirectories (t : FileTree) : Location → FileTree
  | [] => t
  | name :: l => (t.makeDirectories l).makeDirectory (name :: l)

def place (t : FileTree) (name : String) (content : Bytes) : FileTree :=
  let l := t.locationOf name
  if name.toList.getLast? = some '/' then t.makeDirectories l
  else (t.makeDirectories l.tail).put l (.file content)

def placeAll (t : FileTree) (contents : List (String × Bytes)) : FileTree :=
  contents.foldl (fun t (name, content) => t.place name content) t

def ofContents (contents : List (String × Bytes)) : FileTree :=
  placeAll ⟨["work"], [(["work"], .directory)]⟩ contents

/-- Deletes what a name leads to and all below it, and tells whether anything was there. -/
def deleteAll (t : FileTree) (name : String) : Bool × FileTree :=
  let l := t.locationOf name
  ((t.get? l).isSome, { t with entries := t.entries.filter fun e => !l.isSuffixOf e.1 })

/-- The name from the working directory on of what is at a location below it. -/
def nameBelow? (t : FileTree) (l : Location) (e : Entry) : Option String :=
  if t.workingDirectory.isSuffixOf l && t.workingDirectory.length < l.length then
    let name := String.intercalate "/" (l.take (l.length - t.workingDirectory.length)).reverse
    some <| match e with
      | .file _ => name
      | .directory => name ++ "/"
  else none

/-- What is below the working directory; a directory has no content. -/
def contents (t : FileTree) : List (String × Option Bytes) :=
  t.entries.filterMap fun (l, e) =>
    (t.nameBelow? l e).map fun name => (name, match e with
      | .file content => some content
      | .directory => none)

end ToastRelay.FileTree
