import ToastRelay.FileTree
import ToastRelay.Settings
import ToastRelay.Text.Alphanumeric
import ToastRelay.Text.Blank
import ToastRelay.Text.Fields

/-!
# Environment files

A file of variables that are set unless the environment has them already. Every line gives a name
and a value with an equals sign between them. A value may be quoted: everything between single
quotes stands for itself, while elsewhere backslashes escape characters and dollar signs bring in the
values of variables. The first line that is malformed ends the file, without a complaint.

The variables of a process cannot hold a zero character, and to set one to a value with such a
character ends the program at once, with the exit code 101. This is left out: here the value is set
like any other.
-/

namespace ToastRelay.EnvFile
set_option autoImplicit false

open Text

def fileName : String := ".env"

/-- Where in a value a reader is. Inside double quotes is `quoted`, and names are held last
character first. -/
inductive Mode where
  | plain
  | doubleQuotes
  | singleQuotes
  | escape (quoted : Bool)
  | variable (quoted : Bool) (name : List Char)
  | bracedVariable (quoted : Bool) (name : List Char)
  /-- Only blanks and a comment may follow. -/
  | behind
  deriving DecidableEq, Repr

def Mode.outside (quoted : Bool) : Mode := if quoted then .doubleQuotes else .plain

/-- The value of a variable; one that is not set has an empty value. -/
def valueOf (environment : Environment) (name : List Char) : List Char :=
  ((environment (String.ofList name.reverse)).getD "").toList

/-- The character that a backslash and this character stand for. -/
def escaped? (c : Char) : Option Char :=
  if c = 'n' then some '\n'
  else if ['\\', '\'', '"', '$', ' '].contains c then some c
  else none

/-- Reads a value. What is read of it is held last character first. -/
def valueFrom (environment : Environment) : Mode → List Char → List Char → Option (List Char)
  | .plain, done, [] | .behind, done, [] | .escape false, done, [] => some done.reverse
  | .variable false name, done, [] => some (done.reverse ++ valueOf environment name)
  | _, _, [] => none
  | .behind, done, c :: r =>
    if c = '#' then some done.reverse
    else if c = ' ' || c = '\t' then valueFrom environment .behind done r
    else none
  | .escape quoted, done, c :: r =>
    match escaped? c with
    | none => none
    | some a => valueFrom environment (.outside quoted) (a :: done) r
  | .singleQuotes, done, c :: r =>
    if c = '\'' then valueFrom environment .plain done r
    else valueFrom environment .singleQuotes (c :: done) r
  | .variable quoted name, done, c :: r =>
    if isAlphanumeric c then valueFrom environment (.variable quoted (c :: name)) done r
    else if c = '\x7b' && name.isEmpty then
      valueFrom environment (.bracedVariable quoted []) done r
    else
      let done := (valueOf environment name).reverse ++ done
      if c = '$' then valueFrom environment (.variable quoted []) done r
      else valueFrom environment (.outside quoted) (c :: done) r
  | .bracedVariable quoted name, done, c :: r =>
    if c = '\x7d' then
      valueFrom environment (.outside quoted) ((valueOf environment name).reverse ++ done) r
    else valueFrom environment (.bracedVariable quoted (c :: name)) done r
  | .doubleQuotes, done, c :: r =>
    if c = '$' then valueFrom environment (.variable true []) done r
    else if c = '"' then valueFrom environment .plain done r
    else if c = '\\' then valueFrom environment (.escape true) done r
    else valueFrom environment .doubleQuotes (c :: done) r
  | .plain, done, c :: r =>
    if c = '$' then valueFrom environment (.variable false []) done r
    else if c = '\'' then valueFrom environment .singleQuotes done r
    else if c = '"' then valueFrom environment .doubleQuotes done r
    else if c = '\\' then valueFrom environment (.escape false) done r
    else if c = ' ' || c = '\t' then valueFrom environment .behind done r
    else valueFrom environment .plain (c :: done) r

inductive Line where
  | nothing
  | assignment (name value : String)
  | malformed
  deriving DecidableEq, Repr

def isNameCharacter (c : Char) : Bool := c.isAlphanum || c = '_' || c = '.'

/-- A name and what follows it and the blanks behind it. -/
def name? (s : List Char) : Option (List Char × List Char) :=
  if s.head?.any fun c => c.isAlpha || c = '_' then
    some (s.takeWhile isNameCharacter, (s.dropWhile isNameCharacter).dropWhile isBlank)
  else none

/-- A name, behind which `export` may stand before the name that counts, and what follows the
equals sign. -/
def assigned? (s : List Char) : Option (List Char × List Char) :=
  match name? s with
  | none => none
  | some (name, '=' :: r) => some (name, r)
  | some (name, r) =>
    if name = ['e', 'x', 'p', 'o', 'r', 't'] then
      match name? r with
      | some (name, '=' :: r) => some (name, r)
      | _ => none
    else none

def endsLine (s : List Char) : Bool := s.isEmpty || s.head? = some '#'

def line (environment : Environment) (text : List Char) : Line :=
  let s := (trimEnd text).dropWhile isBlank
  if endsLine s then .nothing
  else match assigned? s with
    | none => .malformed
    | some (name, r) =>
      let r := r.dropWhile isBlank
      if endsLine r then .assignment (String.ofList name) ""
      else match valueFrom environment .plain [] r with
        | none => .malformed
        | some value => .assignment (String.ofList name) (String.ofList value)

/-- Sets a variable unless it is set. -/
def define (environment : Environment) (name value : String) : Environment := fun key =>
  if key = name then some ((environment name).getD value) else environment key

/-- Sets the variables of lines, up to the first line that is malformed or no text. -/
def defineLines (environment : Environment) : List Bytes → Environment
  | [] => environment
  | bytes :: more =>
    match chars? bytes with
    | none => environment
    | some text =>
      match line environment text with
      | .nothing => defineLines environment more
      | .assignment name value => defineLines (define environment name value) more
      | .malformed => environment

def consByte (b : UInt8) : List Bytes → List Bytes
  | [] => [[b]]
  | l :: lines => if b = 0x0A then [] :: l :: lines else (b :: l) :: lines

/-- The bytes between line ends; a line end at the very end begins no further line. -/
def linesOf (bytes : Bytes) : List Bytes :=
  let lines := bytes.foldr consByte [[]]
  if lines.getLast? = some [] then lines.dropLast else lines

/-- The content of the environment file in a directory or the nearest one above that has one. -/
def find? (files : FileTree) : Location → Option Bytes
  | [] => contentAt []
  | name :: l => (contentAt (name :: l)).or (find? files l)
where
  contentAt (l : Location) : Option Bytes :=
    match files.get? (fileName :: l) with
    | some (.file content) => some content
    | _ => none

def extend (environment : Environment) (files : FileTree) : Environment :=
  match find? files files.workingDirectory with
  | none => environment
  | some content => defineLines environment (linesOf content)

end ToastRelay.EnvFile
