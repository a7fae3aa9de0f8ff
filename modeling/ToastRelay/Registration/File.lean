import ToastRelay.Error
import ToastRelay.FileTree
import ToastRelay.Registration
import ToastRelay.Text.Blank

/-!
# The registrations file

Registrations are kept in a file. They are saved by writing a new file beside it and moving that one
into its place, so that the file always holds one whole set of registrations. A file that is missing
or blank holds none, and every other file that cannot be read as registrations is an error.
-/

namespace ToastRelay.RegistrationsFile
set_option autoImplicit false

/-- Where the new file is written before it is moved. -/
def newPath (path : String) : String :=
  Path.withFileName path ((Path.fileName? path).getD "" ++ ".tmp")

/-- The registrations in a text; a blank text holds none. -/
def parse (text : String) : Except ReadError Registrations :=
  if Text.isBlankText text.toList then .ok Dictionary.empty else Registrations.ofText text

def readingError (path : String) (e : FileError) : ErrorChain :=
  (ErrorChain.of e.text).within ("reading " ++ path)

def parsingError (path : String) (e : ReadError) : ErrorChain :=
  (ErrorChain.of e.text).within ("parsing " ++ path)

def writingError (path : String) (e : FileError) : ErrorChain :=
  (ErrorChain.of e.text).within ("writing " ++ newPath path)

def replacingError (path : String) (e : FileError) : ErrorChain :=
  (ErrorChain.of e.text).within ("replacing " ++ path)

def ofRead (path : String) : Except FileError String → Except ErrorChain Registrations
  | .error .notFound => .ok Dictionary.empty
  | .error e => .error (readingError path e)
  | .ok text =>
    match parse text with
    | .error e => .error (parsingError path e)
    | .ok registrations => .ok registrations

def load (files : FileTree) (path : String) : Except ErrorChain Registrations :=
  ofRead path (files.readText path)

def contentOf (registrations : Registrations) : Bytes := Text.encode registrations.toText

/-- Saves registrations in the file at a path. A save that fails may leave the new file behind. -/
def save (files : FileTree) (path : String) (registrations : Registrations) :
    Except ErrorChain Unit × FileTree :=
  match files.write (newPath path) (contentOf registrations) with
  | .error e => (.error (writingError path e), files)
  | .ok written =>
    match written.moveFile (newPath path) path with
    | .error e => (.error (replacingError path e), written)
    | .ok moved => (.ok (), moved)

end ToastRelay.RegistrationsFile
