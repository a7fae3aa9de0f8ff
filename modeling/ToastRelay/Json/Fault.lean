import ToastRelay.Number.Shortest
import ToastRelay.Text.Quoted

/-!
# What can be wrong with a JSON text

A fault is a departure from the grammar, or a value of another kind than the one that is wanted. A
read error is a fault with the place in the text where it was found; a fault found in a value that
is already read has no place.
-/

namespace ToastRelay
set_option autoImplicit false

/-- A value that stands where another kind of value is wanted. -/
inductive Found where
  | null
  | bool (b : Bool)
  | integer (n : Int)
  | float (x : Binary64)
  | string (s : String)
  | sequence
  | map
  deriving DecidableEq, Repr

def Found.text : Found → String
  | .null => "null"
  | .bool true => "boolean `true`"
  | .bool false => "boolean `false`"
  | .integer n => "integer `" ++ toString n ++ "`"
  | .float x => "floating point `" ++ x.text ++ "`"
  | .string s => "string " ++ Text.quoted s
  | .sequence => "sequence"
  | .map => "map"

inductive Fault where
  | unfinishedList
  | unfinishedObject
  | unfinishedString
  | unfinishedValue
  | colonMissing
  | listCommaMissing
  | objectCommaMissing
  | wordMissing
  | valueMissing
  | invalidEscape
  | invalidNumber
  | numberOutOfRange
  | invalidCodePoint
  | controlCharacter
  | keyNotString
  | loneSurrogate
  | trailingComma
  | trailingCharacters
  | unfinishedSurrogate
  | tooDeep
  | invalidType (found : Found) (expected : String)
  | invalidValue (found : Found) (expected : String)
  | invalidLength (length : Nat) (expected : String)
  | missingField (name : String)
  | duplicateField (name : String)
  | noVariant (name : String)
  deriving DecidableEq, Repr

def Fault.text : Fault → String
  | .unfinishedList => "EOF while parsing a list"
  | .unfinishedObject => "EOF while parsing an object"
  | .unfinishedString => "EOF while parsing a string"
  | .unfinishedValue => "EOF while parsing a value"
  | .colonMissing => "expected `:`"
  | .listCommaMissing => "expected `,` or `]`"
  | .objectCommaMissing => "expected `,` or `\x7d`"
  | .wordMissing => "expected ident"
  | .valueMissing => "expected value"
  | .invalidEscape => "invalid escape"
  | .invalidNumber => "invalid number"
  | .numberOutOfRange => "number out of range"
  | .invalidCodePoint => "invalid unicode code point"
  | .controlCharacter =>
    "control character (\\u0000-\\u001F) found while parsing a string"
  | .keyNotString => "key must be a string"
  | .loneSurrogate => "lone leading surrogate in hex escape"
  | .trailingComma => "trailing comma"
  | .trailingCharacters => "trailing characters"
  | .unfinishedSurrogate => "unexpected end of hex escape"
  | .tooDeep => "recursion limit exceeded"
  | .invalidType found expected => "invalid type: " ++ found.text ++ ", expected " ++ expected
  | .invalidValue found expected => "invalid value: " ++ found.text ++ ", expected " ++ expected
  | .invalidLength length expected =>
    "invalid length " ++ toString length ++ ", expected " ++ expected
  | .missingField name => "missing field `" ++ name ++ "`"
  | .duplicateField name => "duplicate field `" ++ name ++ "`"
  | .noVariant name => "data did not match any variant of untagged enum " ++ name

/-- A place between two bytes of a text: its line, from one, and the bytes before it on the line. -/
structure Position where
  line : Nat
  column : Nat
  deriving DecidableEq, Repr

structure ReadError where
  fault : Fault
  position : Option Position
  deriving DecidableEq, Repr

def ReadError.text (e : ReadError) : String :=
  match e.position with
  | none => e.fault.text
  | some p =>
    e.fault.text ++ " at line " ++ toString p.line ++ " column " ++ toString p.column

end ToastRelay
