import ToastRelay.Error
import ToastRelay.Registration
import ToastRelay.Web.Url

/-!
# The schema of a registration request

A request must be an object with an identifier and the web address of a channel, and may have an
expiry, which is a natural number or `null`, and a name. Other members are not allowed. All
violations are reported: those of the members that are there, in the order of their names, and then
the members that are missing.
-/

namespace ToastRelay
set_option autoImplicit false

inductive Violation where
  | notText (key : String)
  | invalidUrl (key : String)
  | belowZero (key : String)
  | notInteger (key : String)
  | extraKey (key : String)
  | missingKey (key : String)
  deriving DecidableEq, Repr

namespace Violation

def inValue (complaint key : String) : String :=
  complaint ++ " for dictionary value @ data['" ++ key ++ "']"

def text : Violation → String
  | .notText key => inValue "expected str" key
  | .invalidUrl key => inValue "invalid url" key
  | .belowZero key => inValue "value must be at least 0" key
  | .notInteger key => inValue "expected int" key
  | .extraKey key => "extra keys not allowed @ data['" ++ key ++ "']"
  | .missingKey key => "required key not provided @ data['" ++ key ++ "']"

end Violation

inductive Rejection where
  | notObject
  | violations (vs : List Violation)
  deriving DecidableEq, Repr

def Rejection.text : Rejection → String
  | .notObject => "expected a dictionary"
  | .violations vs => String.intercalate ". " (vs.map Violation.text)

namespace Registration

def textViolation? (key : String) : Json → Option Violation
  | .string _ => none
  | _ => some (.notText key)

def channelViolation? (key : String) : Json → Option Violation
  | .string s => if Web.isWebAddress s then none else some (.invalidUrl key)
  | _ => some (.notText key)

def expiryViolation? (key : String) : Json → Option Violation
  | .null => none
  | .number (.natural _) => none
  | .number (.negative _) => some (.belowZero key)
  | _ => some (.notInteger key)

def violation? (key : String) (value : Json) : Option Violation :=
  if key = "id" then textViolation? key value
  else if key = "channel" then channelViolation? key value
  else if key = "expiry" then expiryViolation? key value
  else if key = "name" then textViolation? key value
  else some (.extraKey key)

def requiredKeys : List String := ["id", "channel"]

/-- All violations of a request, in the order in which they are reported. -/
def violations (members : List (String × Json)) : List Violation :=
  members.filterMap (fun (key, value) => violation? key value) ++
    (requiredKeys.filter fun key => (valueAt? key members).isNone).map .missingKey

def expiryOf : Option Json → Option UInt64
  | some (.number (.natural n)) => some n
  | _ => none

def ofRequest (request : Json) : Except Rejection Registration :=
  match request with
  | .object members =>
    let vs := violations members
    match (valueAt? "id" members).bind Json.string?,
        (valueAt? "channel" members).bind Json.string? with
    | some id, some channel =>
      if vs.isEmpty then
        .ok ⟨id, channel, expiryOf (valueAt? "expiry" members),
          (valueAt? "name" members).bind Json.string?⟩
      else .error (.violations vs)
    | _, _ => .error (.violations vs)
  | _ => .error .notObject

end Registration

end ToastRelay
