import ToastRelay.Dictionary
import ToastRelay.Number.Binary64

/-!
# JSON values

A number is a natural number below 2^64, a negative integer not below -2^63, or a floating point
number; every other number of a text is rounded to one of the last kind. The members of an object
are held in some order; reading puts them into ascending order of their names.
-/

namespace ToastRelay
set_option autoImplicit false

/-- A number. A negative one is given by its distance from zero. -/
inductive JsonNumber where
  | natural (n : UInt64)
  | negative (size : Nat)
  | float (x : Binary64)
  deriving DecidableEq, Repr, Inhabited

inductive Json where
  | null
  | bool (b : Bool)
  | number (n : JsonNumber)
  | string (s : String)
  | array (items : List Json)
  | object (members : List (String × Json))
  deriving Repr, Inhabited

namespace Json

def string? : Json → Option String
  | .string s => some s
  | _ => none

def member? (v : Json) (name : String) : Option Json :=
  match v with
  | .object members => valueAt? name members
  | _ => none

end Json

end ToastRelay
