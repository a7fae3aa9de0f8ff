import ToastRelay.Text.Fields
import ToastRelay.Text.Digits

/-!
# Numeric host addresses

A host whose last label is a number is an address of four bytes, written as up to four numbers in
decimal, octal or hexadecimal; the last number fills all bytes that are left. A host in brackets is
an address of eight groups of hexadecimal digits, where one run of zero groups may be left out and
the last two groups may be written as four decimal numbers. Only whether a text is such an address
is decided here, not which one.
-/

namespace ToastRelay.Web
set_option autoImplicit false

open Text

/-- The number that a label of an address stands for: `0x` begins a hexadecimal number and `0` an
octal one, and nothing behind the `0x` is zero. -/
def addressNumber (s : List Char) : Option Nat :=
  match s with
  | [] => none
  | '0' :: 'x' :: r | '0' :: 'X' :: r => if r.all isHexDigit then some (numberOf 16 r) else none
  | '0' :: c :: r => if (c :: r).all isOctalDigit then some (numberOf 8 (c :: r)) else none
  | _ => if s.all Char.isDigit then some (numberOf 10 s) else none

def addressLabels (host : List Char) : List (List Char) :=
  let fs := fields '.' host
  if fs.getLast? = some [] then fs.dropLast else fs

/-- Whether the last label of a host is a number, so that the host must be an address. -/
def endsInNumber (host : List Char) : Bool :=
  match (addressLabels host).getLast? with
  | none => false
  | some last => (!last.isEmpty && last.all Char.isDigit) || (addressNumber last).isSome

/-- Whether a host is an address of four bytes. -/
def isShortAddress (host : List Char) : Bool :=
  let parts := addressLabels host
  parts.length ≤ 4 &&
    match parts.mapM addressNumber with
    | none => false
    | some ns =>
      ns.dropLast.all (· ≤ 255) && ns.getLast?.all (· < Nat.pow 256 (5 - ns.length))

def isByte (s : List Char) : Bool :=
  match s with
  | [] => false
  | ['0'] => true
  | '0' :: _ => false
  | _ => s.all Char.isDigit && numberOf 10 s ≤ 255

def isDotted (s : List Char) : Bool :=
  let parts := fields '.' s
  parts.length = 4 && parts.all isByte

/-- Whether a text completes an address of eight groups of which `count` have been seen. A double
colon counts as one group and may occur once. -/
def completesLongAddress (s : List Char) (count : Nat) (shortened : Bool) : Bool :=
  match s with
  | [] => shortened || count = 8
  | c :: r =>
    if count = 8 then false
    else if c = ':' then !shortened && completesLongAddress r (count + 1) true
    else
      let group := ((c :: r).takeWhile isHexDigit).take 4
      match _h : (c :: r).drop group.length with
      | [] => shortened || count = 7
      | '.' :: _ =>
        !group.isEmpty && count ≤ 6 && isDotted (c :: r) && (shortened || count = 6)
      | ':' :: after => !after.isEmpty && completesLongAddress after (count + 1) shortened
      | _ => false
termination_by s.length
decreasing_by
  · simp
  · have h := congrArg List.length _h
    simp only [List.length_drop, List.length_cons] at h
    simp only [List.length_cons]
    omega

def isLongAddress (s : List Char) : Bool :=
  match s with
  | [] => false
  | [_] => false
  | c :: d :: r =>
    if c = ':' then d = ':' && completesLongAddress r 1 true else completesLongAddress s 0 false

end ToastRelay.Web
