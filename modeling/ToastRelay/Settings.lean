import ToastRelay.Error

/-!
# Settings

The service is set up by five variables of its environment, each of which may be missing. An empty
client identifier or secret counts as missing, and without both of them no notification can be sent.
The port must be a number below 2^16, with an optional plus sign.
-/

namespace ToastRelay
set_option autoImplicit false

structure Credentials where
  clientId : String
  clientSecret : String
  deriving DecidableEq, Repr

structure Settings where
  clientId : Option String
  clientSecret : Option String
  tokenUrl : String
  registrationsFile : String
  port : UInt16
  deriving DecidableEq, Repr

/-- The values of the variables that are set to a text. -/
abbrev Environment := String → Option String

inductive PortFault where
  | empty
  | invalidDigit
  | tooLarge
  deriving DecidableEq, Repr

def PortFault.text : PortFault → String
  | .empty => "cannot parse integer from empty string"
  | .invalidDigit => "invalid digit found in string"
  | .tooLarge => "number too large to fit in target type"

namespace Settings

def defaultTokenUrl : String := "https://login.live.com/accesstoken.srf"

def defaultRegistrationsFile : String := "windows_push_registrations.conf"

def defaultPort : UInt16 := 8000

/-- The number that digits behind the number `n` make, as long as it is a port. -/
def portFrom (n : Nat) : List Char → Except PortFault Nat
  | [] => .ok n
  | c :: r =>
    if c.isDigit then
      let n := 10 * n + (c.toNat - '0'.toNat)
      if n < 65536 then portFrom n r else .error .tooLarge
    else .error .invalidDigit

def portOf (s : List Char) : Except PortFault UInt16 :=
  match s with
  | [] => .error .empty
  | ['+'] => .error .invalidDigit
  | '+' :: r => (portFrom 0 r).map UInt16.ofNat
  | _ => (portFrom 0 s).map UInt16.ofNat

def ofEnvironment (environment : Environment) : Except ErrorChain Settings :=
  let make := fun port => {
    clientId := (environment "WNS_CLIENT_ID").filter (· ≠ "")
    clientSecret := (environment "WNS_CLIENT_SECRET").filter (· ≠ "")
    tokenUrl := (environment "WNS_TOKEN_URL").getD defaultTokenUrl
    registrationsFile := (environment "WNS_REGISTRATIONS_FILE").getD defaultRegistrationsFile
    port := port }
  match environment "PORT" with
  | none => .ok (make defaultPort)
  | some text =>
    match portOf text.toList with
    | .ok port => .ok (make port)
    | .error f => .error ((ErrorChain.of f.text).within "PORT must be a number")

/-- The credentials, if both halves of them are set. -/
def credentials (s : Settings) : Option Credentials :=
  match s.clientId, s.clientSecret with
  | some id, some secret => some ⟨id, secret⟩
  | _, _ => none

end Settings

end ToastRelay
