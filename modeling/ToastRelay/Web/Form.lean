import ToastRelay.Text.Utf8

/-!
# Form encoding

A list of names and values as one ASCII text. Letters, digits and four more characters stand for
themselves, a blank becomes a plus sign, and every other byte is written in hexadecimal behind a
percent sign.
-/

namespace ToastRelay.Web.Form
set_option autoImplicit false

def staysPlain (b : UInt8) : Bool :=
  (Char.ofNat b.toNat).isAlphanum || b = 0x2A || b = 0x2D || b = 0x2E || b = 0x5F

def hexDigit (n : Nat) : Char :=
  if n < 10 then Char.ofNat ('0'.toNat + n) else Char.ofNat ('A'.toNat + (n - 10))

def encodeByte (b : UInt8) : List Char :=
  if b = 0x20 then ['+']
  else if staysPlain b then [Char.ofNat b.toNat]
  else ['%', hexDigit (b.toNat / 16), hexDigit (b.toNat % 16)]

def encodeChars (s : String) : List Char := (Text.encode s).flatMap encodeByte

def pairChars (pair : String × String) : List Char :=
  encodeChars pair.1 ++ '=' :: encodeChars pair.2

def encode (pairs : List (String × String)) : String :=
  String.ofList (['&'].intercalate (pairs.map pairChars))

end ToastRelay.Web.Form
