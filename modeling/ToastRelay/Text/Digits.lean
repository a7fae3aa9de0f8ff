/-!
# Digits

Numbers written in bases up to sixteen, in letters of either case.
-/

namespace ToastRelay.Text
set_option autoImplicit false

def isHexDigit (c : Char) : Bool :=
  c.isDigit || ('a' ≤ c && c ≤ 'f') || ('A' ≤ c && c ≤ 'F')

def isOctalDigit (c : Char) : Bool := '0' ≤ c && c ≤ '7'

def digitOf (c : Char) : Nat :=
  if c.isDigit then c.toNat - '0'.toNat
  else if c.isLower then c.toNat - 'a'.toNat + 10
  else c.toNat - 'A'.toNat + 10

def numberOf (base : Nat) (s : List Char) : Nat :=
  s.foldl (fun n c => base * n + digitOf c) 0

end ToastRelay.Text
