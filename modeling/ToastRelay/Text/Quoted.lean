import ToastRelay.Text.Hidden

/-!
# Quoted text

Messages show a text between quotation marks. Quotation marks, backslashes and the usual control
characters in it are written with a backslash, and every other character that would not show is
written by its number. The reader of a message can so tell where the text ends and what it holds.
-/

namespace ToastRelay.Text
set_option autoImplicit false

def hexDigits (n : Nat) : List Char := Nat.toDigits 16 n

def quotedChar (c : Char) : List Char :=
  if c = '\x00' then ['\\', '0']
  else if c = '\t' then ['\\', 't']
  else if c = '\r' then ['\\', 'r']
  else if c = '\n' then ['\\', 'n']
  else if c = '\\' then ['\\', '\\']
  else if c = '"' then ['\\', '"']
  else if isHidden c then ['\\', 'u', '\x7b'] ++ hexDigits c.toNat ++ ['\x7d']
  else [c]

def quoted (s : String) : String :=
  String.ofList ('"' :: s.toList.flatMap quotedChar ++ ['"'])

end ToastRelay.Text
