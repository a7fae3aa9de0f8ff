import ToastRelay.Json.Value
import ToastRelay.Number.Shortest
import ToastRelay.Text.Quoted

/-!
# Writing JSON

The compact form has no blanks. The indented form puts every item and member on a line of its own,
two blanks further in than its container; an empty container stays on one line. In texts only
quotation marks, backslashes and control characters are escaped.
-/

namespace ToastRelay
set_option autoImplicit false

def JsonNumber.text : JsonNumber → String
  | .natural n => toString n.toNat
  | .negative size => "-" ++ toString size
  | .float x => x.text

namespace Json

def escapedChar (c : Char) : List Char :=
  if c = '"' then ['\\', '"']
  else if c = '\\' then ['\\', '\\']
  else if c = '\x08' then ['\\', 'b']
  else if c = '\x0c' then ['\\', 'f']
  else if c = '\n' then ['\\', 'n']
  else if c = '\r' then ['\\', 'r']
  else if c = '\t' then ['\\', 't']
  else if c.toNat < 0x10 then ['\\', 'u', '0', '0', '0'] ++ Text.hexDigits c.toNat
  else if c.toNat < 0x20 then ['\\', 'u', '0', '0'] ++ Text.hexDigits c.toNat
  else [c]

def stringChars (s : String) : List Char := '"' :: s.toList.flatMap escapedChar ++ ['"']

mutual

/-- The value without blanks. -/
def compactChars : Json → List Char
  | .null => ['n', 'u', 'l', 'l']
  | .bool true => ['t', 'r', 'u', 'e']
  | .bool false => ['f', 'a', 'l', 's', 'e']
  | .number n => n.text.toList
  | .string s => stringChars s
  | .array items => '[' :: compactItems items ++ [']']
  | .object members => '\x7b' :: compactMembers members ++ ['\x7d']

def compactItems : List Json → List Char
  | [] => []
  | [v] => compactChars v
  | v :: vs => compactChars v ++ ',' :: compactItems vs

def compactMembers : List (String × Json) → List Char
  | [] => []
  | [(k, v)] => stringChars k ++ ':' :: compactChars v
  | (k, v) :: ms => stringChars k ++ ':' :: compactChars v ++ ',' :: compactMembers ms

end

def compact (v : Json) : String := String.ofList v.compactChars

def newLine (depth : Nat) : List Char := '\n' :: List.replicate (2 * depth) ' '

mutual

/-- The value over several lines, inside `depth` containers. -/
def indentedChars (depth : Nat) : Json → List Char
  | .array (v :: vs) => '[' :: indentedItems (depth + 1) (v :: vs) ++ newLine depth ++ [']']
  | .object (m :: ms) =>
    '\x7b' :: indentedMembers (depth + 1) (m :: ms) ++ newLine depth ++ ['\x7d']
  | .array [] => ['[', ']']
  | .object [] => ['\x7b', '\x7d']
  | .null => ['n', 'u', 'l', 'l']
  | .bool true => ['t', 'r', 'u', 'e']
  | .bool false => ['f', 'a', 'l', 's', 'e']
  | .number n => n.text.toList
  | .string s => stringChars s

def indentedItems (depth : Nat) : List Json → List Char
  | [] => []
  | [v] => newLine depth ++ indentedChars depth v
  | v :: vs => newLine depth ++ indentedChars depth v ++ ',' :: indentedItems depth vs

def indentedMembers (depth : Nat) : List (String × Json) → List Char
  | [] => []
  | [(k, v)] => newLine depth ++ stringChars k ++ [':', ' '] ++ indentedChars depth v
  | (k, v) :: ms =>
    newLine depth ++ stringChars k ++ [':', ' '] ++ indentedChars depth v ++
      ',' :: indentedMembers depth ms

end

def indented (v : Json) : String := String.ofList (v.indentedChars 0)

end Json

end ToastRelay
