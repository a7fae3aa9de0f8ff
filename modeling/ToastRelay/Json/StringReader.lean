import ToastRelay.Json.Cursor
import ToastRelay.Text.Digits

/-!
# Reading JSON strings

A string ends at the first quotation mark that is not escaped. An escape stands for one character;
a character beyond the first plane is escaped as two numbers, neither of which may stand alone. The
bytes of a string must be valid UTF-8, which is checked once its end is found. A string whose
content is of no interest is passed over with fewer checks: its bytes may be anything, and the
numbers of its escapes need not be characters.
-/

namespace ToastRelay
set_option autoImplicit false

open Text

namespace Cursor

/-- The position behind so many bytes, if the text has them. -/
def positionAfterBytes (position : Position) : Nat → List Piece → Option Position
  | 0, _ => some position
  | _ + 1, [] => none
  | n + 1, p :: r =>
    if p.size ≤ n + 1 then positionAfterBytes (position.after p) (n + 1 - p.size) r
    else some ⟨position.line, position.column + n + 1⟩

def endPosition (position : Position) (ps : List Piece) : Position :=
  ps.foldl Position.after position

def fourDigits (position : Position) (ps : List Piece) : Except ReadError Nat :=
  match ps with
  | .char a :: .char b :: .char c :: .char d :: _ =>
    if isHexDigit a && isHexDigit b && isHexDigit c && isHexDigit d then
      .ok (numberOf 16 [a, b, c, d])
    else badDigits
  | _ => badDigits
where
  badDigits : Except ReadError Nat :=
    match positionAfterBytes position 4 ps with
    | some p => .error ⟨.invalidEscape, some p⟩
    | none => .error ⟨.unfinishedString, some (endPosition position ps)⟩

def plainEscape (c : Char) : Option Char :=
  if c = '"' then some '"'
  else if c = '\\' then some '\\'
  else if c = '/' then some '/'
  else if c = 'b' then some '\x08'
  else if c = 'f' then some '\x0c'
  else if c = 'n' then some '\n'
  else if c = 'r' then some '\r'
  else if c = 't' then some '\t'
  else none

def ahead (position : Position) (n : Nat) : Position := ⟨position.line, position.column + n⟩

/-- The position behind one more byte of the text, or here at its end. -/
def byteAhead (position : Position) : List Piece → Position
  | [] => position
  | p :: _ => position.afterByte p

/-- The character that the numbers behind `\u` give, and how many pieces they take. -/
def numberEscape (position : Position) (ps : List Piece) : Except ReadError (Char × Nat) := do
  let high ← fourDigits position ps
  if 0xDC00 ≤ high && high ≤ 0xDFFF then throw ⟨.loneSurrogate, some (ahead position 4)⟩
  if high < 0xD800 || 0xDBFF < high then return (Char.ofNat high, 4)
  match ps.drop 4 with
  | .char '\\' :: .char 'u' :: rest =>
    let low ← fourDigits (ahead position 6) rest
    if low < 0xDC00 || 0xDFFF < low then throw ⟨.loneSurrogate, some (ahead position 10)⟩
    return (Char.ofNat ((high - 0xD800) * 1024 + (low - 0xDC00) + 0x10000), 10)
  | [] => throw ⟨.unfinishedString, some (ahead position 4)⟩
  | [.char '\\'] => throw ⟨.unfinishedString, some (ahead position 5)⟩
  | .char '\\' :: rest => throw ⟨.unfinishedSurrogate, some (byteAhead (ahead position 5) rest)⟩
  | rest => throw ⟨.unfinishedSurrogate, some (byteAhead (ahead position 4) rest)⟩

/-- The character that the pieces behind a backslash give, and how many of them it takes. -/
def escape (position : Position) (ps : List Piece) : Except ReadError (Char × Nat) :=
  match ps with
  | [] => .error ⟨.unfinishedString, some position⟩
  | .char 'u' :: r => (numberEscape (position.after (.char 'u')) r).map fun (a, n) => (a, n + 1)
  | .char c :: _ =>
    match plainEscape c with
    | some a => .ok (a, 1)
    | none => .error ⟨.invalidEscape, some (byteAhead position ps)⟩
  | _ => .error ⟨.invalidEscape, some (byteAhead position ps)⟩

/-- How many pieces the escape takes that is passed over unread. -/
def escapeLength (position : Position) (ps : List Piece) : Except ReadError Nat :=
  match ps with
  | .char 'u' :: r => (fourDigits (position.after (.char 'u')) r).map fun _ => 5
  | _ => (escape position ps).map (·.2)

/-- Reads a string up to its end. `skip` pieces of an escape are still to be passed over; the
characters so far are held last first; `sound` says that all of them were characters. -/
def stringFrom (skip : Nat) (found : List Char) (sound : Bool) (position : Position) :
    List Piece → EStateM.Result ReadError Cursor String
  | [] => .error ⟨.unfinishedString, some position⟩ ⟨position, []⟩
  | p :: r =>
    if 0 < skip then stringFrom (skip - 1) found sound (position.after p) r
    else match p with
      | .broken _ => stringFrom 0 found false (position.after p) r
      | .char c =>
        if c = '"' then
          if sound then .ok (String.ofList found.reverse) ⟨position.after p, r⟩
          else .error ⟨.invalidCodePoint, some position⟩ ⟨position, p :: r⟩
        else if c = '\\' then
          match escape (position.after p) r with
          | .ok (a, n) => stringFrom n (a :: found) sound (position.after p) r
          | .error e => .error e ⟨position, p :: r⟩
        else if c.toNat < 0x20 then
          .error ⟨.controlCharacter, some (position.afterByte p)⟩ ⟨position, p :: r⟩
        else stringFrom 0 (c :: found) sound (position.after p) r

def skipStringFrom (skip : Nat) (position : Position) :
    List Piece → EStateM.Result ReadError Cursor Unit
  | [] => .error ⟨.unfinishedString, some position⟩ ⟨position, []⟩
  | p :: r =>
    if 0 < skip then skipStringFrom (skip - 1) (position.after p) r
    else match p with
      | .broken _ => skipStringFrom 0 (position.after p) r
      | .char c =>
        if c = '"' then .ok () ⟨position.after p, r⟩
        else if c = '\\' then
          match escapeLength (position.after p) r with
          | .ok n => skipStringFrom n (position.after p) r
          | .error e => .error e ⟨position, p :: r⟩
        else if c.toNat < 0x20 then
          .error ⟨.controlCharacter, some position⟩ ⟨position, p :: r⟩
        else skipStringFrom 0 (position.after p) r

end Cursor

namespace Reader

def stringBody : Reader String := fun c => Cursor.stringFrom 0 [] true c.position c.rest

def skipStringBody : Reader Unit := fun c => Cursor.skipStringFrom 0 c.position c.rest

end Reader

end ToastRelay
