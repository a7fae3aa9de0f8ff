import ToastRelay.Json.Cursor
import ToastRelay.Json.Value

/-!
# Reading JSON numbers

A number without a point and an exponent is an integer as long as it fits into 64 bits; minus zero
and all other numbers are floating point numbers. The digits of such a number count as long as they
make a number below 2^64; later ones before the point only raise the exponent, later ones behind it
are dropped. A number that is too great is a fault.
-/

namespace ToastRelay
set_option autoImplicit false

open Text

/-- The bounds of a natural number, of the size of a negative one, and of a written exponent. -/
def naturalLimit : Nat := 0x10000000000000000

def negativeLimit : Nat := 0x8000000000000000

def exponentLimit : Nat := 0x80000000

namespace Cursor

/-- Digits that were read: their number, how many of them count, and whether more were in the way
that would have made the number too great. -/
structure Digits where
  value : Nat
  count : Nat
  more : Bool
  cursor : Cursor

def digitsFrom (limit value count : Nat) (position : Position) : List Piece → Digits
  | .char c :: r =>
    if c.isDigit then
      let n := 10 * value + digitOf c
      if n < limit then digitsFrom limit n (count + 1) (position.after (.char c)) r
      else ⟨value, count, true, ⟨position, .char c :: r⟩⟩
    else ⟨value, count, false, ⟨position, .char c :: r⟩⟩
  | r => ⟨value, count, false, ⟨position, r⟩⟩

def countDigitsFrom (count : Nat) (position : Position) : List Piece → Nat × Cursor
  | .char c :: r =>
    if c.isDigit then countDigitsFrom (count + 1) (position.after (.char c)) r
    else (count, ⟨position, .char c :: r⟩)
  | r => (count, ⟨position, r⟩)

def isExponentMark (c : Option Char) : Bool := c = some 'e' || c = some 'E'

end Cursor

namespace Reader

def digits (limit value : Nat) : Reader Cursor.Digits := fun c =>
  let d := Cursor.digitsFrom limit value 0 c.position c.rest
  .ok d d.cursor

def countDigits : Reader Nat := fun c =>
  let d := Cursor.countDigitsFrom 0 c.position c.rest
  .ok d.1 d.2

/-- The floating point number `value * 10 ^ exponent`. -/
def floating (negative : Bool) (value : Nat) (exponent : Int) : Reader JsonNumber :=
  match Magnitude.ofDecimal? value exponent with
  | some m => pure (.float ⟨negative, m⟩)
  | none => failHere .numberOutOfRange

def exponent (negative : Bool) (value : Nat) (place : Int) : Reader JsonNumber := do
  step
  let sign := (← get).next?
  if sign = some '+' || sign = some '-' then step
  let c ← get
  if c.atEnd then failHere .unfinishedValue
  else if !(c.next?.any Char.isDigit) then failNext .invalidNumber
  else
    let d ← digits exponentLimit 0
    if d.more then
      step
      if value ≠ 0 && sign ≠ some '-' then failHere .numberOutOfRange
      else
        let _ ← countDigits
        pure (.float ⟨negative, .zero⟩)
    else if sign = some '-' then floating negative value (place - d.value)
    else floating negative value (place + d.value)

def exponentOrEnd (negative : Bool) (value : Nat) (place : Int) : Reader JsonNumber := do
  if Cursor.isExponentMark (← get).next? then exponent negative value place
  else floating negative value place

/-- Reads the digits behind a point, from the point on. `place` powers of ten have been left out
before it. -/
def fraction (negative : Bool) (value place : Nat) : Reader JsonNumber := do
  step
  let d ← digits naturalLimit value
  if d.more then
    let _ ← countDigits
    exponentOrEnd negative d.value (place - d.count)
  else if d.count = 0 then
    if (← get).atEnd then failNext .unfinishedValue else failNext .invalidNumber
  else exponentOrEnd negative d.value (place - d.count)

def integerEnd (negative : Bool) (value : Nat) : Reader JsonNumber := do
  let next := (← get).next?
  if next = some '.' then fraction negative value 0
  else if Cursor.isExponentMark next then exponent negative value 0
  else if !negative then pure (.natural (UInt64.ofNat value))
  else if 0 < value && value ≤ negativeLimit then pure (.negative value)
  else floating true value 0

def number (negative : Bool) : Reader JsonNumber := do
  let c ← get
  if c.atEnd then failHere .unfinishedValue
  else if c.next? = some '0' then
    step
    if (← get).next?.any Char.isDigit then failNext .invalidNumber else integerEnd negative 0
  else if c.next?.any Char.isDigit then
    let d ← digits naturalLimit 0
    if d.more then
      let left ← countDigits
      let next := (← get).next?
      if next = some '.' then fraction negative d.value left
      else exponentOrEnd negative d.value left
    else integerEnd negative d.value
  else failNext .invalidNumber

end Reader

end ToastRelay
