import ToastRelay.Json.Reader

/-!
# Passing over JSON values

A value of no interest is passed over without being built, at any depth. It must be well formed,
but the faults inside it are told apart less finely than those of a value that is read: a comma
before a closing bracket is reported as the item or member that is missing behind it.
-/

namespace ToastRelay.Reader
set_option autoImplicit false

/-- A container that is open while a value is passed over. -/
inductive Bracket where
  | list
  | object
  deriving DecidableEq

def skipDigits : Reader Unit := do
  let _ ← countDigits

def skipExponent : Reader Unit := do
  step
  let sign := (← get).next?
  if sign = some '+' || sign = some '-' then step
  let c ← get
  if c.next?.any Char.isDigit then skipDigits
  else if c.atEnd then failHere .invalidNumber
  else failNext .invalidNumber

def skipExponentOrEnd : Reader Unit := do
  if Cursor.isExponentMark (← get).next? then skipExponent

def skipFraction : Reader Unit := do
  step
  if (← countDigits) = 0 then failNext .invalidNumber else skipExponentOrEnd

/-- Passes over a number behind its sign. -/
def skipNumber : Reader Unit := do
  let c ← get
  if c.next? = some '0' then
    step
    if (← get).next?.any Char.isDigit then failNext .invalidNumber
  else if c.next?.any Char.isDigit then skipDigits
  else failNext .invalidNumber
  if (← get).next? = some '.' then skipFraction else skipExponentOrEnd

inductive Pending where
  | value
  | itemOrEnd (afterItem : Bool)

def skipName : Bracket → Reader Unit
  | .list => pure ()
  | .object => do
    let next ← nextBehindBlanks .unfinishedObject
    if next = some '"' then
      step
      skipStringBody
      colon
    else failNext .keyNotString

def unfinished : Bracket → Fault
  | .list => .unfinishedList
  | .object => .unfinishedObject

def commaMissing : Bracket → Fault
  | .list => .listCommaMissing
  | .object => .objectCommaMissing

def closing : Bracket → Char
  | .list => ']'
  | .object => '\x7d'

/-- Passes over what is pending inside the open brackets, the innermost first, in at most so many
steps. -/
def skipPending : Nat → List Bracket → Pending → Reader Unit
  | 0, _, _ => pure ()
  | steps + 1, opened, .value => do
    let next ← nextBehindBlanks .unfinishedValue
    match next with
    | some '[' => step; skipPending steps (.list :: opened) (.itemOrEnd false)
    | some '\x7b' => step; skipPending steps (.object :: opened) (.itemOrEnd false)
    | _ =>
      match next with
      | some 'n' => step; word ['u', 'l', 'l']
      | some 't' => step; word ['r', 'u', 'e']
      | some 'f' => step; word ['a', 'l', 's', 'e']
      | some '-' => step; skipNumber
      | some '"' => step; skipStringBody
      | _ => if next.any Char.isDigit then skipNumber else failNext .valueMissing
      skipPending steps opened (.itemOrEnd true)
  | _ + 1, [], .itemOrEnd _ => pure ()
  | steps + 1, bracket :: opened, .itemOrEnd afterItem => do
    let next ← nextBehindBlanks (unfinished bracket)
    if next = some (closing bracket) then
      step
      skipPending steps opened (.itemOrEnd true)
    else if afterItem then
      if next = some ',' then
        step
        skipName bracket
        skipPending steps (bracket :: opened) .value
      else failNext (commaMissing bracket)
    else
      skipName bracket
      skipPending steps (bracket :: opened) .value

def skipValue (steps : Nat) : Reader Unit := skipPending (2 * steps + 2) [] .value

end ToastRelay.Reader
