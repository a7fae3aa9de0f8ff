/-!
# Labels written in ASCII

A label with other characters is written as its ASCII characters, a hyphen, and a sequence of
numbers that say which character goes where. Each number is written in digits of growing weight,
and the bounds of the digits adapt to the sizes seen so far. Only reading is needed here. Numbers
that leave 32 bits, characters that do not exist and a sequence that breaks off are refused.
-/

namespace ToastRelay.Web.Idna
set_option autoImplicit false

def digitValue (c : Char) : Option Nat :=
  if c.isLower then some (c.toNat - 'a'.toNat)
  else if c.isUpper then some (c.toNat - 'A'.toNat)
  else if c.isDigit then some (c.toNat - '0'.toNat + 26)
  else none

/-- The least value of a digit that is not the last one of its number. -/
def threshold (place bias : Nat) : Nat :=
  if place ≤ bias then 1 else if bias + 26 ≤ place then 26 else place - bias

/-- Divides a distance by 35 until it is small, counting 36 for each division. -/
def damp (distance count : Nat) : Nat × Nat :=
  if 455 < distance then damp (distance / 35) (count + 36) else (distance, count)
termination_by distance
decreasing_by omega

/-- The bias for the next number, from the distance just read and the length of the label. -/
def adapt (distance length : Nat) (first : Bool) : Nat :=
  let d := if first then distance / 700 else distance / 2
  let r := damp (d + d / length) 0
  r.2 + 36 * r.1 / (r.1 + 38)

/-- The bound that the running position and the weights stay below. -/
def numberLimit : Nat := 4294967296

/-- Reads one number and adds it to the position; gives the rest of the text. -/
def readNumber (bias : Nat) : List Char → Nat → Nat → Nat → Option (Nat × List Char)
  | [], _, _, _ => none
  | c :: rest, place, weight, position =>
    match digitValue c with
    | none => none
    | some d =>
      let position := position + d * weight
      let t := threshold place bias
      if numberLimit ≤ position then none
      else if d < t then some (position, rest)
      else if numberLimit ≤ weight * (36 - t) then none
      else readNumber bias rest (place + 36) (weight * (36 - t)) position

theorem readNumber_length {bias : Nat} {s : List Char} {place weight position : Nat}
    {r : Nat × List Char} (h : readNumber bias s place weight position = some r) :
    r.2.length < s.length := by
  induction s generalizing place weight position with
  | nil => simp [readNumber] at h
  | cons c s ih =>
    simp only [readNumber] at h
    split at h
    · simp at h
    · split at h
      · simp at h
      · split at h
        · obtain rfl := Option.some.inj h
          simp
        · split at h
          · simp at h
          · have := ih h
            simp only [List.length_cons]
            omega

def insertAt (c : Char) : Nat → List Char → List Char
  | 0, s => c :: s
  | _ + 1, [] => [c]
  | n + 1, d :: s => d :: insertAt c n s

def insertAll (s label : List Char) (position code bias : Nat) : Option (List Char) :=
  if s.isEmpty then some label
  else match _h : readNumber bias s 36 1 position with
    | none => none
    | some (reached, rest) =>
      let length := label.length + 1
      let code := code + reached / length
      let slot := reached % length
      if code < 0xD800 || (0xDFFF < code && code ≤ 0x10FFFF) then
        insertAll rest (insertAt (Char.ofNat code) slot label) (slot + 1) code
          (adapt (reached - position) length (position = 0))
      else none
termination_by s.length
decreasing_by
  have := readNumber_length _h
  simpa using this

/-- The label that a text in ASCII stands for: what is before the last hyphen stands for itself. -/
def decodeLabel (s : List Char) : Option (List Char) :=
  let tail := (s.reverse.takeWhile (· ≠ '-')).reverse
  let head := s.take (s.length - tail.length - 1)
  if head.isEmpty then insertAll s [] 0 128 72 else insertAll tail head 0 128 72

end ToastRelay.Web.Idna
