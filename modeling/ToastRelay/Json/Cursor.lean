import ToastRelay.Text.Utf8
import ToastRelay.Json.Fault

/-!
# A place in a JSON text

A cursor is a position and the pieces of the text that follow it. A reader takes pieces off the
front and either gives a value or fails; in both cases it leaves a cursor, since a failure that has
no position of its own takes the one at which the reader around it stops. A fault is placed where
the cursor stands or, if the piece that follows is to blame, one byte further on.
-/

namespace ToastRelay
set_option autoImplicit false

open Text

/-- The position behind one more byte, or behind a line end. -/
def Position.afterByte (p : Position) (c : Piece) : Position :=
  if c = .char '\n' then ⟨p.line + 1, 0⟩ else ⟨p.line, p.column + 1⟩

def Position.after (p : Position) (c : Piece) : Position :=
  if c = .char '\n' then ⟨p.line + 1, 0⟩ else ⟨p.line, p.column + c.size⟩

structure Cursor where
  position : Position
  rest : List Piece

namespace Cursor

def ofPieces (ps : List Piece) : Cursor := ⟨⟨1, 0⟩, ps⟩

/-- The position that is blamed on the next piece. -/
def nextPosition (c : Cursor) : Position :=
  match c.rest with
  | [] => c.position
  | p :: _ => c.position.afterByte p

def step (c : Cursor) : Cursor :=
  match c.rest with
  | [] => c
  | p :: r => ⟨c.position.after p, r⟩

def next? (c : Cursor) : Option Char :=
  match c.rest with
  | .char a :: _ => some a
  | _ => none

def atEnd (c : Cursor) : Bool := c.rest.isEmpty

/-- The pieces behind those that a test accepts, and where they begin. -/
def dropWhileFrom (accepts : Char → Bool) (position : Position) : List Piece → Cursor
  | .char a :: r =>
    if accepts a then dropWhileFrom accepts (position.after (.char a)) r
    else ⟨position, .char a :: r⟩
  | r => ⟨position, r⟩

def dropWhile (c : Cursor) (accepts : Char → Bool) : Cursor :=
  dropWhileFrom accepts c.position c.rest

def isBlank (c : Char) : Bool := c = ' ' || c = '\n' || c = '\t' || c = '\r'

end Cursor

abbrev Reader := EStateM ReadError Cursor

namespace Reader

variable {α : Type}

def failHere (f : Fault) : Reader α := fun c => .error ⟨f, some c.position⟩ c

def failNext (f : Fault) : Reader α := fun c => .error ⟨f, some c.nextPosition⟩ c

def fail (f : Fault) : Reader α := fun c => .error ⟨f, none⟩ c

def step : Reader Unit := fun c => .ok () c.step

def skipBlanks : Reader Unit := fun c => .ok () (c.dropWhile Cursor.isBlank)

/-- The next character behind blanks. At the end of the text the fault is the one given. -/
def nextBehindBlanks (atEnd : Fault) : Reader (Option Char) := do
  skipBlanks
  let c ← get
  if c.atEnd then failNext atEnd else pure c.next?

/-- Reads what stands inside brackets and then the closing bracket. A failure inside that has no
position takes the one that is reached by reading on to the bracket. -/
def enclosed (inside : Reader α) (close : Reader Unit) : Reader α := fun c =>
  match inside c with
  | .ok a c => match close c with
    | .ok () c => .ok a c
    | .error e c => .error e c
  | .error e c =>
    match e.position with
    | some _ => .error e c
    | none => match close c with
      | .ok () c => .error ⟨e.fault, some c.position⟩ c
      | .error _ c => .error ⟨e.fault, some c.position⟩ c

end Reader

end ToastRelay
