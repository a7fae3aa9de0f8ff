import ToastRelay.Json.StringReader
import ToastRelay.Json.NumberReader

/-!
# Reading JSON values

Containers may stand inside one another to a fixed depth. Of members with the same name the last
one counts, and the members come out in ascending order of their names. What a container of another
shape needs is here too: the steps from one item or member to the next, and how a value of the
wrong kind is reported.
-/

namespace ToastRelay.Reader
set_option autoImplicit false

variable {α σ : Type}

def word : List Char → Reader Unit
  | [] => pure ()
  | expected :: more => do
    let c ← get
    if c.atEnd then failHere .unfinishedValue
    else if c.next? = some expected then
      step
      word more
    else failNext .wordMissing

def hasItem (first : Bool) : Reader Bool := do
  let next ← nextBehindBlanks .unfinishedList
  if next = some ']' then pure false
  else if first then pure true
  else if next = some ',' then
    step
    if (← nextBehindBlanks .unfinishedValue) = some ']' then failNext .trailingComma
    else pure true
  else failNext .listCommaMissing

/-- The name of the next member, if the object goes on. -/
def memberName (first : Bool) : Reader (Option String) := do
  let next ← nextBehindBlanks .unfinishedObject
  if next = some '\x7d' then pure none
  else
    let next ←
      if first then pure next
      else if next = some ',' then
        step
        nextBehindBlanks .unfinishedValue
      else failNext .objectCommaMissing
    if next = some '"' then
      step
      some <$> stringBody
    else if next = some '\x7d' then failNext .trailingComma
    else failNext .keyNotString

def colon : Reader Unit := do
  if (← nextBehindBlanks .unfinishedObject) = some ':' then step else failNext .colonMissing

def closeList : Reader Unit := do
  let next ← nextBehindBlanks .unfinishedList
  if next = some ']' then step
  else if next = some ',' then
    step
    skipBlanks
    if (← get).next? = some ']' then failNext .trailingComma else failNext .trailingCharacters
  else failNext .trailingCharacters

def closeObject : Reader Unit := do
  let next ← nextBehindBlanks .unfinishedObject
  if next = some '\x7d' then step
  else if next = some ',' then failNext .trailingComma
  else failNext .trailingCharacters

def items (item : σ → Reader σ) : Nat → Bool → σ → Reader σ
  | 0, _, s => pure s
  | steps + 1, first, s => do
    if ← hasItem first then
      let s ← item s
      items item steps false s
    else pure s

/-- Reads the members of an object one after another, at most `steps` of them. The name is read
already when a member is read, and what follows it is not. -/
def members (member : String → σ → Reader σ) : Nat → Bool → σ → Reader σ
  | 0, _, s => pure s
  | steps + 1, first, s => do
    match ← memberName first with
    | none => pure s
    | some name =>
      let s ← member name s
      members member steps false s

def list (steps : Nat) (item : σ → Reader σ) (s : σ) : Reader σ := do
  step
  enclosed (items item steps true s) closeList

def object (steps : Nat) (member : String → σ → Reader σ) (s : σ) : Reader σ := do
  step
  enclosed (members member steps true s) closeObject

/-- Reads a value inside containers of which `depth` more may be opened. No container has more than
`steps` items. -/
def value (steps : Nat) : Nat → Reader Json
  | 0 => failNext .tooDeep
  | depth + 1 => do
    let next ← nextBehindBlanks .unfinishedValue
    match next with
    | some 'n' => step; word ['u', 'l', 'l']; pure .null
    | some 't' => step; word ['r', 'u', 'e']; pure (.bool true)
    | some 'f' => step; word ['a', 'l', 's', 'e']; pure (.bool false)
    | some '-' => step; .number <$> number true
    | some '"' => step; .string <$> stringBody
    | some '[' =>
      if depth = 0 then failNext .tooDeep
      else
        let found ← list steps (fun found => do return (← value steps depth) :: found) []
        pure (.array found.reverse)
    | some '\x7b' =>
      if depth = 0 then failNext .tooDeep
      else
        let found ← object steps (fun name found => do
          colon
          return insertEntry name (← value steps depth) found) []
        pure (.object found)
    | _ =>
      if next.any Char.isDigit then .number <$> number false else failNext .valueMissing

/-- How many containers may be opened inside one another, and the text around them counts as one. -/
def depthLimit : Nat := 128

def finish : Reader Unit := do
  skipBlanks
  unless (← get).atEnd do failNext .trailingCharacters

/-- Reads a value and nothing else. The reader is told how many pieces the text has, which no list
in it exceeds. -/
def whole (r : Nat → Reader α) (text : List Text.Piece) : Except ReadError α :=
  match (do let a ← r text.length; finish; pure a) (Cursor.ofPieces text) with
  | .ok a _ => .ok a
  | .error e _ => .error e

end ToastRelay.Reader

namespace ToastRelay

def JsonNumber.found : JsonNumber → Found
  | .natural n => .integer n.toNat
  | .negative size => .integer (-size)
  | .float x => .float x

namespace Json

def found : Json → Found
  | .null => .null
  | .bool b => .bool b
  | .number n => n.found
  | .string s => .string s
  | .array _ => .sequence
  | .object _ => .map

def ofBytes (bytes : Bytes) : Except ReadError Json :=
  Reader.whole (Reader.value · Reader.depthLimit) (Text.pieces bytes)

end Json

end ToastRelay
