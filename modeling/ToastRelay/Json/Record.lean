import ToastRelay.Json.Skip

/-!
# Reading records

A record is written as an object with named members in any order, or as a list of its fields in
their order. Members with other names are passed over, a name must not occur twice, and a field that
may be missing may also be left off the end of a list. Fields are collected in a draft, from which
the record is made once all of them are read.
-/

namespace ToastRelay
set_option autoImplicit false

namespace Reader

variable {α : Type}

/-- Reports the value that comes next as one of the wrong kind. -/
def wrongKind (expected : String) : Reader α := do
  let next := (← get).next?
  let report := fun found => failHere (.invalidType found expected)
  match next with
  | some 'n' => step; word ['u', 'l', 'l']; report .null
  | some 't' => step; word ['r', 'u', 'e']; report (.bool true)
  | some 'f' => step; word ['a', 'l', 's', 'e']; report (.bool false)
  | some '-' => step; report (← number true).found
  | some '"' => step; report (.string (← stringBody))
  | some '[' => report .sequence
  | some '\x7b' => report .map
  | _ => if next.any Char.isDigit then report (← number false).found else failNext .valueMissing

def string : Reader String := do
  if (← nextBehindBlanks .unfinishedValue) = some '"' then
    step
    stringBody
  else wrongKind "a string"

def natural : Reader UInt64 := do
  let next ← nextBehindBlanks .unfinishedValue
  let wanted := fun (n : JsonNumber) =>
    match n with
    | .natural n => (pure n : Reader UInt64)
    | .negative size => failHere (.invalidValue (.integer (-size)) "u64")
    | .float x => failHere (.invalidType (.float x) "u64")
  if next = some '-' then
    step
    wanted (← number true)
  else if next.any Char.isDigit then wanted (← number false)
  else wrongKind "u64"

def optional (r : Reader α) : Reader (Option α) := do
  skipBlanks
  if (← get).next? = some 'n' then
    step
    word ['u', 'l', 'l']
    pure none
  else some <$> r

end Reader

/-- A field of a record that is collected in a draft. -/
structure Field (σ : Type) where
  name : String
  given : σ → Bool
  /-- Whether a list may end before the field. -/
  mayBeMissing : Bool
  read : σ → Reader σ

/-- A kind of record: its fields, the draft without any, and how a record is made of a draft. -/
structure Record (σ α : Type) where
  name : String
  fields : List (Field σ)
  blank : σ
  make : σ → Except Fault α

namespace Record

variable {σ α : Type}

def member (record : Record σ α) (steps : Nat) (name : String) (draft : σ) : Reader σ := do
  match record.fields.find? (·.name = name) with
  | none => Reader.colon; Reader.skipValue steps; pure draft
  | some field =>
    if field.given draft then Reader.fail (.duplicateField name)
    else
      Reader.colon
      field.read draft

def finish (record : Record σ α) (draft : σ) : Reader α :=
  match record.make draft with
  | .ok a => pure a
  | .error f => Reader.fail f

/-- Reads the fields from the one with this number on from a list. -/
def inOrder (record : Record σ α) : List (Field σ) → Nat → σ → Reader σ
  | [], _, draft => pure draft
  | field :: more, n, draft => do
    if ← Reader.hasItem (n = 0) then
      let draft ← field.read draft
      inOrder record more (n + 1) draft
    else if field.mayBeMissing then inOrder record more (n + 1) draft
    else
      Reader.fail (.invalidLength n ("struct " ++ record.name ++ " with " ++
        toString record.fields.length ++ " elements"))

def read (record : Record σ α) (steps : Nat) : Reader α := do
  let next ← Reader.nextBehindBlanks .unfinishedValue
  if next = some '[' then
    Reader.step
    Reader.enclosed (do record.finish (← record.inOrder record.fields 0 record.blank))
      Reader.closeList
  else if next = some '\x7b' then
    Reader.step
    Reader.enclosed (do record.finish (← Reader.members (record.member steps) steps true record.blank))
      Reader.closeObject
  else Reader.wrongKind ("struct " ++ record.name)

end Record

end ToastRelay
