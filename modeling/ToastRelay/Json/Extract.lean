import ToastRelay.Json.Reader

/-!
# Taking records from values

A record is taken from an object, whose members are visited in the order in which the value holds
them and may be more than the fields, or from an array of exactly the fields in their order. The
first member or item that does not fit decides the fault.
-/

namespace ToastRelay
set_option autoImplicit false

namespace Json

def takeString : Json → Except Fault String
  | .string s => .ok s
  | v => .error (.invalidType v.found "a string")

def takeOptional {α : Type} (take : Json → Except Fault α) : Json → Except Fault (Option α)
  | .null => .ok none
  | v => (take v).map some

end Json

structure ExtractField (σ : Type) where
  name : String
  take : Json → σ → Except Fault σ

/-- A kind of record: its fields, and the draft without any. -/
structure Extract (σ : Type) where
  name : String
  fields : List (ExtractField σ)
  blank : σ

namespace Extract

variable {σ : Type}

/-- Collects the fields from the one with this number on from items. -/
def inOrder (e : Extract σ) : List (ExtractField σ) → Nat → List Json → σ → Except Fault σ
  | [], n, items, draft =>
    if items.isEmpty then .ok draft
    else .error (.invalidLength (n + items.length) "fewer elements in array")
  | _ :: _, n, [], _ =>
    .error (.invalidLength n ("struct " ++ e.name ++ " with " ++ toString e.fields.length ++
      " elements"))
  | field :: more, n, item :: items, draft =>
    match field.take item draft with
    | .error f => .error f
    | .ok draft => inOrder e more (n + 1) items draft

def byName (e : Extract σ) : List (String × Json) → σ → Except Fault σ
  | [], draft => .ok draft
  | (name, value) :: members, draft =>
    match e.fields.find? (·.name = name) with
    | none => byName e members draft
    | some field =>
      match field.take value draft with
      | .error f => .error f
      | .ok draft => byName e members draft

def ofValue (e : Extract σ) : Json → Except Fault σ
  | .array items => e.inOrder e.fields 0 items e.blank
  | .object members => e.byName members e.blank
  | v => .error (.invalidType v.found ("struct " ++ e.name))

end Extract

end ToastRelay
