import ToastRelay.Text.Fields
import ToastRelay.Text.Digits

/-!
# Tables of code points

A property of characters is given as ranges of code points in ascending order, each with a value.
Tables are written as text: `lo-hi=value` or `lo=value`, in hexadecimal, with blanks or line ends
between the entries. A table module holds such a text and nothing else; the look-ups are here.
-/

namespace ToastRelay.Text
set_option autoImplicit false

structure Range (α : Type) where
  first : Nat
  last : Nat
  value : α

namespace Range

/-- The value that the range holding `c` has, by halving the table between `low` and `high`. -/
def search {α : Type} (table : Array (Range α)) (c low high : Nat) : Option (Range α) :=
  if low < high then
    let middle := (low + high) / 2
    match table[middle]? with
    | none => none
    | some r =>
      if c < r.first then search table c low middle
      else if r.last < c then search table c (middle + 1) high
      else some r
  else none
termination_by high - low

def find? {α : Type} (table : Array (Range α)) (c : Nat) : Option (Range α) :=
  search table c 0 table.size

def covers {α : Type} (table : Array (Range α)) (c : Char) : Bool :=
  (find? table c.toNat).isSome

/-- Reads the bounds of one entry, `lo-hi` or `lo`. -/
def bounds (s : List Char) : Nat × Nat :=
  match cut '-' s with
  | (lo, none) => (numberOf 16 lo, numberOf 16 lo)
  | (lo, some hi) => (numberOf 16 lo, numberOf 16 hi)

def entriesOf (text : String) : List (List Char) :=
  (fields ' ' (text.toList.map fun c => if c = '\n' then ' ' else c)).filter (· ≠ [])

def readTable {α : Type} (value : List Char → α) (text : String) : Array (Range α) :=
  (entriesOf text).toArray.map fun entry =>
    match cut '=' entry with
    | (range, v) => ⟨(bounds range).1, (bounds range).2, value (v.getD [])⟩

def readSet (text : String) : Array (Range Unit) :=
  readTable (fun _ => ()) text

end Range

end ToastRelay.Text
