import ToastRelay.Text.Normal.Order
import ToastRelay.Text.Normal.Decomposition
import ToastRelay.Text.Normal.Composition

/-!
# Canonical composition

A text is normalised by taking every character apart, sorting the marks behind each base character
by their class, and then putting together what has a composed form. A mark composes with its base
only if no mark between the two has the same class or a higher one.
-/

namespace ToastRelay.Text
set_option autoImplicit false

def isHangulSyllable (c : Char) : Bool := 0xAC00 ≤ c.toNat && c.toNat ≤ 0xD7A3

def hangulLetters (c : Char) : List Char :=
  let s := c.toNat - 0xAC00
  let trailing := s % 28
  [Char.ofNat (0x1100 + s / 588), Char.ofNat (0x1161 + s % 588 / 28)] ++
    if trailing = 0 then [] else [Char.ofNat (0x11A7 + trailing)]

/-- The Hangul syllable that two letters, or a syllable and a letter, make. -/
def hangulSyllable (a b : Char) : Option Char :=
  let l := a.toNat
  let v := b.toNat
  if 0x1100 ≤ l && l ≤ 0x1112 && 0x1161 ≤ v && v ≤ 0x1175 then
    some (Char.ofNat (0xAC00 + (l - 0x1100) * 588 + (v - 0x1161) * 28))
  else if isHangulSyllable a && (l - 0xAC00) % 28 = 0 && 0x11A8 ≤ v && v ≤ 0x11C2 then
    some (Char.ofNat (l + (v - 0x11A7)))
  else none

def decomposition (c : Char) : List Char :=
  if c.toNat < 0xC0 then [c]
  else if isHangulSyllable c then hangulLetters c
  else listedDecomposition c

def compose? (a b : Char) : Option Char :=
  match hangulSyllable a b with
  | some c => some c
  | none => listedComposition a b

/-- Puts a character behind others: a mark goes in front of the marks of a higher class that stand
at the end. The text is held last character first. -/
def insertMark (c : Char) (order : Nat) : List Char → List Char
  | [] => [c]
  | d :: rest =>
    if order ≠ 0 && order < combiningClass d then d :: insertMark c order rest else c :: d :: rest

def decompose (s : List Char) : List Char :=
  ((s.flatMap decomposition).foldl (fun done c => insertMark c (combiningClass c) done) []).reverse

/-- A text in the course of composition: what is finished, last character first, the base character
that marks may still join, the marks that did not join it, last first, and the class of the last. -/
structure Composing where
  done : List Char
  base : Option Char
  marks : List Char
  lastClass : Nat

namespace Composing

def start : Composing := ⟨[], none, [], 0⟩

def collected (t : Composing) : List Char :=
  t.marks ++ t.base.toList ++ t.done

def push (t : Composing) (c : Char) : Composing :=
  let order := combiningClass c
  match t.base with
  | none => if order = 0 then ⟨t.done, some c, [], 0⟩ else ⟨c :: t.done, none, [], 0⟩
  | some b =>
    let free := t.marks.isEmpty || (t.lastClass ≠ 0 && t.lastClass < order)
    match (if free then compose? b c else none) with
    | some d => ⟨t.done, some d, t.marks, t.lastClass⟩
    | none =>
      if order = 0 then ⟨t.collected, some c, [], 0⟩
      else ⟨t.done, some b, c :: t.marks, order⟩

end Composing

def compose (s : List Char) : List Char :=
  ((decompose s).foldl Composing.push Composing.start).collected.reverse

end ToastRelay.Text
