import Mathlib.Data.List.Basic
import ToastRelay.Json.Printer
import ToastRelay.Proofs.Json.Takes

/-!
# A written string is read back

Every character of a string is written either as itself or as one escape, and the reader gets from
what is written for it the character alone.
-/

namespace ToastRelay
set_option autoImplicit false

open Text

namespace Cursor

theorem stringFrom_skip (s t : List Char) (found : List Char) (p : Position) :
    ∃ q, stringFrom s.length found true p ((s ++ t).map .char) =
      stringFrom 0 found true q (t.map .char) := by
  induction s generalizing p with
  | nil => exact ⟨p, rfl⟩
  | cons c s ih =>
    obtain ⟨q, hq⟩ := ih (p.after (.char c))
    refine ⟨q, ?_⟩
    rw [← hq]
    simp [stringFrom]

theorem stringFrom_escape {c : Char} {s : List Char}
    (h : ∀ t q, escape q ((s ++ t).map .char) = .ok (c, s.length)) (t found : List Char)
    (p : Position) :
    ∃ q, stringFrom 0 found true p (('\\' :: s ++ t).map .char) =
      stringFrom 0 (c :: found) true q (t.map .char) := by
  obtain ⟨q, hq⟩ := stringFrom_skip s t (c :: found) (p.after (.char '\\'))
  refine ⟨q, ?_⟩
  rw [← hq]
  simp only [stringFrom, List.cons_append, List.map_cons, h]
  simp

theorem escape_letter {c d : Char} (h : plainEscape d = some c) (t : List Char) (q : Position) :
    escape q (([d] ++ t).map .char) = .ok (c, 1) := by
  have hd : d ≠ 'u' := by
    rintro rfl
    cases h
  simp [escape, h]

def controlDigits (n : Nat) : List Char := if n < 0x10 then '0' :: hexDigits n else hexDigits n

theorem controlDigits_spec : ∀ n : Fin 0x20, (controlDigits n).length = 2 ∧
    (controlDigits n).all isHexDigit ∧ numberOf 16 ('0' :: '0' :: controlDigits n) = n := by
  decide

theorem escape_number {c : Char} (hc : c.toNat < 0x20) (t : List Char) (q : Position) :
    escape q (('u' :: '0' :: '0' :: controlDigits c.toNat ++ t).map .char) =
      .ok (c, ('u' :: '0' :: '0' :: controlDigits c.toNat).length) := by
  obtain ⟨hlength, hdigits, hnumber⟩ := controlDigits_spec ⟨c.toNat, hc⟩
  obtain ⟨a, b, hab⟩ := List.length_eq_two.mp hlength
  dsimp only at hab hdigits hnumber
  rw [hab] at hdigits hnumber ⊢
  have hfour : ∀ q, fourDigits q (('0' :: '0' :: a :: b :: t).map .char) = .ok c.toNat := by
    intro q
    obtain ⟨ha, hb⟩ : isHexDigit a = true ∧ isHexDigit b = true := by simpa using hdigits
    have hzero : isHexDigit '0' = true := rfl
    simp [fourDigits, ha, hb, hzero, hnumber]
  have hhigh : ¬ 0xDC00 ≤ c.toNat := by omega
  have hlow : c.toNat < 0xD800 := by omega
  simp only [escape, numberEscape, List.cons_append, List.nil_append, List.map_cons] at hfour ⊢
  simp [hfour, bind, Except.bind, pure, Except.pure, hhigh, hlow, Except.map]

end Cursor

namespace Reader

open Cursor

/-- A character is written as a letter behind a backslash, by its number, or as itself. -/
theorem escapedChar_cases (c : Char) :
    (∃ d, Json.escapedChar c = ['\\', d] ∧ plainEscape d = some c) ∨
    (Json.escapedChar c = '\\' :: 'u' :: '0' :: '0' :: controlDigits c.toNat ∧ c.toNat < 0x20) ∨
    (Json.escapedChar c = [c] ∧ c ≠ '"' ∧ c ≠ '\\' ∧ ¬ c.toNat < 0x20) := by
  by_cases hletter : c ∈ ['"', '\\', '\x08', '\x0c', '\n', '\r', '\t']
  · refine Or.inl ?_
    simp only [List.mem_cons, List.not_mem_nil, or_false] at hletter
    rcases hletter with rfl | rfl | rfl | rfl | rfl | rfl | rfl
    all_goals exact ⟨_, rfl, rfl⟩
  · simp only [List.mem_cons, List.not_mem_nil, or_false, not_or] at hletter
    obtain ⟨hquote, hbackslash, hb, hf, hn, hr, ht⟩ := hletter
    refine Or.inr ?_
    simp only [Json.escapedChar, if_neg hquote, if_neg hbackslash, if_neg hb, if_neg hf, if_neg hn,
      if_neg hr, if_neg ht]
    by_cases hc : c.toNat < 0x20
    · refine Or.inl ⟨?_, hc⟩
      by_cases hshort : c.toNat < 0x10
      · simp [controlDigits, hshort]
      · simp [controlDigits, hshort, hc]
    · have hlong : ¬ c.toNat < 0x10 := by omega
      exact Or.inr ⟨by rw [if_neg hlong, if_neg hc], hquote, hbackslash, hc⟩

theorem stringFrom_escapedChar (c : Char) (t found : List Char) (p : Position) :
    ∃ q, stringFrom 0 found true p ((Json.escapedChar c ++ t).map .char) =
      stringFrom 0 (c :: found) true q (t.map .char) := by
  rcases escapedChar_cases c with ⟨d, hd, hplain⟩ | ⟨hnumber, hc⟩ | ⟨hself, hquote, hbackslash, hc⟩
  · rw [hd]
    exact stringFrom_escape (escape_letter hplain) t found p
  · rw [hnumber]
    exact stringFrom_escape (escape_number hc) t found p
  · rw [hself]
    refine ⟨p.after (.char c), ?_⟩
    simp [stringFrom, hquote, hbackslash, hc]

theorem takes_stringBody (s : String) (t : List Char) :
    stringBody.Takes s (s.toList.flatMap Json.escapedChar ++ '"' :: t) t := by
  -- The characters that were found stand in reverse in front of those that are left.
  have hfrom : ∀ (cs found : List Char) (p : Position), ∃ q,
      stringFrom 0 found true p ((cs.flatMap Json.escapedChar ++ '"' :: t).map .char) =
        .ok (String.ofList (found.reverse ++ cs)) ⟨q, t.map .char⟩ := by
    intro cs
    induction cs with
    | nil =>
      intro found p
      exact ⟨p.after (.char '"'), by simp [stringFrom]⟩
    | cons c cs ih =>
      intro found p
      obtain ⟨q, hq⟩ := stringFrom_escapedChar c (cs.flatMap Json.escapedChar ++ '"' :: t) found p
      obtain ⟨q', hq'⟩ := ih (c :: found) q
      refine ⟨q', ?_⟩
      rw [List.flatMap_cons, List.append_assoc, hq, hq', List.reverse_cons, List.append_assoc]
      rfl
  intro p
  obtain ⟨q, hq⟩ := hfrom s.toList [] p
  refine ⟨q, ?_⟩
  rw [List.reverse_nil, List.nil_append, String.ofList_toList] at hq
  exact hq

end Reader

end ToastRelay
