import ToastRelay.Json.Printer
import ToastRelay.Proofs.Json.Takes

/-!
# A written natural number is read back

A natural number is written in decimal digits without a zero in front. The reader takes them as long
as they make a number below 2^64, so it takes all of them, unless a digit follows.
-/

namespace ToastRelay
set_option autoImplicit false

open Text

theorem toList_text_natural (n : UInt64) :
    (JsonNumber.natural n).text.toList = Nat.toDigits 10 n.toNat := by
  change (toString n.toNat).toList = _
  rw [Nat.toString_eq_ofList_toDigits, String.toList_ofList]

theorem toDigits_ten_cons (n : Nat) :
    ∃ c s, Nat.toDigits 10 n = c :: s ∧ c.isDigit = true ∧ (c = '0' → n = 0 ∧ s = []) := by
  induction n using Nat.strongRecOn with
  | ind n ih =>
    by_cases hn : n < 10
    · refine ⟨n.digitChar, [], Nat.toDigits_of_lt_base hn, by simp [Nat.isDigit_digitChar, hn], ?_⟩
      intro hzero
      exact ⟨Nat.digitChar_eq_zero.mp hzero, rfl⟩
    · obtain ⟨c, s, hdigits, hc, hzero⟩ := ih (n / 10) (by omega)
      refine ⟨c, s ++ [Nat.digitChar (n % 10)], ?_, hc, ?_⟩
      · rw [Nat.toDigits_of_base_le (by omega) (by omega), hdigits, List.cons_append]
      · intro h
        have := (hzero h).1
        omega

theorem ne_of_isDigit {c d : Char} (hc : c.isDigit = true) (hd : d.isDigit = false) : c ≠ d := by
  rintro rfl
  rw [hc] at hd
  cases hd

namespace Cursor

theorem isBlank_of_isDigit {c : Char} (hc : c.isDigit = true) : isBlank c = false := by
  have hspace := ne_of_isDigit (d := ' ') hc rfl
  have hline := ne_of_isDigit (d := '\n') hc rfl
  have htab := ne_of_isDigit (d := '\t') hc rfl
  have hreturn := ne_of_isDigit (d := '\r') hc rfl
  simp [isBlank, hspace, hline, htab, hreturn]

theorem digitOf_of_isDigit {c : Char} (h : c.isDigit = true) : digitOf c = c.toNat - '0'.toNat := by
  rw [digitOf, if_pos h]

theorem le_ofDigitChars (s : List Char) (n : Nat) : n ≤ Nat.ofDigitChars 10 s n := by
  induction s generalizing n with
  | nil => simp
  | cons c s ih =>
    rw [Nat.ofDigitChars_cons]
    have := ih (10 * n + (c.toNat - '0'.toNat))
    omega

theorem digitsFrom_append {limit value : Nat} {s t : List Char} (hs : ∀ c ∈ s, c.isDigit = true)
    (ht : t.head?.all (!Char.isDigit ·)) (hvalue : Nat.ofDigitChars 10 s value < limit)
    (count : Nat) (p : Position) :
    ∃ q, digitsFrom limit value count p ((s ++ t).map .char) =
      ⟨Nat.ofDigitChars 10 s value, count + s.length, false, ⟨q, t.map .char⟩⟩ := by
  induction s generalizing value count p with
  | nil =>
    refine ⟨p, ?_⟩
    cases t with
    | nil => simp [digitsFrom]
    | cons c t =>
      have hc : c.isDigit = false := by simpa using ht
      simp [digitsFrom, hc]
  | cons c s ih =>
    obtain ⟨hc, hs⟩ := List.forall_mem_cons.mp hs
    rw [Nat.ofDigitChars_cons, ← digitOf_of_isDigit hc] at hvalue ⊢
    have hlimit : 10 * value + digitOf c < limit :=
      Nat.lt_of_le_of_lt (le_ofDigitChars s _) hvalue
    obtain ⟨q, hq⟩ := ih hs hvalue (count + 1) (p.after (.char c))
    refine ⟨q, ?_⟩
    simp only [List.cons_append, List.map_cons, digitsFrom, if_pos hc, if_pos hlimit, hq,
      List.length_cons]
    congr 1
    omega

end Cursor

namespace Reader

/-- What can follow a number: no digit, point or mark of an exponent. -/
def EndsNumber (t : List Char) : Prop :=
  ∀ c, t.head? = some c → c.isDigit = false ∧ c ≠ '.' ∧ c ≠ 'e' ∧ c ≠ 'E'

theorem takes_integerEnd {t : List Char} (ht : EndsNumber t) (n : Nat) :
    (integerEnd false n).Takes (.natural (UInt64.ofNat n)) t t := by
  apply takes_get
  intro p
  have hpoint : t.head? ≠ some '.' := fun h => (ht _ h).2.1 rfl
  have hmark : Cursor.isExponentMark t.head? = false := by
    have he : t.head? ≠ some 'e' := fun h => (ht _ h).2.2.1 rfl
    have hE : t.head? ≠ some 'E' := fun h => (ht _ h).2.2.2 rfl
    simp [Cursor.isExponentMark, he, hE]
  rw [next?_mk, if_neg hpoint, hmark]
  exact takes_pure _ t

theorem takes_digits {limit : Nat} {s t : List Char} (hs : ∀ c ∈ s, c.isDigit = true)
    (ht : EndsNumber t) (hlimit : Nat.ofDigitChars 10 s 0 < limit) {β : Type}
    {f : Cursor.Digits → Reader β} {b : β} {u : List Char}
    (hf : ∀ d, d.value = Nat.ofDigitChars 10 s 0 → d.more = false → (f d).Takes b t u) :
    (digits limit 0 >>= f).Takes b (s ++ t) u := by
  have hnext : t.head?.all (!Char.isDigit ·) := by
    rw [Option.all_eq_true]
    intro c hc
    simp [(ht c hc).1]
  intro p
  obtain ⟨q, hq⟩ := Cursor.digitsFrom_append hs hnext hlimit 0 p
  obtain ⟨q', hq'⟩ := hf
    ⟨Nat.ofDigitChars 10 s 0, 0 + s.length, false, ⟨q, t.map .char⟩⟩ rfl rfl q
  refine ⟨q', ?_⟩
  rw [← hq']
  change EStateM.bind (digits limit 0) f _ = _
  simp only [EStateM.bind, digits, hq]

theorem takes_number {t : List Char} (ht : EndsNumber t) (n : UInt64) :
    (number false).Takes (.natural n) ((JsonNumber.natural n).text.toList ++ t) t := by
  obtain ⟨c, s, hdigits, hc, hzero⟩ := toDigits_ten_cons n.toNat
  have hall : ∀ d ∈ Nat.toDigits 10 n.toNat, d.isDigit = true := fun d hd =>
    Nat.isDigit_of_mem_toDigits (by decide) (by decide) hd
  have hvalue : Nat.ofDigitChars 10 (Nat.toDigits 10 n.toNat) 0 = n.toNat :=
    Nat.ofDigitChars_ten_toDigits
  have hlimit : Nat.ofDigitChars 10 (Nat.toDigits 10 n.toNat) 0 < naturalLimit := by
    rw [hvalue]
    exact n.toNat_lt
  have hn : UInt64.ofNat n.toNat = n := UInt64.ofNat_toNat
  rw [toList_text_natural]
  apply takes_get
  intro p
  have hempty : ¬ (c :: s ++ t).isEmpty = true := by simp
  rw [atEnd_mk, next?_mk, hdigits, if_neg hempty]
  -- A zero is taken alone; all other digits are taken together.
  by_cases h : c = '0'
  · obtain ⟨hn0, rfl⟩ := hzero h
    subst h
    refine (takes_step '0' t).bind (takes_get fun q => ?_)
    have hnext : t.head?.any Char.isDigit = false := by
      rw [Option.any_eq_false]
      intro d hd
      simp [(ht d hd).1]
    rw [next?_mk, hnext, ← hn, hn0]
    exact takes_integerEnd ht 0
  · have hfirst : (List.head? (c :: s ++ t)) ≠ some '0' := by simpa using h
    have hdigit : (List.head? (c :: s ++ t)).any Char.isDigit = true := by simpa using hc
    rw [if_neg hfirst, if_pos hdigit, ← hdigits]
    apply takes_digits hall ht hlimit
    intro d hd hmore
    rw [hmore, hd, hvalue]
    have h := takes_integerEnd ht n.toNat
    rw [hn] at h
    exact h

end Reader

end ToastRelay
