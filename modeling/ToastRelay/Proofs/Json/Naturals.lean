import ToastRelay.Proofs.Json.Numbers
import ToastRelay.Proofs.Text.Utf8

/-!
# Which texts are natural numbers

A text is read as a natural number if and only if it is, blanks around it apart, the decimal digits of
a number below 2^64 without a zero in front. What begins with a minus, has a point or an exponent, or
is too great is another kind of number, minus zero included.
-/

namespace ToastRelay
set_option autoImplicit false

open Text

theorem digitChar_of_isDigit {c : Char} (h : c.isDigit = true) :
    (c.toNat - '0'.toNat).digitChar = c ∧ c.toNat - '0'.toNat < 10 := by
  have hbounds : 48 ≤ c.toNat ∧ c.toNat ≤ 57 := by
    simp only [Char.isDigit, Bool.and_eq_true, decide_eq_true_eq, ge_iff_le,
      UInt32.le_iff_toNat_le] at h
    exact h
  have hzero : '0'.toNat = 48 := rfl
  refine ⟨Char.toNat_inj.mp ?_, by omega⟩
  rw [Nat.toNat_digitChar_of_lt_ten (by omega)]
  omega

theorem toDigits_ofDigitChars {s : List Char} (hs : ∀ c ∈ s, c.isDigit = true) {n : Nat}
    (hn : 0 < n) : Nat.toDigits 10 (Nat.ofDigitChars 10 s n) = Nat.toDigits 10 n ++ s := by
  induction s generalizing n with
  | nil => rw [Nat.ofDigitChars_nil, List.append_nil]
  | cons c s ih =>
    obtain ⟨hc, hs⟩ := List.forall_mem_cons.mp hs
    obtain ⟨hchar, hlt⟩ := digitChar_of_isDigit hc
    rw [Nat.ofDigitChars_cons, ih hs (by omega),
      ← Nat.toDigits_append_toDigits (by decide) hn hlt, Nat.toDigits_of_lt_base hlt, hchar,
      List.append_assoc, List.singleton_append]

/-- The digits of a number are the ones that it was made of, if no zero stands in front. -/
theorem toDigits_ofDigitChars_cons {c : Char} {s : List Char} (hne : c ≠ '0')
    (hs : ∀ d ∈ c :: s, d.isDigit = true) :
    Nat.toDigits 10 (Nat.ofDigitChars 10 (c :: s) 0) = c :: s := by
  obtain ⟨hc, hs⟩ := List.forall_mem_cons.mp hs
  obtain ⟨hchar, hlt⟩ := digitChar_of_isDigit hc
  have hpos : 0 < c.toNat - '0'.toNat := by
    apply Nat.pos_of_ne_zero
    intro hzero
    rw [hzero] at hchar
    exact hne hchar.symm
  rw [Nat.ofDigitChars_cons, Nat.mul_zero, Nat.zero_add, toDigits_ofDigitChars hs hpos,
    Nat.toDigits_of_lt_base hlt, hchar, List.singleton_append]

namespace Cursor

theorem exists_of_dropWhileFrom (accepts : Char → Bool) (p : Position) (ps : List Piece) :
    ∃ s : List Char, (∀ c ∈ s, accepts c = true) ∧
      ps = s.map .char ++ (dropWhileFrom accepts p ps).rest := by
  induction ps generalizing p with
  | nil => exact ⟨[], by simp, by simp [dropWhileFrom]⟩
  | cons piece ps ih =>
    cases piece with
    | char a =>
      rw [dropWhileFrom]
      split
      · next ha =>
        obtain ⟨s, hs, hps⟩ := ih (p.after (.char a))
        refine ⟨a :: s, List.forall_mem_cons.mpr ⟨ha, hs⟩, ?_⟩
        rw [List.map_cons, List.cons_append, ← hps]
      · exact ⟨[], by simp, rfl⟩
    | _ => exact ⟨[], by simp, rfl⟩

theorem exists_of_digitsFrom {limit value : Nat} (hvalue : value < limit) (count : Nat)
    (p : Position) (ps : List Piece) :
    ∃ s : List Char, (∀ c ∈ s, c.isDigit = true) ∧
      ps = s.map .char ++ (digitsFrom limit value count p ps).cursor.rest ∧
      (digitsFrom limit value count p ps).value = Nat.ofDigitChars 10 s value ∧
      (digitsFrom limit value count p ps).value < limit := by
  induction ps generalizing value count p with
  | nil => exact ⟨[], by simp, by simp [digitsFrom], rfl, hvalue⟩
  | cons piece ps ih =>
    cases piece with
    | char c =>
      simp only [digitsFrom]
      split
      · next hc =>
        split
        · next hlimit =>
          obtain ⟨s, hs, hps, hmade, hless⟩ := ih hlimit (count + 1) (p.after (.char c))
          refine ⟨c :: s, List.forall_mem_cons.mpr ⟨hc, hs⟩, ?_, ?_, hless⟩
          · rw [List.map_cons, List.cons_append, ← hps]
          · rw [hmade, Nat.ofDigitChars_cons, digitOf_of_isDigit hc]
        · exact ⟨[], by simp, rfl, rfl, hvalue⟩
      · exact ⟨[], by simp, rfl, rfl, hvalue⟩
    | _ => exact ⟨[], by simp, rfl, rfl, hvalue⟩

theorem rest_of_next? {c : Cursor} {a : Char} (h : c.next? = some a) :
    ∃ r, c.rest = .char a :: r := by
  rw [next?] at h
  split at h
  · next r hrest =>
    cases h
    exact ⟨r, hrest⟩
  · cases h

theorem exists_of_digitsFrom_zero {c : Cursor} {a : Char} (hnext : c.next? = some a)
    (ha : a.isDigit = true) :
    ∃ s : List Char, (∀ d ∈ a :: s, d.isDigit = true) ∧
      c.rest = (a :: s).map .char ++ (digitsFrom naturalLimit 0 0 c.position c.rest).cursor.rest ∧
      (digitsFrom naturalLimit 0 0 c.position c.rest).value = Nat.ofDigitChars 10 (a :: s) 0 ∧
      (digitsFrom naturalLimit 0 0 c.position c.rest).value < naturalLimit := by
  obtain ⟨r, hrest⟩ := rest_of_next? hnext
  have hdigit := digitOf_of_isDigit ha
  have hlt : 10 * 0 + digitOf a < naturalLimit := by
    have := (digitChar_of_isDigit ha).2
    simp only [naturalLimit]
    omega
  rw [hrest]
  simp only [digitsFrom, if_pos ha, if_pos hlt]
  obtain ⟨s, hs, hps, hvalue, hlimit⟩ :=
    exists_of_digitsFrom hlt 1 (c.position.after (.char a)) r
  refine ⟨s, List.forall_mem_cons.mpr ⟨ha, hs⟩, ?_, ?_, hlimit⟩
  · rw [List.map_cons, List.cons_append, ← hps]
  · rw [hvalue, Nat.ofDigitChars_cons, hdigit]

end Cursor

namespace Reader

variable {α β : Type}

/-- What a reader gives, if it gives anything, has a property. -/
def Gives (P : α → Prop) (r : Reader α) : Prop := ∀ c a c', r c = .ok a c' → P a

theorem exists_of_bind_eq_ok {r : Reader α} {f : α → Reader β} {b : β} {c c' : Cursor}
    (h : (r >>= f) c = .ok b c') : ∃ a c₁, r c = .ok a c₁ ∧ f a c₁ = .ok b c' := by
  change EStateM.bind r f c = _ at h
  rw [EStateM.bind] at h
  cases hr : r c with
  | ok a c₁ =>
    rw [hr] at h
    exact ⟨a, c₁, rfl, h⟩
  | error e c₁ =>
    rw [hr] at h
    cases h

theorem exists_of_map_eq_ok {r : Reader α} {f : α → β} {b : β} {c c' : Cursor}
    (h : (f <$> r) c = .ok b c') : ∃ a, r c = .ok a c' ∧ f a = b := by
  have hbind : (r >>= fun a => pure (f a)) c = .ok b c' := h
  obtain ⟨a, c₁, ha, hpure⟩ := exists_of_bind_eq_ok hbind
  cases hpure
  exact ⟨a, ha, rfl⟩

section Gives
variable {P : α → Prop}

theorem gives_pure {a : α} (h : P a) : Gives P (pure a) := by
  intro c a' c' hok
  cases hok
  exact h

theorem gives_failHere (f : Fault) : Gives P (failHere f) := by
  intro c a c' hok
  cases hok

theorem gives_failNext (f : Fault) : Gives P (failNext f) := by
  intro c a c' hok
  cases hok

theorem gives_bind {r : Reader β} {f : β → Reader α} (hf : ∀ b, Gives P (f b)) :
    Gives P (r >>= f) := by
  intro c a c' hok
  obtain ⟨b, c₁, -, hok⟩ := exists_of_bind_eq_ok hok
  exact hf b c₁ a c' hok

end Gives

def NotNatural (x : JsonNumber) : Prop := ∀ n, x ≠ .natural n

theorem notNatural_float (x : Binary64) : NotNatural (.float x) := by
  intro n h
  cases h

theorem notNatural_negative (size : Nat) : NotNatural (.negative size) := by
  intro n h
  cases h

section Numbers
variable (negative : Bool) (value : Nat)

theorem gives_floating (exponent : Int) : Gives NotNatural (floating negative value exponent) := by
  rw [floating]
  split
  · exact gives_pure (notNatural_float _)
  · exact gives_failHere _

theorem gives_exponent (place : Int) : Gives NotNatural (exponent negative value place) := by
  refine gives_bind fun _ => gives_bind fun c => ?_
  dsimp only
  -- Wherever the reading ends, it ends in a fault or with a floating point number.
  repeat' first
    | exact gives_failHere _
    | exact gives_failNext _
    | exact gives_floating _ _ _
    | exact gives_pure (notNatural_float _)
    | refine gives_bind fun _ => ?_
    | split

theorem gives_exponentOrEnd (place : Int) :
    Gives NotNatural (exponentOrEnd negative value place) := by
  refine gives_bind fun c => ?_
  split
  · exact gives_exponent negative value place
  · exact gives_floating negative value place

theorem gives_fraction (place : Nat) : Gives NotNatural (fraction negative value place) := by
  refine gives_bind fun _ => gives_bind fun d => ?_
  split
  · exact gives_bind fun _ => gives_exponentOrEnd negative d.value _
  · split
    · refine gives_bind fun c => ?_
      split
      · exact gives_failNext _
      · exact gives_failNext _
    · exact gives_exponentOrEnd negative d.value _

theorem gives_integerEnd_true : Gives NotNatural (integerEnd true value) := by
  refine gives_bind fun c => ?_
  dsimp only
  split
  · exact gives_fraction true value 0
  · split
    · exact gives_exponent true value 0
    · split
      · next h => cases h
      · split
        · exact gives_pure (notNatural_negative value)
        · exact gives_floating true value 0

end Numbers

theorem gives_number_true : Gives NotNatural (number true) := by
  refine gives_bind fun c => ?_
  split
  · exact gives_failHere _
  · split
    · refine gives_bind fun _ => gives_bind fun c => ?_
      split
      · exact gives_failNext _
      · exact gives_integerEnd_true 0
    · split
      · refine gives_bind fun d => ?_
        split
        · refine gives_bind fun left => gives_bind fun c => ?_
          dsimp only
          split
          · exact gives_fraction true d.value left
          · exact gives_exponentOrEnd true d.value left
        · exact gives_integerEnd_true d.value
      · exact gives_failNext _

theorem integerEnd_eq_natural {value : Nat} {c c' : Cursor} {n : UInt64}
    (h : integerEnd false value c = .ok (.natural n) c') : n = UInt64.ofNat value ∧ c' = c := by
  obtain ⟨_, _, hget, h⟩ := exists_of_bind_eq_ok h
  cases hget
  dsimp only at h
  split at h
  · exact absurd rfl (gives_fraction false value 0 _ _ _ h n)
  · split at h
    · exact absurd rfl (gives_exponent false value 0 _ _ _ h n)
    · cases h
      exact ⟨rfl, rfl⟩

theorem number_eq_natural {c c' : Cursor} {n : UInt64}
    (h : number false c = .ok (.natural n) c') :
    c.rest = (Nat.toDigits 10 n.toNat).map .char ++ c'.rest := by
  obtain ⟨_, _, hget, h⟩ := exists_of_bind_eq_ok h
  cases hget
  split at h
  · cases h
  · split at h
    -- A zero stands alone; other digits are all taken, or the number is no natural number.
    · next hzero =>
      obtain ⟨r, hrest⟩ := Cursor.rest_of_next? hzero
      obtain ⟨_, _, hstep, h⟩ := exists_of_bind_eq_ok h
      cases hstep
      obtain ⟨_, _, hget, h⟩ := exists_of_bind_eq_ok h
      cases hget
      split at h
      · cases h
      · obtain ⟨rfl, rfl⟩ := integerEnd_eq_natural h
        rw [Cursor.step, hrest]
        rfl
    · next hnotZero =>
      split at h
      · next hdigit =>
        obtain ⟨d, _, hdigits, h⟩ := exists_of_bind_eq_ok h
        cases hdigits
        split at h
        · obtain ⟨left, _, -, h⟩ := exists_of_bind_eq_ok h
          obtain ⟨_, _, hget, h⟩ := exists_of_bind_eq_ok h
          dsimp only at h
          split at h
          · exact absurd rfl (gives_fraction _ _ _ _ _ _ h n)
          · exact absurd rfl (gives_exponentOrEnd _ _ _ _ _ _ h n)
        · obtain ⟨rfl, rfl⟩ := integerEnd_eq_natural h
          obtain ⟨a, hnext, ha⟩ := (Option.any_eq_true _ _).mp hdigit
          have hne : a ≠ '0' := by
            rintro rfl
            exact hnotZero hnext
          obtain ⟨s, hs, hrest, hvalue, hlimit⟩ := Cursor.exists_of_digitsFrom_zero hnext ha
          rw [UInt64.toNat_ofNat_of_lt' hlimit, hvalue, toDigits_ofDigitChars_cons hne hs]
          exact hrest
      · cases h

theorem exists_of_nextBehindBlanks {f : Fault} {c c' : Cursor} {next : Option Char}
    (h : nextBehindBlanks f c = .ok next c') :
    ∃ s : List Char, (∀ a ∈ s, Cursor.isBlank a = true) ∧ c.rest = s.map .char ++ c'.rest := by
  obtain ⟨_, _, hskip, h⟩ := exists_of_bind_eq_ok h
  cases hskip
  obtain ⟨_, _, hget, h⟩ := exists_of_bind_eq_ok h
  cases hget
  split at h
  · cases h
  · cases h
    exact Cursor.exists_of_dropWhileFrom Cursor.isBlank c.position c.rest

theorem value_eq_natural {steps depth : Nat} {c c' : Cursor} {n : UInt64}
    (h : value steps depth c = .ok (.number (.natural n)) c') :
    ∃ s : List Char, (∀ a ∈ s, Cursor.isBlank a = true) ∧
      c.rest = (s ++ Nat.toDigits 10 n.toNat).map .char ++ c'.rest := by
  cases depth with
  | zero => cases h
  | succ depth =>
    obtain ⟨next, c₁, hblanks, h⟩ := exists_of_bind_eq_ok h
    obtain ⟨s, hs, hrest⟩ := exists_of_nextBehindBlanks hblanks
    -- Words, strings and containers are other values, and what begins with a minus another number.
    split at h
    · obtain ⟨_, _, -, h⟩ := exists_of_bind_eq_ok h
      obtain ⟨_, _, -, h⟩ := exists_of_bind_eq_ok h
      cases h
    · obtain ⟨_, _, -, h⟩ := exists_of_bind_eq_ok h
      obtain ⟨_, _, -, h⟩ := exists_of_bind_eq_ok h
      cases h
    · obtain ⟨_, _, -, h⟩ := exists_of_bind_eq_ok h
      obtain ⟨_, _, -, h⟩ := exists_of_bind_eq_ok h
      cases h
    · obtain ⟨_, _, -, h⟩ := exists_of_bind_eq_ok h
      obtain ⟨x, hx, hnatural⟩ := exists_of_map_eq_ok h
      cases hnatural
      exact absurd rfl (gives_number_true _ _ _ hx n)
    · obtain ⟨_, _, -, h⟩ := exists_of_bind_eq_ok h
      obtain ⟨text, -, htext⟩ := exists_of_map_eq_ok h
      cases htext
    · split at h
      · cases h
      · obtain ⟨_, _, -, h⟩ := exists_of_bind_eq_ok h
        cases h
    · split at h
      · cases h
      · obtain ⟨_, _, -, h⟩ := exists_of_bind_eq_ok h
        cases h
    · split at h
      · obtain ⟨x, hx, hnatural⟩ := exists_of_map_eq_ok h
        cases hnatural
        refine ⟨s, hs, ?_⟩
        rw [hrest, number_eq_natural hx, List.map_append, List.append_assoc]
      · cases h

theorem endsNumber_of_blanks {t : List Char} (ht : ∀ c ∈ t, Cursor.isBlank c = true) :
    EndsNumber t := by
  intro c hc
  have hblank := ht c (List.mem_of_mem_head? hc)
  simp only [Cursor.isBlank, Bool.or_eq_true, decide_eq_true_eq] at hblank
  rcases hblank with ((rfl | rfl) | rfl) | rfl <;> decide

theorem takes_value_natural (n : UInt64) {s t : List Char}
    (hs : ∀ c ∈ s, Cursor.isBlank c = true) (ht : EndsNumber t) (steps depth : Nat) :
    (value steps (depth + 1)).Takes (.number (.natural n)) (s ++ Nat.toDigits 10 n.toNat ++ t) t := by
  obtain ⟨c, r, hdigits, hc, -⟩ := toDigits_ten_cons n.toNat
  have hnumber := takes_number ht n
  rw [toList_text_natural] at hnumber
  rw [List.append_assoc]
  have hnext := takes_nextBehindBlanks hs (Cursor.isBlank_of_isDigit hc) .unfinishedValue (r ++ t)
  rw [← List.cons_append, ← hdigits] at hnext
  have hnot : ∀ d : Char, d.isDigit = false → some c ≠ some d := by
    intro d hd h
    exact ne_of_isDigit hc hd (Option.some.inj h)
  refine hnext.bind ?_
  -- A digit begins none of the other values.
  split
  · next h => exact absurd h (hnot _ rfl)
  · next h => exact absurd h (hnot _ rfl)
  · next h => exact absurd h (hnot _ rfl)
  · next h => exact absurd h (hnot _ rfl)
  · next h => exact absurd h (hnot _ rfl)
  · next h => exact absurd h (hnot _ rfl)
  · next h => exact absurd h (hnot _ rfl)
  · rw [if_pos (by simpa using hc)]
    exact hnumber.map Json.number

theorem exists_of_whole {r : Nat → Reader α} {ps : List Piece} {a : α}
    (h : whole r ps = .ok a) :
    ∃ (c : Cursor) (s : List Char), r ps.length (Cursor.ofPieces ps) = .ok a c ∧
      (∀ b ∈ s, Cursor.isBlank b = true) ∧ c.rest = s.map .char := by
  rw [whole] at h
  split at h
  · next b c hok =>
    cases h
    obtain ⟨_, c₁, ha, hok⟩ := exists_of_bind_eq_ok hok
    obtain ⟨_, c₂, hfinish, hpure⟩ := exists_of_bind_eq_ok hok
    cases hpure
    obtain ⟨_, _, hskip, hfinish⟩ := exists_of_bind_eq_ok hfinish
    cases hskip
    obtain ⟨s, hs, hrest⟩ := Cursor.exists_of_dropWhileFrom Cursor.isBlank c₁.position c₁.rest
    refine ⟨c₁, s, ha, hs, ?_⟩
    obtain ⟨_, _, hget, hfinish⟩ := exists_of_bind_eq_ok hfinish
    cases hget
    split at hfinish
    · next hend =>
      have hnil : (c₁.dropWhile Cursor.isBlank).rest = [] := List.isEmpty_iff.mp hend
      rw [hrest]
      simpa [Cursor.dropWhile] using hnil
    · cases hfinish
  · cases h

end Reader

/-- A text is read as a natural number if and only if it consists of the digits of the number and of
blanks around them. -/
theorem Json.ofBytes_eq_natural_iff {text : String} {n : UInt64} :
    Json.ofBytes (encode text) = .ok (.number (.natural n)) ↔
      ∃ before after, (∀ c ∈ before ++ after, Cursor.isBlank c = true) ∧
        text.toList = before ++ Nat.toDigits 10 n.toNat ++ after := by
  rw [Json.ofBytes, Text.pieces_encode]
  constructor
  · intro h
    obtain ⟨c, after, hvalue, hafter, hrest⟩ := Reader.exists_of_whole h
    obtain ⟨before, hbefore, htext⟩ := Reader.value_eq_natural hvalue
    refine ⟨before, after, ?_, ?_⟩
    · exact List.forall_mem_append.mpr ⟨hbefore, hafter⟩
    · apply (List.map_inj_right fun a b h => Piece.char.inj h).mp
      rw [List.map_append, ← hrest]
      exact htext
  · rintro ⟨before, after, hblanks, htext⟩
    obtain ⟨hbefore, hafter⟩ := List.forall_mem_append.mp hblanks
    have hends := Reader.endsNumber_of_blanks hafter
    rw [htext]
    exact Reader.whole_eq_ok_of_blanks (Reader.takes_value_natural n hbefore hends _ _) hafter

end ToastRelay
