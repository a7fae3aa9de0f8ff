import ToastRelay.Proofs.Text.Utf8

/-!
# The order of texts

Texts are compared by their characters, from the first one that differs. Their bytes compare alike:
the first byte tells how many follow, more for greater characters, and each of them holds a digit of
the character's number.
-/

namespace ToastRelay.Text
set_option autoImplicit false

theorem ofNat_cons_lt_cons {x y : Nat} (hx : x < 256) (hy : y < 256) {s t : Bytes} :
    UInt8.ofNat x :: s < UInt8.ofNat y :: t ↔ x < y ∨ x = y ∧ s < t := by
  rw [List.cons_lt_cons_iff, UInt8.lt_iff_toNat_lt, ← UInt8.toNat_inj, toNat_ofNat_of_lt hx,
    toNat_ofNat_of_lt hy]

theorem utf8EncodeChar_append_lt {c d : Char} (h : c < d) (s t : Bytes) :
    String.utf8EncodeChar c ++ s < String.utf8EncodeChar d ++ t := by
  have hlt : c.val.toNat < d.val.toNat := UInt32.lt_iff_toNat_lt.mp h
  have hvalid : d.val.toNat < 0xD800 ∨ 0xDFFF < d.val.toNat ∧ d.val.toNat < 0x110000 := d.valid
  unfold String.utf8EncodeChar
  generalize c.val.toNat = v at hlt
  generalize d.val.toNat = w at hlt hvalid
  have hlast : v / 64 = w / 64 → v % 64 < w % 64 := by omega
  have hthird : v / 4096 = w / 4096 → v / 64 % 64 < w / 64 % 64 ∨ v / 64 = w / 64 := by omega
  have hsecond : v / 262144 = w / 262144 → v / 4096 % 64 < w / 4096 % 64 ∨ v / 4096 = w / 4096 := by
    omega
  have hfirst : v / 262144 < w / 262144 ∨ v / 262144 = w / 262144 := by omega
  dsimp only
  -- More bytes begin with a greater one; of as many bytes the first that differ are compared.
  by_cases h1 : v ≤ 0x7F
  · rw [if_pos h1]
    repeat' split
    all_goals
      simp (disch := omega) only [List.cons_append, ofNat_cons_lt_cons]
      omega
  rw [if_neg h1, if_neg (show ¬ w ≤ 0x7F by omega)]
  by_cases h2 : v ≤ 0x7FF
  · rw [if_pos h2]
    repeat' split
    all_goals
      simp (disch := omega) only [List.cons_append, ofNat_cons_lt_cons]
      omega
  rw [if_neg h2, if_neg (show ¬ w ≤ 0x7FF by omega)]
  by_cases h3 : v ≤ 0xFFFF
  · rw [if_pos h3]
    split
    all_goals
      simp (disch := omega) only [List.cons_append, ofNat_cons_lt_cons]
      omega
  rw [if_neg h3, if_neg (show ¬ w ≤ 0xFFFF by omega),
    Nat.mod_eq_of_lt (show v / 262144 < 8 by omega), Nat.mod_eq_of_lt (show w / 262144 < 8 by omega)]
  simp (disch := omega) only [List.cons_append, ofNat_cons_lt_cons]
  omega

/-- The order of texts is the order of their bytes. -/
theorem encode_lt_encode {s t : String} (h : s < t) : encode s < encode t := by
  change s.toList < t.toList at h
  unfold encode
  generalize s.toList = s at h
  generalize t.toList = t at h
  induction s generalizing t with
  | nil =>
    cases t with
    | nil => exact absurd h (List.lt_irrefl [])
    | cons d t =>
      obtain ⟨a, tail, hbytes, -⟩ := firstPiece_utf8EncodeChar d []
      rw [List.flatMap_nil, List.flatMap_cons, hbytes]
      exact List.nil_lt_cons a _
  | cons c s ih =>
    cases t with
    | nil => exact absurd h (List.not_lt_nil _)
    | cons d t =>
      rw [List.flatMap_cons, List.flatMap_cons]
      rcases List.cons_lt_cons_iff.mp h with hlt | ⟨rfl, hlt⟩
      · exact utf8EncodeChar_append_lt hlt _ _
      · exact List.append_left_lt (ih t hlt)

end ToastRelay.Text
