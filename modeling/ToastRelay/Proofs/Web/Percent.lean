import ToastRelay.Web.Url

/-!
# Percent signs

A percent sign and two hexadecimal digits stand for one byte, and every other byte for itself. So
bytes can be decoded one after the other, and those without a percent sign are decoded already.
-/

namespace ToastRelay.Web
set_option autoImplicit false

open Text

theorem percentDecodeOnto_cons_of_ne {a : UInt8} (h : a ≠ 0x25) (done rest : Bytes) :
    percentDecodeOnto done (a :: rest) = percentDecodeOnto (a :: done) rest := by
  match rest with
  | [] => simp [percentDecodeOnto]
  | [b] => simp [percentDecodeOnto]
  | b :: c :: r =>
    have hno : ¬ (decide (a = 0x25) && isHexDigit (Char.ofNat b.toNat) &&
        isHexDigit (Char.ofNat c.toNat)) = true := by
      simp [h]
    rw [percentDecodeOnto, if_neg hno]

theorem percentDecodeOnto_percent {b c : UInt8} (hb : isHexDigit (Char.ofNat b.toNat) = true)
    (hc : isHexDigit (Char.ofNat c.toNat) = true) (done rest : Bytes) :
    percentDecodeOnto done (0x25 :: b :: c :: rest) =
      percentDecodeOnto
        (UInt8.ofNat (16 * digitOf (Char.ofNat b.toNat) + digitOf (Char.ofNat c.toNat)) :: done)
        rest := by
  have hyes : (decide ((0x25 : UInt8) = 0x25) && isHexDigit (Char.ofNat b.toNat) &&
      isHexDigit (Char.ofNat c.toNat)) = true := by
    simp [hb, hc]
  rw [percentDecodeOnto, if_pos hyes]

theorem percentDecode_of_notMem {bytes : Bytes} (h : (0x25 : UInt8) ∉ bytes) :
    percentDecode bytes = bytes := by
  have honto : ∀ done, percentDecodeOnto done bytes = done.reverse ++ bytes := by
    induction bytes with
    | nil => exact fun done => rfl
    | cons a bytes ih =>
      obtain ⟨ha, hrest⟩ := not_or.mp (mt List.mem_cons.mpr h)
      intro done
      rw [percentDecodeOnto_cons_of_ne (Ne.symm ha), ih hrest, List.reverse_cons,
        List.append_assoc, List.singleton_append]
  exact honto []

end ToastRelay.Web
