import ToastRelay.Text.Utf8

/-!
# Reading a text back from its bytes

Every character is written in at most four bytes, of which the first tells how many follow, and what
is read from them is that character and nothing of the bytes behind them. So the pieces of a text's
bytes are its characters, without a broken stretch, and the text can be read back. The other way
round, a character is read only from the bytes that it is written in, so that nothing else than the
bytes of a text is read as that text.
-/

namespace ToastRelay.Text
set_option autoImplicit false

theorem isTail_iff (b : UInt8) : isTail b = true ↔ 0x80 ≤ b.toNat ∧ b.toNat ≤ 0xBF := by
  simp [isTail, UInt8.le_iff_toNat_le]

theorem canFollow_iff (a b : UInt8) : canFollow a b = true ↔
    (0x80 ≤ b.toNat ∧ b.toNat ≤ 0xBF) ∧
      (a.toNat = 0xE0 → 0xA0 ≤ b.toNat) ∧ (a.toNat = 0xED → b.toNat ≤ 0x9F) ∧
      (a.toNat = 0xF0 → 0x90 ≤ b.toNat) ∧ (a.toNat = 0xF4 → b.toNat ≤ 0x8F) := by
  simp only [canFollow, Bool.and_eq_true, isTail_iff, Bool.or_eq_true, bne_iff_ne,
    decide_eq_true_eq, UInt8.le_iff_toNat_le, ne_eq, ← UInt8.toNat_inj, UInt8.reduceToNat]
  omega

theorem leadSize_eq (a : UInt8) : leadSize a =
    if a.toNat < 0x80 then 1 else if a.toNat < 0xC2 then 0 else if a.toNat < 0xE0 then 2
    else if a.toNat < 0xF0 then 3 else if a.toNat < 0xF5 then 4 else 0 := by
  simp [leadSize, UInt8.lt_iff_toNat_lt]

section FirstPiece
variable {a b c d : UInt8} (rest : Bytes)

theorem firstPiece_one (ha : a.toNat < 0x80) :
    firstPiece a rest = (.char (Char.ofNat a.toNat), rest) := by
  have hsize : leadSize a = 1 := by simp [leadSize_eq, ha]
  simp [firstPiece, hsize]

theorem firstPiece_two (ha : 0xC2 ≤ a.toNat) (ha' : a.toNat < 0xE0) (hb : canFollow a b = true) :
    firstPiece a (b :: rest) = (.char (Char.ofNat (codePoint2 a b)), rest) := by
  have hsize : leadSize a = 2 := by
    rw [leadSize_eq, if_neg (by omega), if_neg (by omega), if_pos ha']
  simp [firstPiece, hsize, hb]

theorem firstPiece_three (ha : 0xE0 ≤ a.toNat) (ha' : a.toNat < 0xF0) (hb : canFollow a b = true)
    (hc : isTail c = true) :
    firstPiece a (b :: c :: rest) = (.char (Char.ofNat (codePoint3 a b c)), rest) := by
  have hsize : leadSize a = 3 := by
    rw [leadSize_eq, if_neg (by omega), if_neg (by omega), if_neg (by omega), if_pos ha']
  simp [firstPiece, hsize, hb, hc]

theorem firstPiece_four (ha : 0xF0 ≤ a.toNat) (ha' : a.toNat < 0xF5) (hb : canFollow a b = true)
    (hc : isTail c = true) (hd : isTail d = true) :
    firstPiece a (b :: c :: d :: rest) = (.char (Char.ofNat (codePoint4 a b c d)), rest) := by
  have hsize : leadSize a = 4 := by
    rw [leadSize_eq, if_neg (by omega), if_neg (by omega), if_neg (by omega), if_neg (by omega),
      if_pos ha']
  simp [firstPiece, hsize, hb, hc, hd]

end FirstPiece

theorem toNat_ofNat_of_lt {n : Nat} (h : n < 256) : (UInt8.ofNat n).toNat = n := by
  rw [UInt8.toNat_ofNat']
  omega

theorem utf8EncodeChar_of_ascii {c : Char} (h : c.toNat < 0x80) :
    String.utf8EncodeChar c = [UInt8.ofNat c.toNat] := by
  have hcode : c.val.toNat ≤ 0x7F := Nat.le_of_lt_succ h
  exact if_pos hcode

/-- The first piece of a character's bytes is the character, whatever stands behind them. -/
theorem firstPiece_utf8EncodeChar (c : Char) (rest : Bytes) :
    ∃ a tail, String.utf8EncodeChar c = a :: tail ∧
      firstPiece a (tail ++ rest) = (.char c, rest) := by
  have hofNat : Char.ofNat c.val.toNat = c := Char.ofNat_toNat c
  have hvalid : c.val.toNat < 0xD800 ∨ 0xDFFF < c.val.toNat ∧ c.val.toNat < 0x110000 := c.valid
  unfold String.utf8EncodeChar
  generalize c.val.toNat = v at hofNat hvalid
  have hlast : (UInt8.ofNat (v % 64 + 0x80)).toNat = v % 64 + 0x80 := toNat_ofNat_of_lt (by omega)
  have hthird : (UInt8.ofNat (v / 64 % 64 + 0x80)).toNat = v / 64 % 64 + 0x80 :=
    toNat_ofNat_of_lt (by omega)
  have hsecond : (UInt8.ofNat (v / 4096 % 64 + 0x80)).toNat = v / 4096 % 64 + 0x80 :=
    toNat_ofNat_of_lt (by omega)
  generalize hd : UInt8.ofNat (v % 64 + 0x80) = d at hlast
  generalize hc : UInt8.ofNat (v / 64 % 64 + 0x80) = c' at hthird
  generalize hb : UInt8.ofNat (v / 4096 % 64 + 0x80) = b at hsecond
  -- One case for each length. The bytes are known by their values only, so that the bounds of a
  -- following byte and the code point are arithmetic.
  by_cases h1 : v ≤ 0x7F
  · have ha : (UInt8.ofNat v).toNat = v := toNat_ofNat_of_lt (by omega)
    refine ⟨UInt8.ofNat v, [], if_pos h1, ?_⟩
    rw [List.nil_append, firstPiece_one rest (by omega), ha, hofNat]
  by_cases h2 : v ≤ 0x7FF
  · have ha : (UInt8.ofNat (v / 64 % 32 + 0xC0)).toNat = v / 64 + 0xC0 := by
      rw [toNat_ofNat_of_lt (by omega)]
      omega
    generalize hlead : UInt8.ofNat (v / 64 % 32 + 0xC0) = a at ha
    refine ⟨a, [d], by simp only [if_neg h1, if_pos h2, hlead, hd], ?_⟩
    have hcode : codePoint2 a d = v := by
      unfold codePoint2
      omega
    rw [List.cons_append, List.nil_append,
      firstPiece_two rest (by omega) (by omega) ((canFollow_iff a d).mpr (by omega)), hcode, hofNat]
  by_cases h3 : v ≤ 0xFFFF
  · have ha : (UInt8.ofNat (v / 4096 % 16 + 0xE0)).toNat = v / 4096 + 0xE0 := by
      rw [toNat_ofNat_of_lt (by omega)]
      omega
    generalize hlead : UInt8.ofNat (v / 4096 % 16 + 0xE0) = a at ha
    refine ⟨a, [c', d], by simp only [if_neg h1, if_neg h2, if_pos h3, hlead, hc, hd], ?_⟩
    have hcode : codePoint3 a c' d = v := by
      unfold codePoint3
      omega
    rw [List.cons_append, List.cons_append, List.nil_append,
      firstPiece_three rest (by omega) (by omega) ((canFollow_iff a c').mpr (by omega))
        ((isTail_iff d).mpr (by omega)), hcode, hofNat]
  · have ha : (UInt8.ofNat (v / 262144 % 8 + 0xF0)).toNat = v / 262144 + 0xF0 := by
      rw [toNat_ofNat_of_lt (by omega)]
      omega
    generalize hlead : UInt8.ofNat (v / 262144 % 8 + 0xF0) = a at ha
    refine ⟨a, [b, c', d], by
      simp only [if_neg h1, if_neg h2, if_neg h3, hlead, hb, hc, hd], ?_⟩
    have hcode : codePoint4 a b c' d = v := by
      unfold codePoint4
      omega
    rw [List.cons_append, List.cons_append, List.cons_append, List.nil_append,
      firstPiece_four rest (by omega) (by omega) ((canFollow_iff a b).mpr (by omega))
        ((isTail_iff c').mpr (by omega)) ((isTail_iff d).mpr (by omega)), hcode, hofNat]

theorem piecesOnto_utf8EncodeChar (found : List Piece) (c : Char) (rest : Bytes) :
    piecesOnto found (String.utf8EncodeChar c ++ rest) = piecesOnto (.char c :: found) rest := by
  obtain ⟨a, tail, hbytes, hfirst⟩ := firstPiece_utf8EncodeChar c rest
  rw [hbytes, List.cons_append, piecesOnto, hfirst]

theorem piecesOnto_flatMap (found : List Piece) (s : List Char) (rest : Bytes) :
    piecesOnto found (s.flatMap String.utf8EncodeChar ++ rest) =
      piecesOnto ((s.map .char).reverse ++ found) rest := by
  induction s generalizing found with
  | nil => rfl
  | cons c s ih =>
    rw [List.flatMap_cons, List.append_assoc, piecesOnto_utf8EncodeChar, ih]
    simp

theorem pieces_encode (s : String) : pieces (encode s) = s.toList.map .char := by
  have hpieces := piecesOnto_flatMap [] s.toList []
  rw [List.append_nil, List.append_nil, piecesOnto, List.reverse_reverse] at hpieces
  exact hpieces

theorem chars?_encode (s : String) : chars? (encode s) = some s.toList := by
  rw [chars?, pieces_encode, List.mapM_map]
  exact (List.mapM_pure (m := Option) (l := s.toList) (f := id)).trans (by simp)

theorem decode?_encode (s : String) : decode? (encode s) = some s := by
  rw [decode?, chars?_encode, Option.map_some, String.ofList_toList]

theorem toNat_val_ofNat {n : Nat} (h : n < 0xD800 ∨ 0xDFFF < n ∧ n < 0x110000) :
    (Char.ofNat n).val.toNat = n := by
  have hvalid : n.isValidChar := h
  rw [Char.ofNat, dif_pos hvalid]
  rfl

theorem utf8EncodeChar_ofNat {n : Nat} (h : n < 0xD800 ∨ 0xDFFF < n ∧ n < 0x110000) :
    String.utf8EncodeChar (Char.ofNat n) =
      if n ≤ 0x7F then [UInt8.ofNat n]
      else if n ≤ 0x7FF then [UInt8.ofNat (n / 64 % 32 + 0xC0), UInt8.ofNat (n % 64 + 0x80)]
      else if n ≤ 0xFFFF then [UInt8.ofNat (n / 4096 % 16 + 0xE0),
        UInt8.ofNat (n / 64 % 64 + 0x80), UInt8.ofNat (n % 64 + 0x80)]
      else [UInt8.ofNat (n / 262144 % 8 + 0xF0), UInt8.ofNat (n / 4096 % 64 + 0x80),
        UInt8.ofNat (n / 64 % 64 + 0x80), UInt8.ofNat (n % 64 + 0x80)] := by
  rw [String.utf8EncodeChar, toNat_val_ofNat h]

theorem ofNat_eq_of_toNat {a : UInt8} {n : Nat} (h : n = a.toNat) : UInt8.ofNat n = a := by
  rw [h, UInt8.ofNat_toNat]

section FirstPiece
variable {a b c d : UInt8} (rest : Bytes)

theorem utf8EncodeChar_two (ha : 0xC2 ≤ a.toNat) (ha' : a.toNat < 0xE0) (hb : canFollow a b = true) :
    String.utf8EncodeChar (Char.ofNat (codePoint2 a b)) = [a, b] := by
  obtain ⟨hbounds, -⟩ := (canFollow_iff a b).mp hb
  have hcode : codePoint2 a b = (a.toNat - 0xC0) * 64 + (b.toNat - 0x80) := rfl
  rw [utf8EncodeChar_ofNat (by omega), if_neg (by omega), if_pos (by omega),
    ofNat_eq_of_toNat (a := a) (by omega), ofNat_eq_of_toNat (a := b) (by omega)]

theorem utf8EncodeChar_three (ha : 0xE0 ≤ a.toNat) (ha' : a.toNat < 0xF0)
    (hb : canFollow a b = true) (hc : isTail c = true) :
    String.utf8EncodeChar (Char.ofNat (codePoint3 a b c)) = [a, b, c] := by
  obtain ⟨hbounds, hfirst⟩ := (canFollow_iff a b).mp hb
  have htail := (isTail_iff c).mp hc
  have hcode : codePoint3 a b c =
    (a.toNat - 0xE0) * 4096 + (b.toNat - 0x80) * 64 + (c.toNat - 0x80) := rfl
  rw [utf8EncodeChar_ofNat (by omega), if_neg (by omega), if_neg (by omega), if_pos (by omega),
    ofNat_eq_of_toNat (a := a) (by omega), ofNat_eq_of_toNat (a := b) (by omega),
    ofNat_eq_of_toNat (a := c) (by omega)]

theorem utf8EncodeChar_four (ha : 0xF0 ≤ a.toNat) (ha' : a.toNat < 0xF5)
    (hb : canFollow a b = true) (hc : isTail c = true) (hd : isTail d = true) :
    String.utf8EncodeChar (Char.ofNat (codePoint4 a b c d)) = [a, b, c, d] := by
  obtain ⟨hbounds, hfirst⟩ := (canFollow_iff a b).mp hb
  have htail := (isTail_iff c).mp hc
  have hlast := (isTail_iff d).mp hd
  have hcode : codePoint4 a b c d = (a.toNat - 0xF0) * 262144 + (b.toNat - 0x80) * 4096 +
    (c.toNat - 0x80) * 64 + (d.toNat - 0x80) := rfl
  rw [utf8EncodeChar_ofNat (by omega), if_neg (by omega), if_neg (by omega), if_neg (by omega),
    ofNat_eq_of_toNat (a := a) (by omega), ofNat_eq_of_toNat (a := b) (by omega),
    ofNat_eq_of_toNat (a := c) (by omega), ofNat_eq_of_toNat (a := d) (by omega)]

end FirstPiece

theorem range_of_leadSize (a : UInt8) : (leadSize a = 1 → a.toNat < 0x80) ∧
    (leadSize a = 2 → 0xC2 ≤ a.toNat ∧ a.toNat < 0xE0) ∧
    (leadSize a = 3 → 0xE0 ≤ a.toNat ∧ a.toNat < 0xF0) ∧
    (leadSize a = 4 → 0xF0 ≤ a.toNat ∧ a.toNat < 0xF5) := by
  rw [leadSize_eq]
  repeat' split
  all_goals omega

/-- A first piece that is a character stands there in the bytes of that character. -/
theorem eq_of_firstPiece {a : UInt8} {rest r : Bytes} {c : Char}
    (h : firstPiece a rest = (.char c, r)) : a :: rest = String.utf8EncodeChar c ++ r := by
  obtain ⟨hone, htwo, hthree, hfour⟩ := range_of_leadSize a
  unfold firstPiece at h
  split at h
  · next hsize =>
    have ha := hone hsize
    cases h
    rw [utf8EncodeChar_ofNat (by omega), if_pos (by omega), UInt8.ofNat_toNat]
    rfl
  · next hsize =>
    obtain ⟨ha, ha'⟩ := htwo hsize
    split at h
    · next hb =>
      obtain ⟨hchar, rfl⟩ := Prod.mk.inj h
      obtain rfl := Piece.char.inj hchar
      rw [utf8EncodeChar_two ha ha' hb]
      rfl
    · cases h
  · next hsize =>
    obtain ⟨ha, ha'⟩ := hthree hsize
    split at h
    · next hb =>
      split at h
      · split at h
        · next hc =>
          obtain ⟨hchar, rfl⟩ := Prod.mk.inj h
          obtain rfl := Piece.char.inj hchar
          rw [utf8EncodeChar_three ha ha' hb hc]
          rfl
        · cases h
      · cases h
    · cases h
  · next hsize =>
    obtain ⟨ha, ha'⟩ := hfour hsize
    split at h
    · next hb =>
      split at h
      · split at h
        · next hc =>
          split at h
          · split at h
            · next hd =>
              obtain ⟨hchar, rfl⟩ := Prod.mk.inj h
              obtain rfl := Piece.char.inj hchar
              rw [utf8EncodeChar_four ha ha' hb hc hd]
              rfl
            · cases h
          · cases h
        · cases h
      · cases h
    · cases h
  · cases h

theorem prefix_piecesOnto (found : List Piece) (bs : Bytes) :
    found.reverse <+: piecesOnto found bs := by
  fun_induction piecesOnto found bs with
  | case1 found => exact List.prefix_rfl
  | case2 found a rest ih =>
    rw [List.reverse_cons] at ih
    exact (List.prefix_append _ _).trans ih

theorem eq_of_piecesOnto {found : List Piece} {bs : Bytes} {s : List Char}
    (h : piecesOnto found bs = found.reverse ++ s.map .char) :
    bs = s.flatMap String.utf8EncodeChar := by
  fun_induction piecesOnto found bs generalizing s with
  | case1 found =>
    obtain rfl : s = [] := by simpa using h
    rfl
  | case2 found a rest ih =>
    obtain ⟨t, ht⟩ := prefix_piecesOnto ((firstPiece a rest).1 :: found) (firstPiece a rest).2
    have hchars : (firstPiece a rest).1 :: t = s.map .char := by
      rw [← ht, List.reverse_cons, List.append_assoc] at h
      exact List.append_cancel_left h
    obtain ⟨c, s, rfl, hc, ht'⟩ := List.map_eq_cons_iff.mp hchars.symm
    have hfirst : a :: rest = String.utf8EncodeChar c ++ (firstPiece a rest).2 :=
      eq_of_firstPiece (Prod.ext hc.symm rfl)
    rw [hfirst, List.flatMap_cons, ih (s := s)]
    rw [h, List.map_cons, hc, List.reverse_cons, List.append_assoc]
    rfl

theorem exists_of_encode_append {s t : String} {rest : Bytes} (h : encode s ++ rest = encode t) :
    ∃ u, t.toList = s.toList ++ u := by
  have hprefix := prefix_piecesOnto ((s.toList.map .char).reverse ++ []) rest
  rw [← piecesOnto_flatMap, List.append_nil, List.reverse_reverse] at hprefix
  obtain ⟨ps, hps⟩ := hprefix
  have htext : s.toList.map Piece.char ++ ps = t.toList.map .char := by
    rw [hps, ← pieces_encode, ← h]
    rfl
  obtain ⟨s', u, hu, hs', -⟩ := List.map_eq_append_iff.mp htext.symm
  obtain rfl := (List.map_inj_right fun _ _ h => Piece.char.inj h).mp hs'
  exact ⟨u, hu⟩

theorem pieces_of_chars? {bs : Bytes} {s : List Char} (h : chars? bs = some s) :
    pieces bs = s.map .char := by
  rw [chars?] at h
  generalize pieces bs = ps at h
  induction ps generalizing s with
  | nil =>
    cases h
    rfl
  | cons p ps ih =>
    rw [List.mapM_cons] at h
    simp only [bind, Option.bind_eq_some_iff] at h
    obtain ⟨c, hc, s', hs', heq⟩ := h
    cases heq
    cases p with
    | broken n => cases hc
    | char a =>
      cases hc
      rw [List.map_cons, ih hs']

/-- A byte string that is a text consists of the bytes of the text. -/
theorem eq_encode_of_decode? {bs : Bytes} {s : String} (h : decode? bs = some s) :
    bs = encode s := by
  obtain ⟨cs, hcs, rfl⟩ := Option.map_eq_some_iff.mp h
  rw [encode, String.toList_ofList]
  exact eq_of_piecesOnto (pieces_of_chars? hcs)

theorem decode?_eq_empty_iff {bs : Bytes} : decode? bs = some "" ↔ bs = [] := by
  constructor
  · exact eq_encode_of_decode?
  · rintro rfl
    exact decode?_encode ""

end ToastRelay.Text
