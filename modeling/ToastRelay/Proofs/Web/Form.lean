import ToastRelay.Proofs.Text.Utf8
import ToastRelay.Proofs.Web.Percent
import ToastRelay.Text.Fields
import ToastRelay.Web.Form

/-!
# Reading forms

A form is read by cutting it at its `&`, each of the parts at its first `=`, and by putting a blank
for each plus sign and a byte for each percent sign and two digits in the halves. What a name or a
value is encoded in holds neither of the separators, and no plus or percent sign that stands for
itself. So a form gives back the names and values that it was made of, whatever these are.
-/

namespace ToastRelay.Web.Form
set_option autoImplicit false

open Text

def plusToBlank (c : Char) : Char := if c = '+' then ' ' else c

def decodeChars? (s : List Char) : Option String :=
  decode? (percentDecode (Text.encode (String.ofList (s.map plusToBlank))))

/-- The name and the value in a part of a form; without a `=` the value is empty. -/
def decodePair? (s : List Char) : Option (String × String) := do
  let (name, value) := cut '=' s
  return (← decodeChars? name, ← decodeChars? (value.getD []))

def decode? (s : String) : Option (List (String × String)) :=
  ((fields '&' s.toList).filter (· ≠ [])).mapM decodePair?

def IsEncoded (c : Char) : Prop := c.toNat < 0x80 ∧ c ≠ '&' ∧ c ≠ '='

instance (c : Char) : Decidable (IsEncoded c) :=
  inferInstanceAs (Decidable (c.toNat < 0x80 ∧ c ≠ '&' ∧ c ≠ '='))

section Byte
variable {b : UInt8}

theorem plain_of_staysPlain (h : staysPlain b = true) :
    b.toNat < 0x80 ∧ b ≠ 0x25 ∧ Char.ofNat b.toNat ≠ '+' ∧ IsEncoded (Char.ofNat b.toNat) := by
  have hall : ∀ n < 256, staysPlain (UInt8.ofNat n) = true →
      n < 0x80 ∧ UInt8.ofNat n ≠ 0x25 ∧ Char.ofNat n ≠ '+' ∧ IsEncoded (Char.ofNat n) := by
    decide +kernel
  have hb := hall b.toNat b.toNat_lt
  rw [UInt8.ofNat_toNat] at hb
  exact hb h

theorem hexDigit_spec {n : Nat} (h : n < 16) :
    isHexDigit (hexDigit n) = true ∧ digitOf (hexDigit n) = n ∧ hexDigit n ≠ '+' ∧
      IsEncoded (hexDigit n) := by
  have hall : ∀ n < 16, isHexDigit (hexDigit n) = true ∧ digitOf (hexDigit n) = n ∧
      hexDigit n ≠ '+' ∧ IsEncoded (hexDigit n) := by
    decide
  exact hall n h

theorem isEncoded_of_mem_encodeByte {c : Char} (h : c ∈ encodeByte b) : IsEncoded c := by
  rw [encodeByte] at h
  split at h
  · rw [List.mem_singleton.mp h]
    decide
  · split at h
    · next hplain =>
      rw [List.mem_singleton.mp h]
      exact (plain_of_staysPlain hplain).2.2.2
    · have hlt := b.toNat_lt
      have hhigh := hexDigit_spec (n := b.toNat / 16) (by omega)
      have hlow := hexDigit_spec (n := b.toNat % 16) (by omega)
      simp only [List.mem_cons, List.not_mem_nil, or_false] at h
      rcases h with rfl | rfl | rfl
      · decide
      · exact hhigh.2.2.2
      · exact hlow.2.2.2

theorem toNat_ofNat_toNat {c : Char} (h : c.toNat < 0x80) :
    Char.ofNat (UInt8.ofNat c.toNat).toNat = c := by
  rw [toNat_ofNat_of_lt (by omega), Char.ofNat_toNat]

theorem percentDecodeOnto_encodeByte (done rest : Bytes) (b : UInt8) :
    percentDecodeOnto done
        (((encodeByte b).map plusToBlank).flatMap String.utf8EncodeChar ++ rest) =
      percentDecodeOnto (b :: done) rest := by
  rw [encodeByte]
  split
  · next hblank =>
    subst hblank
    exact percentDecodeOnto_cons_of_ne (by decide) done rest
  · split
    · next hplain =>
      obtain ⟨hlt, hne, hplus, -⟩ := plain_of_staysPlain hplain
      have hcode : (Char.ofNat b.toNat).toNat = b.toNat := toNat_val_ofNat (Or.inl (by omega))
      have hbytes : ([Char.ofNat b.toNat].map plusToBlank).flatMap String.utf8EncodeChar = [b] := by
        rw [List.map_singleton, plusToBlank, if_neg hplus, List.flatMap_singleton,
          utf8EncodeChar_of_ascii (by omega), hcode, UInt8.ofNat_toNat]
      rw [hbytes]
      exact percentDecodeOnto_cons_of_ne hne done rest
    · have hlt := b.toNat_lt
      obtain ⟨hhex, hvalue, hplus, hascii, -⟩ := hexDigit_spec (n := b.toNat / 16) (by omega)
      obtain ⟨hhex', hvalue', hplus', hascii', -⟩ := hexDigit_spec (n := b.toNat % 16) (by omega)
      generalize hexDigit (b.toNat / 16) = x at hhex hvalue hplus hascii
      generalize hexDigit (b.toNat % 16) = y at hhex' hvalue' hplus' hascii'
      have hbytes : (['%', x, y].map plusToBlank).flatMap String.utf8EncodeChar =
          [0x25, UInt8.ofNat x.toNat, UInt8.ofNat y.toNat] := by
        simp [plusToBlank, hplus, hplus', utf8EncodeChar_of_ascii hascii,
          utf8EncodeChar_of_ascii hascii', utf8EncodeChar_of_ascii (c := '%') (by decide)]
      have hb : UInt8.ofNat (16 * digitOf x + digitOf y) = b :=
        ofNat_eq_of_toNat (by omega)
      rw [hbytes, List.cons_append, List.cons_append, List.cons_append, List.nil_append,
        percentDecodeOnto_percent (by rwa [toNat_ofNat_toNat hascii])
          (by rwa [toNat_ofNat_toNat hascii']),
        toNat_ofNat_toNat hascii, toNat_ofNat_toNat hascii', hb]

end Byte

theorem percentDecode_encodeChars (s : String) :
    percentDecode (Text.encode (String.ofList ((encodeChars s).map plusToBlank))) =
      Text.encode s := by
  have honto : ∀ (bytes done : Bytes), percentDecodeOnto done
      (((bytes.flatMap encodeByte).map plusToBlank).flatMap String.utf8EncodeChar) =
        done.reverse ++ bytes := by
    intro bytes
    induction bytes with
    | nil => exact fun done => by simp [percentDecodeOnto]
    | cons b bytes ih =>
      intro done
      rw [List.flatMap_cons, List.map_append, List.flatMap_append,
        percentDecodeOnto_encodeByte, ih, List.reverse_cons, List.append_assoc,
        List.singleton_append]
  rw [Text.encode, String.toList_ofList]
  exact honto (Text.encode s) []

theorem decodeChars?_encodeChars (s : String) : decodeChars? (encodeChars s) = some s := by
  rw [decodeChars?, percentDecode_encodeChars, decode?_encode]

theorem isEncoded_of_mem_encodeChars {s : String} {c : Char} (h : c ∈ encodeChars s) :
    IsEncoded c := by
  obtain ⟨b, -, hc⟩ := List.mem_flatMap.mp h
  exact isEncoded_of_mem_encodeByte hc

theorem decodePair?_pairChars (pair : String × String) :
    decodePair? (pairChars pair) = some pair := by
  have hname : '=' ∉ encodeChars pair.1 := fun h => (isEncoded_of_mem_encodeChars h).2.2 rfl
  rw [decodePair?, pairChars, cut_append_cons hname]
  simp [decodeChars?_encodeChars]

theorem isAscii_of_mem_pairChars {pair : String × String} {c : Char} (h : c ∈ pairChars pair) :
    c.toNat < 0x80 ∧ c ≠ '&' := by
  rcases List.mem_append.mp h with h | h
  · exact ⟨(isEncoded_of_mem_encodeChars h).1, (isEncoded_of_mem_encodeChars h).2.1⟩
  · rcases List.mem_cons.mp h with rfl | h
    · decide
    · exact ⟨(isEncoded_of_mem_encodeChars h).1, (isEncoded_of_mem_encodeChars h).2.1⟩

theorem toList_encode (pairs : List (String × String)) :
    (encode pairs).toList = joinFields '&' (pairs.map pairChars) := String.toList_ofList

theorem fields_encode (pairs : List (String × String)) :
    (fields '&' (encode pairs).toList).filter (· ≠ []) = pairs.map pairChars := by
  rw [toList_encode]
  cases pairs with
  | nil => rfl
  | cons pair pairs =>
    have hnone : ∀ f ∈ (pair :: pairs).map pairChars, '&' ∉ f := by
      intro f hf hand
      obtain ⟨p, -, rfl⟩ := List.mem_map.mp hf
      exact (isAscii_of_mem_pairChars hand).2 rfl
    rw [fields_joinFields (by simp) hnone, List.filter_eq_self]
    intro f hf
    obtain ⟨p, -, rfl⟩ := List.mem_map.mp hf
    simp [pairChars]

/-- A form is read as the names and values it was made of. -/
theorem decode?_encode (pairs : List (String × String)) : decode? (encode pairs) = some pairs := by
  have hread : decodePair? ∘ pairChars = fun pair => pure pair :=
    funext decodePair?_pairChars
  rw [decode?, fields_encode, List.mapM_map, hread, List.mapM_pure, List.map_id']
  rfl

theorem isAscii_of_mem_encode {pairs : List (String × String)} {c : Char}
    (h : c ∈ (encode pairs).toList) : c.toNat < 0x80 := by
  rw [toList_encode] at h
  rcases mem_of_mem_joinFields h with rfl | ⟨f, hf, hc⟩
  · decide
  · obtain ⟨pair, -, rfl⟩ := List.mem_map.mp hf
    exact (isAscii_of_mem_pairChars hc).1

end ToastRelay.Web.Form
