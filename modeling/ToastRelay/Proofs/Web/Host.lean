import ToastRelay.Proofs.Text.Utf8
import ToastRelay.Proofs.Web.Percent
import Mathlib.Data.Bool.AllAny
import Mathlib.Data.List.TakeWhile

/-!
# Characters of a host

A host that is given in ASCII, without percent signs, is looked at as it is written. So none of the
characters that have another meaning in an address gets into it, however its labels are read. The
one exception is a host in brackets, which is made of hexadecimal digits, points and eight colons at
most.
-/

namespace ToastRelay.Text
set_option autoImplicit false

theorem mem_fields (sep : Char) {c : Char} {s : List Char} (h : c ∈ s) :
    c = sep ∨ ∃ f ∈ fields sep s, c ∈ f := by
  apply mem_of_mem_joinFields
  rw [joinFields_fields]
  exact h

theorem toNat_of_isAlphanum {c : Char} (h : c.isAlphanum = true) :
    0x30 ≤ c.toNat ∧ c.toNat ≤ 0x7A := by
  delta Char.isAlphanum Char.isAlpha Char.isLower Char.isUpper Char.isDigit at h
  simp only [Bool.or_eq_true, Bool.and_eq_true, decide_eq_true_eq, ge_iff_le,
    UInt32.le_iff_toNat_le, Char.reduceVal, UInt32.reduceToNat] at h
  simp only [← Char.toNat_val]
  omega

section Option
variable {α β : Type} {f : α → Option β}

theorem mapM_eq_some_of_forall {g : α → β} {l : List α} (h : ∀ a ∈ l, f a = some (g a)) :
    l.mapM f = some (l.map g) := by
  induction l with
  | nil => rfl
  | cons a l ih =>
    rw [List.forall_mem_cons] at h
    rw [List.mapM_cons, h.1, ih h.2]
    rfl

theorem exists_of_mapM_eq_some {l : List α} {bs : List β} (h : l.mapM f = some bs) :
    ∀ a ∈ l, ∃ b, f a = some b := by
  induction l generalizing bs with
  | nil => exact fun a ha => absurd ha List.not_mem_nil
  | cons a l ih =>
    rw [List.mapM_cons] at h
    obtain ⟨b, hb, h⟩ := Option.bind_eq_some_iff.mp h
    obtain ⟨bs', hbs', -⟩ := Option.bind_eq_some_iff.mp h
    exact List.forall_mem_cons.mpr ⟨⟨b, hb⟩, ih hbs'⟩

end Option

end ToastRelay.Text

namespace ToastRelay.Web
set_option autoImplicit false

open Text

namespace Idna

theorem isForbidden_of_digitValue {c : Char} (h : (digitValue c).isSome) :
    isForbidden c = false := by
  have hletter : c.isAlphanum = true := by
    unfold digitValue at h
    delta Char.isAlphanum Char.isAlpha
    simp only [Bool.or_eq_true]
    split at h
    · next hlower => exact Or.inl (Or.inr hlower)
    · split at h
      · next hupper => exact Or.inl (Or.inl hupper)
      · split at h
        · next hdigit => exact Or.inr hdigit
        · cases h
  have hmarks : ∀ d ∈ ['%', '#', '/', ':', '<', '>', '?', '@', '[', '\\', ']', '^', '|'],
      d.isAlphanum = false := List.all_iff_forall_prop.mp (by decide)
  have hmark : c ∉ ['%', '#', '/', ':', '<', '>', '?', '@', '[', '\\', ']', '^', '|'] := by
    intro hc
    rw [hmarks c hc] at hletter
    cases hletter
  have hrange := toNat_of_isAlphanum hletter
  simp only [isForbidden, Bool.or_eq_false_iff, decide_eq_false_iff_not, List.contains_eq_mem]
  exact ⟨⟨by omega, by omega⟩, hmark⟩

theorem digits_of_readNumber {bias place weight position : Nat} {s : List Char}
    {r : Nat × List Char} (h : readNumber bias s place weight position = some r) :
    ∃ digits, s = digits ++ r.2 ∧ ∀ c ∈ digits, (digitValue c).isSome := by
  induction s generalizing place weight position with
  | nil => simp [readNumber] at h
  | cons c s ih =>
    simp only [readNumber] at h
    split at h
    · cases h
    · next d hd =>
      have hc : (digitValue c).isSome := by rw [hd]; rfl
      split at h
      · cases h
      · split at h
        · cases h
          exact ⟨[c], rfl, by simpa using hc⟩
        · split at h
          · cases h
          · obtain ⟨digits, rfl, hdigits⟩ := ih h
            exact ⟨c :: digits, rfl, List.forall_mem_cons.mpr ⟨hc, hdigits⟩⟩

theorem mem_insertAt {c d : Char} {n : Nat} {s : List Char} (h : d ∈ s) : d ∈ insertAt c n s := by
  induction n generalizing s with
  | zero => exact List.mem_cons_of_mem c h
  | succ n ih =>
    cases s with
    | nil => cases h
    | cons e s =>
      rcases List.mem_cons.mp h with rfl | h
      · exact List.mem_cons_self
      · exact List.mem_cons_of_mem e (ih h)

/-- What is inserted is described by digits, and it does not replace anything. -/
theorem of_insertAll {s label out : List Char} {position code bias : Nat}
    (h : insertAll s label position code bias = some out) :
    (∀ c ∈ label, c ∈ out) ∧ ∀ c ∈ s, (digitValue c).isSome := by
  induction s, label, position, code, bias using insertAll.induct with
  | case1 s label position code bias hempty =>
    rw [insertAll, if_pos hempty] at h
    obtain rfl : label = out := Option.some.inj h
    obtain rfl : s = [] := List.isEmpty_iff.mp hempty
    exact ⟨fun c hc => hc, fun c hc => absurd hc List.not_mem_nil⟩
  | case2 s label position code bias hempty hnumber =>
    rw [insertAll, if_neg hempty] at h
    split at h
    · cases h
    · next hsome => simp [hnumber] at hsome
  | case3 s label position code bias hempty reached rest hnumber length code' slot hcode ih =>
    rw [insertAll, if_neg hempty] at h
    split at h
    · cases h
    · next reached' rest' hsome =>
      obtain ⟨rfl, rfl⟩ := Prod.mk.inj (Option.some.inj (hnumber.symm.trans hsome))
      rw [if_pos hcode] at h
      obtain ⟨hlabel, hrest⟩ := ih h
      obtain ⟨digits, rfl, hdigits⟩ := digits_of_readNumber hnumber
      refine ⟨fun c hc => hlabel c (mem_insertAt hc), fun c hc => ?_⟩
      rcases List.mem_append.mp hc with hc | hc
      · exact hdigits c hc
      · exact hrest c hc
  | case4 s label position code bias hempty reached rest hnumber length code' hcode =>
    rw [insertAll, if_neg hempty] at h
    split at h
    · cases h
    · next reached' rest' hsome =>
      obtain ⟨rfl, rfl⟩ := Prod.mk.inj (Option.some.inj (hnumber.symm.trans hsome))
      rw [if_neg hcode] at h
      cases h

theorem of_decodeLabel {s out : List Char} (h : decodeLabel s = some out) :
    ∀ c ∈ s, c ∈ out ∨ c = '-' ∨ (digitValue c).isSome := by
  unfold decodeLabel at h
  dsimp only at h
  generalize htail : (s.reverse.takeWhile (· ≠ '-')).reverse = tail at h
  have hsplit : ∃ front, s = front ++ tail ∧ (front = [] ∨ ∃ f, front = f ++ ['-']) := by
    refine ⟨(s.reverse.dropWhile (· ≠ '-')).reverse, ?_, ?_⟩
    · rw [← htail, ← List.reverse_append, List.takeWhile_append_dropWhile, List.reverse_reverse]
    · have hhead := List.head?_dropWhile_not (fun c : Char => decide (c ≠ '-')) s.reverse
      cases hrest : s.reverse.dropWhile (· ≠ '-') with
      | nil => exact Or.inl rfl
      | cons c r =>
        rw [hrest] at hhead
        obtain rfl : c = '-' := by simpa using hhead
        exact Or.inr ⟨r.reverse, List.reverse_cons⟩
  obtain ⟨front, rfl, hfront⟩ := hsplit
  split at h
  · exact fun c hc => Or.inr (Or.inr ((of_insertAll h).2 c hc))
  · next hhead =>
    rcases hfront with rfl | ⟨f, rfl⟩
    · simp at hhead
    · have htake : (f ++ ['-'] ++ tail).take ((f ++ ['-'] ++ tail).length - tail.length - 1) = f := by
        have hlength : (f ++ ['-'] ++ tail).length - tail.length - 1 = f.length := by
          simp only [List.length_append, List.length_singleton]
          omega
        rw [hlength, List.append_assoc, List.take_left]
      rw [htake] at h
      obtain ⟨hkept, hdigits⟩ := of_insertAll h
      intro c hc
      rcases List.mem_append.mp hc with hc | hc
      · rcases List.mem_append.mp hc with hc | hc
        · exact Or.inl (hkept c hc)
        · exact Or.inr (Or.inl (List.mem_singleton.mp hc))
      · exact Or.inr (Or.inr (hdigits c hc))

theorem isForbidden_of_checkedLabel {s out : List Char} (h : checkedLabel s = some out) :
    ∀ c ∈ s, isForbidden c = false := by
  have hmayHold : ∀ s : List Char, s.all mayHold = true → ∀ c ∈ s, isForbidden c = false := by
    intro s hs c hc
    have hc' := List.all_eq_true.mp hs c hc
    rw [mayHold, Bool.and_eq_true] at hc'
    simpa using hc'.2
  have hfits : ∀ s : List Char, labelFits s = true → s.all mayHold = true := by
    intro s hs
    rw [labelFits, Bool.and_eq_true, Bool.and_eq_true] at hs
    exact hs.1.1
  unfold checkedLabel at h
  split at h
  · next hencoded =>
    dsimp only at h
    split at h
    · cases h
    · split at h
      · cases h
      · next label hlabel =>
        split at h
        · next hvalid =>
          rw [Bool.and_eq_true, Bool.and_eq_true] at hvalid
          obtain ⟨written, rfl⟩ := List.isPrefixOf_iff_prefix.mp hencoded
          rw [List.drop_left] at hlabel
          intro c hc
          rcases List.mem_append.mp hc with hc | hc
          · have hstart : ∀ c ∈ encodedStart, isForbidden c = false :=
              List.all_iff_forall_prop.mp (by decide)
            exact hstart c hc
          · rcases of_decodeLabel hlabel c hc with hc | rfl | hc
            · exact hmayHold label (hfits label hvalid.1.1) c hc
            · decide
            · exact isForbidden_of_digitValue hc
        · cases h
  · split at h
    · split at h
      · next hall => exact hmayHold s hall
      · cases h
    · split at h
      · next hvalid =>
        rw [Bool.and_eq_true] at hvalid
        exact hmayHold s (hfits s hvalid.1)
      · cases h

theorem toNat_toLower_lt {c : Char} (h : c.toNat < 0x80) : c.toLower.toNat < 0x80 := by
  have hall : ∀ n < 0x80, (Char.ofNat n).toLower.toNat < 0x80 := by decide
  have hc := hall c.toNat h
  rwa [Char.ofNat_toNat] at hc

theorem not_mem_of_labels? {host : List Char} {ls : List (List Char)} (h : labels? host = some ls)
    (hascii : ∀ c ∈ host, c.toNat < 0x80) {c : Char} (hc : c ∈ [':', '[', ']']) : c ∉ host := by
  intro hmem
  have hmapped : host.mapM mapping = some (host.map fun c => [c.toLower]) :=
    mapM_eq_some_of_forall fun c hc => by rw [mapping, if_pos (hascii c hc)]
  have hflat : (host.map fun c => [c.toLower]).flatten = host.map Char.toLower := by
    rw [← List.flatMap_def, ← List.map_eq_flatMap]
  have hlower : isAscii (host.map Char.toLower) = true := by
    simpa [isAscii] using fun c hc => toNat_toLower_lt (hascii c hc)
  unfold labels? at h
  rw [hmapped] at h
  simp only [hflat, if_pos hlower] at h
  split at h
  · cases h
  · next labels hlabels =>
    have hmem' : c ∈ host.map Char.toLower := by
      have hkeep : ∀ c ∈ [':', '[', ']'], c.toLower = c :=
        List.all_iff_forall_prop.mp (by decide)
      exact List.mem_map.mpr ⟨c, hmem, hkeep c hc⟩
    have hforbidden : ∀ c ∈ [':', '[', ']'], c ≠ '.' ∧ isForbidden c = true :=
      List.all_iff_forall_prop.mp (by decide)
    rcases mem_fields '.' hmem' with hpoint | ⟨f, hf, hcf⟩
    · exact (hforbidden c hc).1 hpoint
    · obtain ⟨out, hout⟩ := exists_of_mapM_eq_some hlabels f hf
      have hfree := isForbidden_of_checkedLabel hout c hcf
      rw [(hforbidden c hc).2] at hfree
      cases hfree

end Idna

theorem notMem_encode_of_ascii {s : List Char} (hascii : ∀ c ∈ s, c.toNat < 0x80)
    (hpercent : '%' ∉ s) : (0x25 : UInt8) ∉ encode (String.ofList s) := by
  intro hmem
  rw [encode, String.toList_ofList] at hmem
  obtain ⟨c, hc, hbyte⟩ := List.mem_flatMap.mp hmem
  have hcode : c.toNat < 0x80 := hascii c hc
  rw [utf8EncodeChar_of_ascii hcode, List.mem_singleton] at hbyte
  have hvalue : c.toNat = 0x25 := by
    have hnat := congrArg UInt8.toNat hbyte
    rw [toNat_ofNat_of_lt (by omega)] at hnat
    exact hnat.symm
  have hpercent' : c = '%' := by
    rw [← Char.ofNat_toNat c, hvalue]
  exact hpercent (hpercent' ▸ hc)

/-- A name that is valid as it is written holds no colon and no bracket. -/
theorem notMem_of_isHostName {host : List Char} (h : isHostName host = true)
    (hascii : ∀ c ∈ host, c.toNat < 0x80) (hpercent : '%' ∉ host) {c : Char}
    (hc : c ∈ [':', '[', ']']) : c ∉ host := by
  rw [isHostName, percentDecode_of_notMem (notMem_encode_of_ascii hascii hpercent), chars?_encode,
    String.toList_ofList] at h
  dsimp only at h
  split at h
  · cases h
  · next labels hlabels => exact Idna.not_mem_of_labels? hlabels hascii hc

theorem isDigit_of_isByte {s : List Char} (h : isByte s = true) : ∀ c ∈ s, c.isDigit = true := by
  unfold isByte at h
  split at h
  · cases h
  · exact List.all_iff_forall_prop.mp (by decide)
  · cases h
  · rw [Bool.and_eq_true] at h
    exact List.all_eq_true.mp h.1

theorem of_isDotted {s : List Char} (h : isDotted s = true) :
    ∀ c ∈ s, isHexDigit c = true ∧ c ≠ ':' ∨ c = '.' := by
  intro c hc
  rw [isDotted, Bool.and_eq_true] at h
  rcases mem_fields '.' hc with hpoint | ⟨f, hf, hcf⟩
  · exact Or.inr hpoint
  · have hdigit := isDigit_of_isByte (List.all_eq_true.mp h.2 f hf) c hcf
    refine Or.inl ⟨by simp [isHexDigit, hdigit], ?_⟩
    rintro rfl
    exact absurd hdigit (by decide)

theorem group_append (s : List Char) :
    s = (s.takeWhile isHexDigit).take 4 ++ s.drop ((s.takeWhile isHexDigit).take 4).length ∧
      ∀ c ∈ (s.takeWhile isHexDigit).take 4, isHexDigit c = true ∧ c ≠ ':' := by
  refine ⟨?_, fun c hc => ?_⟩
  · have hprefix := (List.take_prefix 4 _).trans (List.takeWhile_prefix isHexDigit (l := s))
    exact (List.prefix_iff_eq_append.mp hprefix).symm
  · have hdigit := List.mem_takeWhile_imp (List.mem_of_mem_take hc)
    refine ⟨hdigit, ?_⟩
    rintro rfl
    exact absurd hdigit (by decide)

theorem completesLongAddress_cases {c : Char} {r : List Char} {count : Nat} {shortened : Bool}
    (hc : c ≠ ':') (h : completesLongAddress (c :: r) count shortened = true) :
    count ≠ 8 ∧ ((∀ d ∈ c :: r, d ≠ ':' ∧ (isHexDigit d = true ∨ d = '.')) ∨
      ∃ group after, c :: r = group ++ ':' :: after ∧ after ≠ [] ∧
        (∀ d ∈ group, isHexDigit d = true ∧ d ≠ ':') ∧
        completesLongAddress after (count + 1) shortened = true) := by
  obtain ⟨hsplit, hgroup⟩ := group_append (c :: r)
  rw [completesLongAddress] at h
  split at h
  · cases h
  · next hne =>
    refine ⟨hne, ?_⟩
    dsimp only at h
    split at h
    · next hdrop =>
      rw [hdrop, List.append_nil] at hsplit
      refine Or.inl fun d hd => ?_
      rw [hsplit] at hd
      exact ⟨(hgroup d hd).2, Or.inl (hgroup d hd).1⟩
    · rw [Bool.and_eq_true, Bool.and_eq_true] at h
      refine Or.inl fun d hd => ?_
      rcases of_isDotted h.1.2 d hd with ⟨hdigit, hcolon⟩ | rfl
      · exact ⟨hcolon, Or.inl hdigit⟩
      · exact ⟨by decide, Or.inr rfl⟩
    · next after hdrop =>
      rw [hdrop] at hsplit
      rw [Bool.and_eq_true] at h
      exact Or.inr ⟨_, after, hsplit, by simpa using h.1, hgroup, h.2⟩
    · cases h

/-- What completes an address of eight groups has no more colons than groups are left. -/
theorem of_completesLongAddress {s : List Char} {count : Nat} {shortened : Bool}
    (h : completesLongAddress s count shortened = true) (hcount : count ≤ 8) :
    (∀ c ∈ s, isHexDigit c = true ∨ c = ':' ∨ c = '.') ∧
      (s = [] ∨ count + s.count ':' ≤ if shortened then 7 else 8) := by
  -- A whole group of digits is dropped at a time, so the induction is on the length. Nothing need
  -- follow a double colon, and then the count may have come to eight already.
  induction hlength : s.length using Nat.strong_induction_on generalizing s count shortened with
  | _ n ih =>
    match s, hlength with
    | [], _ => exact ⟨fun c hc => absurd hc List.not_mem_nil, Or.inl rfl⟩
    | c :: r, hlength =>
      by_cases hc : c = ':'
      · subst hc
        rw [completesLongAddress] at h
        split at h
        · cases h
        · next hne =>
          rw [if_pos rfl, Bool.and_eq_true] at h
          obtain ⟨hr, hcolons⟩ := ih r.length (by simp at hlength; omega) h.2 (by omega) rfl
          have hlong : shortened = false := by simpa using h.1
          rw [if_pos rfl] at hcolons
          refine ⟨List.forall_mem_cons.mpr ⟨by decide, hr⟩, Or.inr ?_⟩
          rw [List.count_cons_self, hlong]
          rcases hcolons with rfl | hcolons <;> simp <;> omega
      · obtain ⟨hne, hplain | ⟨group, after, hsplit, hafter, hgroup, hmore⟩⟩ :=
          completesLongAddress_cases hc h
        · refine ⟨fun d hd => (hplain d hd).2.imp_right Or.inr, Or.inr ?_⟩
          rw [List.count_eq_zero.mpr fun hcolon => (hplain _ hcolon).1 rfl]
          split <;> omega
        · have hcolon : group.count ':' = 0 := List.count_eq_zero.mpr fun hd => (hgroup _ hd).2 rfl
          have hshorter : after.length < n := by
            rw [← hlength, hsplit, List.length_append, List.length_cons]
            omega
          obtain ⟨hr, hcolons⟩ := ih after.length hshorter hmore (by omega) rfl
          rw [hsplit]
          refine ⟨fun d hd => ?_, Or.inr ?_⟩
          · rcases List.mem_append.mp hd with hd | hd
            · exact Or.inl (hgroup d hd).1
            · rcases List.mem_cons.mp hd with rfl | hd
              · exact Or.inr (Or.inl rfl)
              · exact hr d hd
          · rw [List.count_append, List.count_cons_self, hcolon]
            have hbound := hcolons.resolve_left hafter
            omega

theorem of_isLongAddress {s : List Char} (h : isLongAddress s = true) :
    (∀ c ∈ s, isHexDigit c = true ∨ c = ':' ∨ c = '.') ∧ s.count ':' ≤ 8 := by
  match s with
  | [] => cases h
  | [c] => cases h
  | c :: d :: r =>
    rw [isLongAddress] at h
    split at h
    · next hc =>
      rw [Bool.and_eq_true, decide_eq_true_eq] at h
      obtain ⟨hr, hcolons⟩ := of_completesLongAddress h.2 (by omega)
      rw [hc, h.1]
      refine ⟨by simpa using hr, ?_⟩
      rw [List.count_cons_self, List.count_cons_self]
      rcases hcolons with rfl | hcolons
      · simp
      · rw [if_pos rfl] at hcolons
        omega
    · obtain ⟨hs, hcolons⟩ := of_completesLongAddress h (by omega)
      refine ⟨hs, ?_⟩
      simpa using hcolons

theorem isHost_cases {host : List Char} (h : isHost host = true)
    (hascii : ∀ c ∈ host, c.toNat < 0x80) (hpercent : '%' ∉ host) :
    (∃ address, host = '[' :: (address ++ [']']) ∧
      (∀ c ∈ address, isHexDigit c = true ∨ c = ':' ∨ c = '.') ∧ address.count ':' ≤ 8) ∨
    ∀ c ∈ host, c ∉ [':', '[', ']'] := by
  unfold isHost at h
  split at h
  · next r =>
    rw [Bool.and_eq_true, decide_eq_true_eq] at h
    obtain ⟨address, rfl⟩ := List.getLast?_eq_some_iff.mp h.1
    rw [List.dropLast_concat] at h
    exact Or.inl ⟨address, rfl, of_isLongAddress h.2⟩
  · exact Or.inr fun c hc hmark => notMem_of_isHostName h hascii hpercent hmark hc

end ToastRelay.Web
