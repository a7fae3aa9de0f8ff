import ToastRelay.Web.Uri
import Mathlib.Data.List.Basic

/-!
# Absolute targets

A request can be sent to a target only if the target is absolute. Such a target is read in three
stages, each of which takes up where the one before has stopped: the scheme, the authority, and path
and query. Of an authority the characters are gone through one by one, and what was seen in the end
decides.
-/

namespace ToastRelay.Web
set_option autoImplicit false

theorem takeWhile_append_of_stop {p : Char → Bool} {s t : List Char} (hs : ∀ c ∈ s, p c = true)
    (ht : ∀ c ∈ t.head?, p c = false) : (s ++ t).takeWhile p = s := by
  rw [List.takeWhile_append_of_pos hs]
  cases t with
  | nil => simp
  | cons c t => simp [ht c rfl]

theorem exists_of_bind_eq_ok {ε α β : Type} {x : Except ε α} {f : α → Except ε β} {b : β}
    (h : x >>= f = .ok b) : ∃ a, x = .ok a ∧ f a = .ok b := by
  cases x with
  | error e => cases h
  | ok a => exact ⟨a, rfl, h⟩

namespace Uri

def absolute? (text : String) : Option Uri :=
  (ofText text).toOption.filter (·.scheme.isSome)

theorem absolute?_eq_some {text : String} {uri : Uri} :
    absolute? text = some uri ↔ ofText text = .ok uri ∧ uri.scheme.isSome := by
  rw [absolute?, Option.filter_eq_some_iff]
  cases ofText text <;> simp [Except.toOption]

theorem authority_ne_nil {text : String} {uri : Uri} (h : absolute? text = some uri) :
    uri.authority ≠ [] := by
  obtain ⟨huri, hscheme⟩ := absolute?_eq_some.mp h
  unfold ofText at huri
  dsimp only at huri
  split at huri
  · obtain ⟨_, hthrow, -⟩ := exists_of_bind_eq_ok huri
    cases hthrow
  split at huri
  · cases huri
  · cases huri
    cases hscheme
  · obtain ⟨_, -, huri⟩ := exists_of_bind_eq_ok huri
    cases huri
    cases hscheme
  · split at huri
    · obtain ⟨_, hthrow, -⟩ := exists_of_bind_eq_ok huri
      cases hthrow
    · obtain ⟨_, -, huri⟩ := exists_of_bind_eq_ok huri
      cases huri
      cases hscheme
  · obtain ⟨front, -, huri⟩ := exists_of_bind_eq_ok huri
    cases front with
    | none =>
      obtain ⟨_, -, huri⟩ := exists_of_bind_eq_ok huri
      split at huri
      · obtain ⟨_, hthrow, -⟩ := exists_of_bind_eq_ok huri
        cases hthrow
      · cases huri
        cases hscheme
    | some front =>
      obtain ⟨_, -, huri⟩ := exists_of_bind_eq_ok huri
      split at huri
      · obtain ⟨_, hthrow, -⟩ := exists_of_bind_eq_ok huri
        cases hthrow
      · next hne =>
        obtain ⟨_, -, huri⟩ := exists_of_bind_eq_ok huri
        cases huri
        exact hne

theorem exists_cons_of_scheme? {s scheme rest : List Char}
    (h : scheme? s = .ok (some (scheme, rest))) : ∃ c d r, s = c :: d :: r ∧ c ≠ '/' := by
  have hfront : ∀ n, (s.take (n + 2)).map Char.toLower = 'h' :: 't' :: [] ++
      ((s.take (n + 2)).map Char.toLower).drop 2 → ∃ c d r, s = c :: d :: r ∧ c ≠ '/' := by
    intro n hn
    match s, hn with
    | c :: d :: r, hn =>
      refine ⟨c, d, r, rfl, ?_⟩
      rintro rfl
      simp at hn
    | [c], hn => simp at hn
    | [], hn => simp at hn
  unfold scheme? at h
  dsimp only at h
  split at h
  · next h7 => exact hfront 5 (by rw [h7]; rfl)
  · split at h
    · next h8 => exact hfront 6 (by rw [h8]; rfl)
    · split at h
      · cases h
      · next hlength =>
        match s, hlength with
        | c :: d :: r, _ =>
          refine ⟨c, d, r, rfl, ?_⟩
          rintro rfl
          simp [otherScheme, isSchemeCharacter] at h
        | [c], hlength => simp at hlength
        | [], hlength => simp at hlength

/-- A text is an absolute target if each of its three stages is read. -/
theorem isSome_absolute? {text : String} (hshort : text.utf8ByteSize ≤ longest)
    {scheme rest a rest' path : List Char} {query : Option (List Char)}
    (hscheme : scheme? text.toList = .ok (some (scheme, rest)))
    (hauthority : splitAuthority rest = .ok (a, rest')) (hne : a ≠ [])
    (htail : pathAndQuery rest' = .ok (path, query)) : (absolute? text).isSome := by
  obtain ⟨c, d, r, hs, hc⟩ := exists_cons_of_scheme? hscheme
  have huri : ofText text = .ok ⟨some scheme, a, rooted path, query⟩ := by
    unfold ofText
    simp only [if_neg (Nat.not_lt.mpr hshort)]
    split
    · next hnil => simp [hs] at hnil
    · next hstar => simp [hs] at hstar
    · next hslash => simp [hs, hc] at hslash
    · next hone => simp [hs] at hone
    · simp [hscheme, hauthority, hne, htail, bind, Except.bind, pure, Except.pure]
  rw [Option.isSome_iff_exists]
  exact ⟨_, absolute?_eq_some.mpr ⟨huri, rfl⟩⟩

namespace Scan

theorem push_plain {c : Char} (hc : isAuthorityCharacter c = true)
    (hmark : c ∉ [':', '[', ']', '@']) (a : Scan) :
    a.push c = .ok { a with endsInAt := false } := by
  have hpercent : c ≠ '%' := by
    rintro rfl
    exact absurd hc (by decide)
  simp only [List.mem_cons, List.not_mem_nil, or_false, not_or] at hmark
  obtain ⟨hcolon, hopen, hclose, hat⟩ := hmark
  rw [push, if_neg hcolon, if_neg hopen, if_neg hclose, if_neg hat, if_neg hpercent, if_pos hc]

theorem push_colon {a : Scan} (h : a.colons < mostColons) :
    a.push ':' = .ok { a with colons := a.colons + 1, endsInAt := false } := by
  rw [push, if_pos rfl, if_neg (Nat.not_le.mpr h)]

theorem foldlM_push {s : List Char} (hs : ∀ c ∈ s, isAuthorityCharacter c = true)
    (hmark : ∀ c ∈ s, c ∉ ['[', ']', '@']) {a : Scan}
    (hcolons : a.colons + s.count ':' ≤ mostColons) :
    s.foldlM push a = .ok
      { a with colons := a.colons + s.count ':', endsInAt := a.endsInAt && s.isEmpty } := by
  induction s generalizing a with
  | nil => simp [pure, Except.pure]
  | cons c s ih =>
    rw [List.forall_mem_cons] at hs hmark
    rw [List.foldlM_cons]
    by_cases hcolon : c = ':'
    · subst hcolon
      rw [List.count_cons_self] at hcolons ⊢
      rw [push_colon (by omega)]
      refine (ih hs.2 hmark.2 (by simp only; omega)).trans ?_
      simp only [Bool.false_and, List.isEmpty_cons, Bool.and_false]
      rw [Nat.add_right_comm, Nat.add_assoc]
    · rw [List.count_cons_of_ne hcolon] at hcolons ⊢
      rw [push_plain hs.1 (by simpa [hcolon] using hmark.1)]
      refine (ih hs.2 hmark.2 (a := { a with endsInAt := false }) hcolons).trans ?_
      simp

theorem foldlM_push_user {s : List Char}
    (hs : ∀ c ∈ s, isAuthorityCharacter c = true ∨ c = '%') (hmark : ∀ c ∈ s, c ∉ ['[', ']'])
    {a : Scan} (hcolons : a.colons + s.count ':' ≤ mostColons) :
    ∃ b : Scan, s.foldlM push a = .ok b ∧ b.opened = a.opened ∧ b.closed = a.closed := by
  induction s generalizing a with
  | nil => exact ⟨a, rfl, rfl, rfl⟩
  | cons c s ih =>
    rw [List.forall_mem_cons] at hs hmark
    obtain ⟨b, hb, hopened, hclosed, hcount⟩ : ∃ b : Scan, a.push c = .ok b ∧
        b.opened = a.opened ∧ b.closed = a.closed ∧
        b.colons + s.count ':' ≤ a.colons + (c :: s).count ':' := by
      by_cases hcolon : c = ':'
      · subst hcolon
        rw [List.count_cons_self] at hcolons ⊢
        exact ⟨_, push_colon (by omega), rfl, rfl, by simp only; omega⟩
      · rw [List.count_cons_of_ne hcolon] at hcolons ⊢
        by_cases hat : c = '@'
        · subst hat
          exact ⟨⟨0, a.opened, a.closed, false, true⟩, rfl, rfl, rfl, by simp only; omega⟩
        · rcases hs.1 with hc | rfl
          · have hplain := push_plain hc (by simpa [hcolon, hat] using hmark.1) a
            exact ⟨_, hplain, rfl, rfl, Nat.le_refl _⟩
          · exact ⟨⟨a.colons, a.opened, a.closed, true, false⟩, rfl, rfl, rfl, Nat.le_refl _⟩
    obtain ⟨b', hb', hopened', hclosed'⟩ := ih hs.2 hmark.2 (Nat.le_trans hcount hcolons)
    refine ⟨b', ?_, hopened'.trans hopened, hclosed'.trans hclosed⟩
    rw [List.foldlM_cons, hb]
    exact hb'

end Scan

/-- An authority is read as far as it goes if its brackets match and no more than the colon of a
port is left in the end. -/
theorem splitAuthority_append {s t : List Char} (hs : ∀ c ∈ s, endsAuthority c = false)
    (ht : ∀ c ∈ t.head?, endsAuthority c = true) {b : Scan}
    (hscan : s.foldlM Scan.push Scan.start = .ok b) (hbrackets : b.opened = b.closed)
    (hcolons : b.colons ≤ 1) (hpercent : b.percent = false) (hat : b.endsInAt = false) :
    splitAuthority (s ++ t) = .ok (s, t) := by
  have hfront : (s ++ t).takeWhile (!endsAuthority ·) = s :=
    takeWhile_append_of_stop (by simpa using hs) (by simpa using ht)
  unfold splitAuthority
  simp [hfront, hscan, hbrackets, hpercent, hat, Nat.not_lt.mpr hcolons, bind, Except.bind, pure,
    Except.pure]

theorem pathAndQuery_append {path rest : List Char} (hpath : ∀ c ∈ path, isPathCharacter c = true)
    (hrest : rest = [] ∨ ∃ fragment, rest = '#' :: fragment) :
    pathAndQuery (path ++ rest) = .ok (path, none) ∧
      ∀ query, (∀ c ∈ query, isQueryCharacter c = true) →
        pathAndQuery (path ++ '?' :: (query ++ rest)) = .ok (path, some query) := by
  have hstop : ∀ c ∈ rest.head?, isPathCharacter c = false ∧ isQueryCharacter c = false := by
    rcases hrest with rfl | ⟨fragment, rfl⟩
    · intro c hc
      cases hc
    · intro c hc
      obtain rfl : '#' = c := Option.some.inj hc
      decide
  constructor
  · have hfront : (path ++ rest).takeWhile isPathCharacter = path :=
      takeWhile_append_of_stop hpath fun c hc => (hstop c hc).1
    unfold pathAndQuery
    simp only [hfront, List.drop_left]
    rcases hrest with rfl | ⟨fragment, rfl⟩ <;> rfl
  · intro query hquery
    have hfront : (path ++ '?' :: (query ++ rest)).takeWhile isPathCharacter = path :=
      takeWhile_append_of_stop hpath fun c hc => by
        obtain rfl : '?' = c := Option.some.inj hc
        decide
    have hfront' : (query ++ rest).takeWhile isQueryCharacter = query :=
      takeWhile_append_of_stop hquery fun c hc => (hstop c hc).2
    unfold pathAndQuery
    simp only [hfront, hfront', List.drop_left]
    rcases hrest with rfl | ⟨fragment, rfl⟩ <;> rfl

end Uri

end ToastRelay.Web
