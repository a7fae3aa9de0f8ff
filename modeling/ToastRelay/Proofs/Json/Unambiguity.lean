import ToastRelay.Proofs.Json.Closing

/-!
# What a text says is one thing only

An object has its members in one way only: where an item ends is told by the comma behind it, and
where the name of a member ends by the colon. A string, a natural number and an optional value are
told by their texts as well.
-/

namespace ToastRelay.Json
set_option autoImplicit false

open Text

/-! ## Blanks -/

section Blanks
variable {s s' t t' : List Char} {c c' : Char}

theorem eq_of_blanks (hs : Blanks s) (hs' : Blanks s') (hc : Cursor.isBlank c = false)
    (hc' : Cursor.isBlank c' = false) (h : s ++ c :: t = s' ++ c' :: t') :
    s = s' ∧ c = c' ∧ t = t' := by
  induction s generalizing s' with
  | nil =>
    cases s' with
    | nil => exact ⟨rfl, List.cons.inj h⟩
    | cons d s' =>
      obtain rfl : c = d := (List.cons.inj h).1
      rw [hs' c List.mem_cons_self] at hc
      cases hc
  | cons d s ih =>
    obtain ⟨hd, hs⟩ := List.forall_mem_cons.mp hs
    cases s' with
    | nil =>
      obtain rfl : d = c' := (List.cons.inj h).1
      rw [hd] at hc'
      cases hc'
    | cons d' s' =>
      obtain ⟨rfl, hrest⟩ := List.cons.inj h
      obtain ⟨rfl, hmore⟩ := ih hs (List.forall_mem_cons.mp hs').2 hrest
      exact ⟨rfl, hmore⟩

/-- A text that does not end in a blank. -/
def IsSolid (s : List Char) : Prop := ∃ t c, Cursor.isBlank c = false ∧ s = t ++ [c]

theorem IsSolid.append (h : IsSolid t) (s : List Char) : IsSolid (s ++ t) := by
  obtain ⟨u, c, hc, rfl⟩ := h
  exact ⟨s ++ u, c, hc, (List.append_assoc _ _ _).symm⟩

theorem isSolid_cons_append (s : List Char) (hc : Cursor.isBlank c = false) :
    IsSolid (c' :: (s ++ [c])) :=
  ⟨c' :: s, c, hc, rfl⟩

theorem isSolid_of_forall (hs : s ≠ []) (h : ∀ c ∈ s, Cursor.isBlank c = false) : IsSolid s :=
  ⟨s.dropLast, s.getLast hs, h _ (List.getLast_mem hs), (List.dropLast_concat_getLast hs).symm⟩

theorem IsSolid.not_blanks (h : IsSolid s) (t : List Char) : ¬ Blanks (s ++ t) := by
  obtain ⟨u, c, hc, rfl⟩ := h
  intro hblanks
  rw [hblanks c (by simp)] at hc
  cases hc

theorem IsSolid.eq_nil_of_append (h : IsSolid (s ++ t)) (ht : Blanks t) : t = [] := by
  obtain ⟨u, c, hc, heq⟩ := h
  rcases List.eq_nil_or_concat t with rfl | ⟨v, d, rfl⟩
  · rfl
  · rw [List.concat_eq_append, ← List.append_assoc] at heq
    obtain rfl : d = c := (List.cons.inj (List.append_inj' heq rfl).2).1
    rw [ht d (by simp)] at hc
    cases hc

theorem eq_of_isSolid (hs : IsSolid s) (hs' : IsSolid s') (ht : Blanks t) (ht' : Blanks t')
    (h : s ++ t = s' ++ t') : s = s' ∧ t = t' := by
  obtain ⟨u, c, hc, rfl⟩ := hs
  obtain ⟨u', c', hc', rfl⟩ := hs'
  have hreverse := congrArg List.reverse h
  simp only [List.reverse_append, List.reverse_cons, List.reverse_nil, List.nil_append,
    List.singleton_append] at hreverse
  obtain ⟨ht, hc, hu⟩ := eq_of_blanks (fun d hd => ht d (List.mem_reverse.mp hd))
    (fun d hd => ht' d (List.mem_reverse.mp hd)) hc hc' hreverse
  exact ⟨by rw [List.reverse_inj.mp hu, hc], List.reverse_inj.mp ht⟩

theorem IsUnsigned.isSolid (h : IsUnsigned s) : IsSolid s :=
  isSolid_of_forall h.ne_nil fun c hc => (h.isNumeric c hc).isBlank

theorem IsValue.isSolid (h : IsValue s) : IsSolid s := by
  induction h with
  | blanks _ _ ih => exact ih.append _
  | word h =>
    simp only [List.mem_cons, List.not_mem_nil, or_false] at h
    rcases h with rfl | rfl | rfl
    · exact ⟨['n', 'u', 'l'], 'l', rfl, rfl⟩
    · exact ⟨['t', 'r', 'u'], 'e', rfl, rfl⟩
    · exact ⟨['f', 'a', 'l', 's'], 'e', rfl, rfl⟩
  | number h => exact h.isSolid
  | negative h => exact h.isSolid.append ['-']
  | string => exact isSolid_cons_append _ rfl
  | list => exact isSolid_cons_append _ rfl
  | object => exact isSolid_cons_append _ rfl

end Blanks

/-! ## Items -/

section Items
variable {α : Type}

/-- Items that are told by their texts and end where a comma stands or nothing but blanks. -/
structure Delimited (Item : α → List Char → Prop) (P : α → Prop) : Prop where
  balanced {a : α} {s : List Char} (ha : P a) (h : Item a s) : Balanced ',' 0 s
  isSolid {a : α} {s : List Char} (ha : P a) (h : Item a s) : IsSolid s
  unique {a a' : α} {s : List Char} (ha : P a) (ha' : P a') (h : Item a s) (h' : Item a' s) : a = a'

variable {Item : α → List Char → Prop} {P : α → Prop} {first : Bool} {a a' : α} {as as' : List α}
  {s s' t t' : List Char}

theorem behind_blanks (h : Blanks s) : behind ',' .outside 0 s = none := by
  have hblanks : Balanced ',' 0 s := h.balanced (by decide)
  simpa [behind] using hblanks 0 [] (Nat.zero_le 0)

theorem behind_comma (h : Blanks s) (t : List Char) :
    behind ',' .outside 0 (s ++ ',' :: t) = some t := by
  have hblanks : Balanced ',' 0 s := h.balanced (by decide)
  rw [hblanks 0 _ (Nat.zero_le 0), behind_mark]

theorem Delimited.eq_of_append (hItem : Delimited Item P) (ha : P a) (ha' : P a') (h : Item a s)
    (h' : Item a' s') (ht : Separated Item false as t) (ht' : Separated Item false as' t')
    (heq : s ++ t = s' ++ t') : s = s' ∧ t = t' := by
  have hs := hItem.balanced ha h
  have hs' := hItem.balanced ha' h'
  have hsolid := hItem.isSolid ha h
  have hsolid' := hItem.isSolid ha' h'
  -- Either there is a comma behind both items, or behind none of them.
  have hbehind : behind ',' .outside 0 t = behind ',' .outside 0 t' := by
    rw [← hs 0 t (Nat.zero_le 0), ← hs' 0 t' (Nat.zero_le 0), heq]
  cases ht with
  | none ht =>
    cases ht' with
    | none ht' => exact eq_of_isSolid hsolid hsolid' ht ht' heq
    | next ht' =>
      rw [behind_blanks ht, behind_comma ht'] at hbehind
      cases hbehind
  | next ht =>
    cases ht' with
    | none ht' =>
      rw [behind_blanks ht', behind_comma ht] at hbehind
      cases hbehind
    | next ht' =>
      have hfront := hs.append (ht.balanced (by decide))
      have hfront' := hs'.append (ht'.balanced (by decide))
      rw [← List.append_assoc, ← List.append_assoc] at heq
      obtain ⟨hitems, hmore⟩ := hfront.eq_of_append hfront' heq
      obtain ⟨rfl, rfl⟩ := eq_of_isSolid hsolid hsolid' ht ht' hitems
      exact ⟨rfl, by rw [hmore]⟩

/-- The items of a text are told by it. -/
theorem Separated.unique (hItem : Delimited Item P) (h : Separated Item first as s)
    (h' : Separated Item first as' s) (hP : ∀ a ∈ as, P a) (hP' : ∀ a ∈ as', P a) : as = as' := by
  generalize hs : s = s' at h'
  induction h generalizing as' s' with
  | none hblanks =>
    cases h' with
    | none => rfl
    | @first a _ _ t h =>
      rw [hs] at hblanks
      exact absurd hblanks ((hItem.isSolid (hP' a List.mem_cons_self) h).not_blanks t)
    | next =>
      subst hs
      cases hblanks ',' (by simp)
  | @first a as s t h more ih =>
    obtain ⟨ha, hP⟩ := List.forall_mem_cons.mp hP
    cases h' with
    | none hblanks =>
      rw [← hs] at hblanks
      exact absurd hblanks ((hItem.isSolid ha h).not_blanks t)
    | first h' more' =>
      obtain ⟨ha', hP'⟩ := List.forall_mem_cons.mp hP'
      obtain ⟨rfl, hrest⟩ := hItem.eq_of_append ha ha' h h' more more' hs
      rw [hItem.unique ha ha' h h', ih hP hP' _ hrest more']
  | @next a as blanks s t hblanks h more ih =>
    obtain ⟨ha, hP⟩ := List.forall_mem_cons.mp hP
    cases h' with
    | none hblanks =>
      subst hs
      cases hblanks ',' (by simp)
    | next hblanks' h' more' =>
      obtain ⟨ha', hP'⟩ := List.forall_mem_cons.mp hP'
      obtain ⟨-, -, hs⟩ := eq_of_blanks hblanks hblanks' rfl rfl hs
      obtain ⟨rfl, hrest⟩ := hItem.eq_of_append ha ha' h h' more more' hs
      rw [hItem.unique ha ha' h h', ih hP hP' _ hrest more']

end Items

/-! ## Strings -/

section Strings
variable {c c' : Char} {cs cs' s s' t t' : List Char}

theorem letterEscapes_functional {c d d' : Char} (h : (c, d) ∈ letterEscapes)
    (h' : (c, d') ∈ letterEscapes) : d = d' := by
  simp only [letterEscapes, List.mem_cons, List.not_mem_nil, or_false, Prod.mk.injEq] at h h'
  rcases h with ⟨rfl, rfl⟩ | ⟨rfl, rfl⟩ | ⟨rfl, rfl⟩ | ⟨rfl, rfl⟩ | ⟨rfl, rfl⟩ | ⟨rfl, rfl⟩ |
    ⟨rfl, rfl⟩ | ⟨rfl, rfl⟩ <;> exact Eq.symm (by simpa using h')

theorem not_mem_letterEscapes (d : Char) : ('u', d) ∉ letterEscapes := by
  simp [letterEscapes]

theorem IsFourDigits.eq_of_append (h : IsFourDigits s) (h' : IsFourDigits s')
    (heq : s ++ t = s' ++ t') : s = s' ∧ t = t' :=
  List.append_inj heq (h.1.trans h'.1.symm)

theorem Spells.eq_of_append (h : Spells c s) (h' : Spells c' s') (heq : s ++ t = s' ++ t') :
    c = c' ∧ t = t' := by
  cases h with
  | plain hc =>
    obtain ⟨-, hbackslash, -⟩ := hc
    cases h' with
    | plain => exact List.cons.inj heq
    | letter => exact absurd (List.cons.inj heq).1 hbackslash
    | number => exact absurd (List.cons.inj heq).1 hbackslash
    | pair => exact absurd (List.cons.inj heq).1 hbackslash
  | letter hc =>
    cases h' with
    | plain hc' => exact absurd (List.cons.inj heq).1.symm hc'.2.1
    | letter hc' =>
      obtain ⟨-, hrest⟩ := List.cons.inj heq
      obtain ⟨rfl, rfl⟩ := List.cons.inj hrest
      exact ⟨letterEscapes_functional hc hc', rfl⟩
    | number =>
      obtain ⟨-, hrest⟩ := List.cons.inj heq
      obtain ⟨rfl, -⟩ := List.cons.inj hrest
      exact absurd hc (not_mem_letterEscapes _)
    | pair =>
      obtain ⟨-, hrest⟩ := List.cons.inj heq
      obtain ⟨rfl, -⟩ := List.cons.inj hrest
      exact absurd hc (not_mem_letterEscapes _)
  | number hdigits hnumber =>
    cases h' with
    | plain hc' => exact absurd (List.cons.inj heq).1.symm hc'.2.1
    | letter hc' =>
      obtain ⟨-, hrest⟩ := List.cons.inj heq
      obtain ⟨rfl, -⟩ := List.cons.inj hrest
      exact absurd hc' (not_mem_letterEscapes _)
    | number hdigits' =>
      simp only [List.cons_append, List.cons.injEq, true_and] at heq
      obtain ⟨rfl, hrest⟩ := hdigits.eq_of_append hdigits' heq
      exact ⟨rfl, hrest⟩
    | pair hhigh _ hhigh' =>
      simp only [List.cons_append, List.append_assoc, List.cons.injEq, true_and] at heq
      obtain ⟨rfl, -⟩ := hdigits.eq_of_append hhigh heq
      omega
  | pair hhigh hlow hhigh' =>
    cases h' with
    | plain hc' => exact absurd (List.cons.inj heq).1.symm hc'.2.1
    | letter hc' =>
      obtain ⟨-, hrest⟩ := List.cons.inj heq
      obtain ⟨rfl, -⟩ := List.cons.inj hrest
      exact absurd hc' (not_mem_letterEscapes _)
    | number hdigits' hnumber =>
      simp only [List.cons_append, List.append_assoc, List.cons.injEq, true_and] at heq
      obtain ⟨rfl, -⟩ := hhigh.eq_of_append hdigits' heq
      omega
    | pair hhigh₂ hlow₂ =>
      simp only [List.cons_append, List.append_assoc, List.cons.injEq, true_and] at heq
      obtain ⟨rfl, hsecond⟩ := hhigh.eq_of_append hhigh₂ heq
      simp only [List.cons.injEq, true_and] at hsecond
      obtain ⟨rfl, hrest⟩ := hlow.eq_of_append hlow₂ hsecond
      exact ⟨rfl, hrest⟩

theorem Spells.ne_nil (h : Spells c s) : s ≠ [] := by
  cases h <;> exact List.cons_ne_nil _ _

theorem SpellsAll.unique (h : SpellsAll cs s) (h' : SpellsAll cs' s) : cs = cs' := by
  generalize hs : s = s' at h'
  induction h generalizing cs' s' with
  | nil =>
    cases h' with
    | nil => rfl
    | cons first => exact absurd (List.append_eq_nil_iff.mp hs.symm).1 first.ne_nil
  | cons first _ ih =>
    cases h' with
    | nil => exact absurd (List.append_eq_nil_iff.mp hs).1 first.ne_nil
    | cons first' more' =>
      obtain ⟨rfl, hrest⟩ := first.eq_of_append first' hs
      rw [ih _ hrest more']

theorem IsString.unique {a a' : String} (h : IsString a s) (h' : IsString a' s) : a = a' := by
  obtain ⟨before, body, hbefore, hbody, rfl⟩ := h
  obtain ⟨before', body', hbefore', hbody', heq⟩ := h'
  obtain ⟨-, -, hrest⟩ := eq_of_blanks hbefore hbefore' rfl rfl heq
  obtain rfl := List.append_cancel_right hrest
  exact String.toList_inj.mp (hbody.unique hbody')

end Strings

/-! ## Numbers and optional values -/

section Values
variable {s : List Char}

theorem IsNatural.unique {n n' : UInt64} (h : IsNatural n s) (h' : IsNatural n' s) : n = n' := by
  obtain ⟨before, hbefore, rfl⟩ := h
  obtain ⟨before', hbefore', heq⟩ := h'
  obtain ⟨c, digits, hdigits, hc, -⟩ := toDigits_ten_cons n.toNat
  obtain ⟨c', digits', hdigits', hc', -⟩ := toDigits_ten_cons n'.toNat
  rw [hdigits, hdigits'] at heq
  obtain ⟨-, rfl, rfl⟩ := eq_of_blanks hbefore hbefore' (Cursor.isBlank_of_isDigit hc)
    (Cursor.isBlank_of_isDigit hc') heq
  have hvalue := congrArg (fun ds => Nat.ofDigitChars 10 ds 0) (hdigits.trans hdigits'.symm)
  simp only [Nat.ofDigitChars_ten_toDigits] at hvalue
  exact UInt64.toNat_inj.mp hvalue

theorem not_isNull {before t : List Char} {c : Char} (hbefore : Blanks before)
    (hc : Cursor.isBlank c = false) (hn : c ≠ 'n') : ¬ IsNull (before ++ c :: t) := by
  rintro ⟨before', hbefore', heq⟩
  have hsame : before = before' ∧ c = 'n' ∧ t = ['u', 'l', 'l'] :=
    eq_of_blanks hbefore hbefore' hc rfl heq
  exact hn hsame.2.1

theorem IsString.not_isNull {a : String} (h : IsString a s) : ¬ IsNull s := by
  obtain ⟨before, body, hbefore, -, rfl⟩ := h
  exact Json.not_isNull hbefore rfl (by decide)

theorem IsNatural.not_isNull {n : UInt64} (h : IsNatural n s) : ¬ IsNull s := by
  obtain ⟨before, hbefore, rfl⟩ := h
  obtain ⟨c, digits, hdigits, hc, -⟩ := toDigits_ten_cons n.toNat
  rw [hdigits]
  exact Json.not_isNull hbefore (Cursor.isBlank_of_isDigit hc) (ne_of_isDigit hc rfl)

theorem IsOptional.unique {α : Type} {P : α → List Char → Prop} {o o' : Option α}
    (h : IsOptional P o s) (h' : IsOptional P o' s) (hnull : ∀ a, P a s → ¬ IsNull s)
    (hP : ∀ a a', P a s → P a' s → a = a') : o = o' := by
  cases h with
  | none h =>
    cases h' with
    | none => rfl
    | some h' => exact absurd h (hnull _ h')
  | some h =>
    cases h' with
    | none h' => exact absurd h' (hnull _ h)
    | some h' => rw [hP _ _ h h']

end Values

/-! ## Members -/

section Members
variable {α : Type} {Name : α → List Char → Prop} {m m' : α × List Char}
  {ms ms' : List (α × List Char)} {s : List Char}

theorem isNaming_spelled : IsNaming Spelled where
  body h := h.isStringBody
  unique h h' := String.toList_inj.mp (h.unique h')

theorem IsMember.unique (hName : IsNaming Name) (h : IsMember Name m s) (h' : IsMember Name m' s) :
    m = m' := by
  obtain ⟨before, name, between, hbefore, hname, hbetween, rfl⟩ := h
  obtain ⟨before', name', between', hbefore', hname', hbetween', heq⟩ := h'
  have hfront : Balanced ':' 0 (before ++ ('"' :: (name ++ ['"']) ++ between)) :=
    balanced_name (by decide) hbefore (hName.body hname) hbetween
  have hfront' : Balanced ':' 0 (before' ++ ('"' :: (name' ++ ['"']) ++ between')) :=
    balanced_name (by decide) hbefore' (hName.body hname') hbetween'
  obtain ⟨hnames, hvalues⟩ := hfront.eq_of_append hfront' (by simpa using heq)
  -- The blanks in front of the colon are no part of the name, nor are those behind the comma.
  rw [← List.append_assoc, ← List.append_assoc] at hnames
  obtain ⟨hquoted, -⟩ := eq_of_isSolid ((isSolid_cons_append name rfl).append before)
    ((isSolid_cons_append name' rfl).append before') hbetween hbetween' hnames
  obtain ⟨-, -, hrest⟩ := eq_of_blanks hbefore hbefore' rfl rfl hquoted
  obtain rfl := List.append_cancel_right hrest
  exact Prod.ext (hName.unique hname hname') hvalues

theorem delimited_isMember (hName : IsNaming Name) :
    Delimited (IsMember Name) fun m => IsValue m.2 where
  balanced hm h := h.balanced (by decide) hName (Or.inl (by decide)) (hm.balanced (by decide))
  isSolid hm h := by
    obtain ⟨before, name, between, -, -, -, rfl⟩ := h
    have hsolid := hm.isSolid.append (before ++ '"' :: (name ++ '"' :: (between ++ [':'])))
    simpa using hsolid
  unique _ _ h h' := h.unique hName h'

theorem delimited_isValue : Delimited Eq IsValue where
  balanced ha h := h ▸ ha.balanced (by decide)
  isSolid ha h := h ▸ ha.isSolid
  unique _ _ h h' := h.trans h'.symm

theorem eq_of_object {before inside after before' inside' after' : List Char}
    (hbefore : Blanks before) (hbefore' : Blanks before') (hinside : Balanced '\x7d' 0 inside)
    (hinside' : Balanced '\x7d' 0 inside')
    (h : before ++ '\x7b' :: (inside ++ '\x7d' :: after) =
      before' ++ '\x7b' :: (inside' ++ '\x7d' :: after')) : inside = inside' ∧ after = after' := by
  obtain ⟨-, -, hrest⟩ := eq_of_blanks hbefore hbefore' rfl rfl h
  exact hinside.eq_of_append hinside' hrest

theorem IsObjectOf.unique (hName : IsNaming Name) (h : IsObjectOf Name ms s)
    (h' : IsObjectOf Name ms' s) (hms : ∀ m ∈ ms, IsValue m.2) (hms' : ∀ m ∈ ms', IsValue m.2) :
    ms = ms' := by
  obtain ⟨before, inside, after, hbefore, hinside, -, rfl⟩ := h
  obtain ⟨before', inside', after', hbefore', hinside', -, heq⟩ := h'
  obtain ⟨rfl, -⟩ := eq_of_object hbefore hbefore' (balanced_members hinside hName hms)
    (balanced_members hinside' hName hms') heq
  exact hinside.unique (delimited_isMember hName) hinside' hms hms'

/-- If something stands behind the text of an object and the whole is the text of an object as well,
then it is blanks. -/
theorem IsObjectText.blanks_of_append {t : List Char} (h : IsObjectText s)
    (hwhole : IsObjectText (s ++ t)) : Blanks t := by
  obtain ⟨members, ⟨before, inside, after, hbefore, hinside, -, rfl⟩, hvalues⟩ := h
  obtain ⟨members', ⟨before', inside', after', hbefore', hinside', hafter', heq⟩, hvalues'⟩ := hwhole
  rw [List.append_assoc, List.cons_append, List.append_assoc, List.cons_append] at heq
  obtain ⟨-, rfl⟩ := eq_of_object hbefore hbefore' (balanced_members hinside isNaming_isName hvalues)
    (balanced_members hinside' isNaming_isName hvalues') heq
  exact fun c hc => hafter' c (List.mem_append_right after hc)

end Members

end ToastRelay.Json
