import ToastRelay.Proofs.Json.Grammar

/-!
# Which marks of a text stand in no string and no container

A text is cut at the first comma, colon or closing bracket that stands in no string and in no
container of the text. Names, numbers and values are never cut, so that a comma ends an item, a colon
ends a name, and a closing brace ends an object.
-/

namespace ToastRelay.Json
set_option autoImplicit false

/-- How a place in a text stands to strings: outside of them, inside of one, or behind a backslash
inside of one. -/
inductive Place where
  | outside
  | inside
  | escaped

/-- What stands behind the first such mark that is in no string and no container, where so many
containers are open already. -/
def behind (mark : Char) : Place → Nat → List Char → Option (List Char)
  | _, _, [] => none
  | .escaped, opened, _ :: s => behind mark .inside opened s
  | .inside, opened, c :: s =>
    if c = '"' then behind mark .outside opened s
    else if c = '\\' then behind mark .escaped opened s
    else behind mark .inside opened s
  | .outside, opened, c :: s =>
    if c = mark ∧ opened = 0 then some s
    else if c = '"' then behind mark .inside opened s
    else if c = '[' ∨ c = '\x7b' then behind mark .outside (opened + 1) s
    else if c = ']' ∨ c = '\x7d' then behind mark .outside (opened - 1) s
    else behind mark .outside opened s

def marks : List Char := [',', ':', ']', '\x7d']

/-- A character that neither cuts, opens nor closes anything. -/
def IsInner (c : Char) : Prop := c ∉ '"' :: '[' :: '\x7b' :: marks

instance (c : Char) : Decidable (IsInner c) := inferInstanceAs (Decidable (c ∉ _))

theorem isInner_of_isBlank {c : Char} (h : Cursor.isBlank c = true) : IsInner c := by
  simp only [Cursor.isBlank, Bool.or_eq_true, decide_eq_true_eq] at h
  rcases h with ((rfl | rfl) | rfl) | rfl <;> decide

/-- A text that is not cut, and that closes what it opens, where so many containers are open already
or more. -/
def Balanced (mark : Char) (least : Nat) (s : List Char) : Prop := ∀ opened t, least ≤ opened →
  behind mark .outside opened (s ++ t) = behind mark .outside opened t

variable {mark : Char} {least : Nat} {s t : List Char}

theorem behind_mark (mark : Char) (t : List Char) : behind mark .outside 0 (mark :: t) = some t := by
  simp [behind]

theorem Balanced.of_le {most : Nat} (h : Balanced mark least s) (hle : least ≤ most) :
    Balanced mark most s :=
  fun opened t hopened => h opened t (Nat.le_trans hle hopened)

theorem Balanced.append (hs : Balanced mark least s) (ht : Balanced mark least t) :
    Balanced mark least (s ++ t) := by
  intro opened u hopened
  rw [List.append_assoc, hs opened _ hopened, ht opened u hopened]

/-- The mark behind a text that is not cut is where the whole is cut. -/
theorem Balanced.eq_of_append {s' t' : List Char} (hs : Balanced mark 0 s) (hs' : Balanced mark 0 s')
    (h : s ++ mark :: t = s' ++ mark :: t') : s = s' ∧ t = t' := by
  have hbehind := congrArg (behind mark .outside 0) h
  rw [hs 0 _ (Nat.zero_le 0), hs' 0 _ (Nat.zero_le 0), behind_mark, behind_mark] at hbehind
  obtain rfl := Option.some.inj hbehind
  exact ⟨List.append_cancel_right h, rfl⟩

theorem behind_inside (h : IsStringBody s) (opened : Nat) (t : List Char) :
    behind mark .inside opened (s ++ '"' :: t) = behind mark .outside opened t := by
  induction h with
  | nil => simp [behind]
  | plain hc _ ih =>
    obtain ⟨hquote, hbackslash, -⟩ := hc
    simp [behind, hquote, hbackslash, ih]
  | letter _ _ ih => simp [behind, ih]
  | @number digits s hdigits _ ih =>
    have hinside : ∀ {ds : List Char}, (∀ c ∈ ds, Text.isHexDigit c = true) →
        behind mark .inside opened (ds ++ (s ++ '"' :: t)) = behind mark .outside opened t := by
      intro ds hds
      induction ds with
      | nil => exact ih
      | cons c ds ihds =>
        obtain ⟨hc, hds⟩ := List.forall_mem_cons.mp hds
        have hquote : c ≠ '"' := by
          rintro rfl
          cases hc
        have hbackslash : c ≠ '\\' := by
          rintro rfl
          cases hc
        simp [behind, hquote, hbackslash, ihds hds]
    simp [behind, hinside hdigits.2]

/-! ## Numbers -/

def IsNumeric (c : Char) : Prop := c.isDigit = true ∨ c ∈ ['.', 'e', 'E', '+', '-']

theorem IsNumeric.isInner {c : Char} (h : IsNumeric c) : IsInner c := by
  rcases h with h | h
  · intro hc
    simp only [marks, List.mem_cons, List.not_mem_nil, or_false] at hc
    rcases hc with rfl | rfl | rfl | rfl | rfl | rfl | rfl <;> cases h
  · simp only [List.mem_cons, List.not_mem_nil, or_false] at h
    rcases h with rfl | rfl | rfl | rfl | rfl <;> decide

theorem IsNumeric.isBlank {c : Char} (h : IsNumeric c) : Cursor.isBlank c = false := by
  rcases h with h | h
  · exact Cursor.isBlank_of_isDigit h
  · simp only [List.mem_cons, List.not_mem_nil, or_false] at h
    rcases h with rfl | rfl | rfl | rfl | rfl <;> rfl

theorem IsUnsigned.isNumeric (h : IsUnsigned s) : ∀ c ∈ s, IsNumeric c := by
  obtain ⟨whole, fraction, exponent, hwhole, hfraction, hexponent, rfl⟩ := h
  refine List.forall_mem_append.mpr ⟨?_, List.forall_mem_append.mpr ⟨?_, ?_⟩⟩
  · cases hwhole with
    | zero => exact List.forall_mem_singleton.mpr (Or.inl rfl)
    | digits _ h => exact fun c hc => Or.inl (h c hc)
  · cases hfraction with
    | none => exact fun c hc => absurd hc List.not_mem_nil
    | digits h =>
      exact List.forall_mem_cons.mpr ⟨Or.inr (by simp), fun c hc => Or.inl (h.2 c hc)⟩
  · cases hexponent with
    | none => exact fun c hc => absurd hc List.not_mem_nil
    | digits hmark hsign h =>
      refine List.forall_mem_cons.mpr
        ⟨?_, List.forall_mem_append.mpr ⟨?_, fun c hc => Or.inl (h.2 c hc)⟩⟩
      · rcases hmark with rfl | rfl <;> exact Or.inr (by simp)
      · rcases hsign with rfl | rfl | rfl <;> simp [IsNumeric]

/-! ## What is not cut -/

theorem balanced_mark {c : Char} (hc : c = ',' ∨ c = ':') (h : c ≠ mark ∨ 0 < least) :
    Balanced mark least [c] := by
  intro opened t hopened
  have hcut : ¬ (c = mark ∧ opened = 0) := by
    rintro ⟨rfl, rfl⟩
    rcases h with h | h
    · exact h rfl
    · omega
  rcases hc with rfl | rfl <;> simp [behind, hcut]

section Marks
variable (hmark : mark ∈ marks)
include hmark

theorem balanced_of_inner (hs : ∀ c ∈ s, IsInner c) : Balanced mark least s := by
  intro opened t _
  induction s with
  | nil => rfl
  | cons c s ih =>
    obtain ⟨hc, hs⟩ := List.forall_mem_cons.mp hs
    have hcut : c ≠ mark := by
      rintro rfl
      exact hc (by simp [hmark])
    simp only [IsInner, marks, List.mem_cons, List.not_mem_nil, or_false, not_or] at hc
    simp [behind, hcut, hc, ih hs]

theorem Blanks.balanced (h : Blanks s) : Balanced mark least s :=
  balanced_of_inner hmark fun c hc => isInner_of_isBlank (h c hc)

theorem IsUnsigned.balanced (h : IsUnsigned s) : Balanced mark least s :=
  balanced_of_inner hmark fun c hc => (h.isNumeric c hc).isInner

theorem balanced_string (h : IsStringBody s) : Balanced mark least ('"' :: (s ++ ['"'])) := by
  intro opened t _
  have hcut : '"' ≠ mark := by
    rintro rfl
    cases List.elem_eq_true_of_mem hmark
  simp [behind, hcut, behind_inside h]

theorem balanced_container (h : Balanced mark 1 s) {first last : Char}
    (hfirst : first = '[' ∨ first = '\x7b') (hlast : last = ']' ∨ last = '\x7d') :
    Balanced mark 0 (first :: (s ++ [last])) := by
  intro opened t _
  have hinside := h (opened + 1) (last :: t) (by omega)
  have hcut : first ≠ mark := by
    rintro rfl
    rcases hfirst with rfl | rfl <;> cases List.elem_eq_true_of_mem hmark
  rcases hfirst with rfl | rfl <;> rcases hlast with rfl | rfl <;> simp [behind, hcut, hinside]

theorem Separated.balanced {α : Type} {Item : α → List Char → Prop} {first : Bool} {as : List α}
    (h : Separated Item first as s) (hcomma : ',' ≠ mark ∨ 0 < least)
    (hitem : ∀ a ∈ as, ∀ t, Item a t → Balanced mark least t) : Balanced mark least s := by
  induction h with
  | none hs => exact hs.balanced hmark
  | first h _ ih =>
    obtain ⟨hfirst, hmore⟩ := List.forall_mem_cons.mp hitem
    exact (hfirst _ h).append (ih hmore)
  | @next a as blanks s t hblanks h _ ih =>
    obtain ⟨hfirst, hmore⟩ := List.forall_mem_cons.mp hitem
    exact (hblanks.balanced hmark).append
      ((balanced_mark (Or.inl rfl) hcomma).append ((hfirst _ h).append (ih hmore)))

theorem balanced_name {before name between : List Char} (hbefore : Blanks before)
    (hname : IsStringBody name) (hbetween : Blanks between) :
    Balanced mark least (before ++ ('"' :: (name ++ ['"']) ++ between)) :=
  (hbefore.balanced hmark).append
    ((balanced_string hmark hname).append (hbetween.balanced hmark))

theorem IsMember.balanced {α : Type} {Name : α → List Char → Prop} {m : α × List Char}
    (h : IsMember Name m s) (hName : IsNaming Name) (hcolon : ':' ≠ mark ∨ 0 < least)
    (hv : Balanced mark least m.2) : Balanced mark least s := by
  obtain ⟨before, name, between, hbefore, hname, hbetween, rfl⟩ := h
  have hfront : Balanced mark least (before ++ ('"' :: (name ++ ['"']) ++ between)) :=
    balanced_name hmark hbefore (hName.body hname) hbetween
  have hmember := hfront.append ((balanced_mark (Or.inr rfl) hcolon).append hv)
  simpa using hmember

theorem IsValue.balanced (h : IsValue s) : Balanced mark 0 s := by
  induction h with
  | blanks hs _ ih => exact (hs.balanced hmark).append ih
  | @word s hs =>
    have hinner : s.toList.all (IsInner ·) = true := by
      simp only [List.mem_cons, List.not_mem_nil, or_false] at hs
      rcases hs with rfl | rfl | rfl <;> rfl
    exact balanced_of_inner hmark fun c hc => of_decide_eq_true (List.all_eq_true.mp hinner c hc)
  | number h => exact h.balanced hmark
  | negative h =>
    have hminus : Balanced mark 0 ['-'] := balanced_of_inner hmark (by simp [IsInner, marks])
    exact hminus.append (h.balanced hmark)
  | string h => exact balanced_string hmark h
  | list _ hs ih =>
    have hinside := hs.balanced hmark (Or.inr Nat.one_pos) fun item hitem t ht =>
      ht ▸ (ih item hitem).of_le (Nat.zero_le 1)
    exact balanced_container hmark hinside (Or.inl rfl) (Or.inl rfl)
  | object _ hs ih =>
    have hinside := hs.balanced hmark (Or.inr Nat.one_pos) fun m hm t ht =>
      ht.balanced hmark isNaming_isName (Or.inr Nat.one_pos) ((ih m hm).of_le (Nat.zero_le 1))
    exact balanced_container hmark hinside (Or.inr rfl) (Or.inr rfl)

end Marks

theorem balanced_members {α : Type} {Name : α → List Char → Prop} {ms : List (α × List Char)}
    (h : Separated (IsMember Name) true ms s) (hName : IsNaming Name)
    (hvalues : ∀ m ∈ ms, IsValue m.2) : Balanced '\x7d' 0 s :=
  h.balanced (by decide) (Or.inl (by decide)) fun m hm _ ht =>
    ht.balanced (by decide) hName (Or.inl (by decide)) ((hvalues m hm).balanced (by decide))

end ToastRelay.Json
