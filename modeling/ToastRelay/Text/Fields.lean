/-!
# Texts cut at a separator

A text with `n` separators has `n + 1` fields, some of them possibly empty. Joining the fields with
the separator gives the text back, so nothing is lost by cutting; the fields themselves never hold
the separator.
-/

namespace ToastRelay.Text
set_option autoImplicit false

def consField (sep c : Char) (fs : List (List Char)) : List (List Char) :=
  if c = sep then [] :: fs
  else match fs with
    | [] => [[c]]
    | f :: fs => (c :: f) :: fs

/-- The stretches of a text between its separators, the empty ones included. -/
def fields (sep : Char) (s : List Char) : List (List Char) :=
  s.foldr (consField sep) [[]]

def joinFields (sep : Char) (fs : List (List Char)) : List Char :=
  [sep].intercalate fs

/-- The text before the first separator and, if there is one, the text after it. -/
def cut (sep : Char) (s : List Char) : List Char × Option (List Char) :=
  (s.takeWhile (· ≠ sep), match s.dropWhile (· ≠ sep) with
    | [] => none
    | _ :: r => some r)

theorem fields_ne_nil (sep : Char) (s : List Char) : fields sep s ≠ [] := by
  cases s with
  | nil => simp [fields]
  | cons c s =>
    simp only [fields, List.foldr_cons, consField]
    split
    · simp
    · split <;> simp

theorem joinFields_fields (sep : Char) (s : List Char) : joinFields sep (fields sep s) = s := by
  induction s with
  | nil => rfl
  | cons c s ih =>
    have hne := fields_ne_nil sep s
    simp only [fields, List.foldr_cons] at ih hne ⊢
    generalize s.foldr (consField sep) [[]] = fs at ih hne
    cases fs with
    | nil => exact absurd rfl hne
    | cons f fs =>
      simp only [consField]
      split
      · next h =>
        subst h
        rw [← ih]
        simp [joinFields, List.intercalate_cons_cons]
      · cases fs with
        | nil => simpa [joinFields, List.intercalate] using ih
        | cons g fs =>
          simp only [joinFields, List.intercalate_cons_cons] at ih ⊢
          rw [← ih]
          rfl

theorem notMem_of_mem_fields {sep : Char} {s f : List Char} (h : f ∈ fields sep s) : sep ∉ f := by
  induction s generalizing f with
  | nil => simp_all [fields]
  | cons c s ih =>
    simp only [fields, List.foldr_cons, consField] at h ih
    split at h
    · rcases List.mem_cons.mp h with rfl | h
      · simp
      · exact ih h
    · next hc =>
      split at h
      · simp only [List.mem_singleton] at h
        subst h
        simpa using fun hs : sep = c => hc hs.symm
      · next g fs hg =>
        rcases List.mem_cons.mp h with rfl | h
        · simp only [List.mem_cons, not_or]
          exact ⟨fun hs => hc hs.symm, ih (hg ▸ List.mem_cons_self)⟩
        · exact ih (hg ▸ List.mem_cons_of_mem g h)

theorem fields_of_notMem {sep : Char} {s : List Char} (h : sep ∉ s) : fields sep s = [s] := by
  induction s with
  | nil => rfl
  | cons c s ih =>
    obtain ⟨hc, hs⟩ := not_or.mp (mt List.mem_cons.mpr h)
    simp only [fields, List.foldr_cons] at ih ⊢
    rw [ih hs, consField, if_neg (Ne.symm hc)]

theorem fields_append_cons (sep : Char) (s t : List Char) :
    fields sep (s ++ sep :: t) = fields sep s ++ fields sep t := by
  induction s with
  | nil => simp [fields, consField]
  | cons c s ih =>
    have hne := fields_ne_nil sep s
    simp only [fields, List.cons_append, List.foldr_cons] at ih hne ⊢
    rw [ih]
    generalize s.foldr (consField sep) [[]] = fs at hne
    cases fs with
    | nil => exact absurd rfl hne
    | cons f fs =>
      simp only [consField, List.cons_append]
      split <;> rfl

theorem joinFields_cons_cons (sep : Char) (f g : List Char) (fs : List (List Char)) :
    joinFields sep (f :: g :: fs) = f ++ sep :: joinFields sep (g :: fs) := by
  simp [joinFields, List.intercalate_cons_cons]

theorem mem_of_mem_joinFields {sep c : Char} {fs : List (List Char)} (h : c ∈ joinFields sep fs) :
    c = sep ∨ ∃ f ∈ fs, c ∈ f := by
  induction fs with
  | nil => cases h
  | cons f fs ih =>
    cases fs with
    | nil => exact Or.inr ⟨f, List.mem_cons_self, by simpa [joinFields] using h⟩
    | cons g fs =>
      rw [joinFields_cons_cons] at h
      rcases List.mem_append.mp h with h | h
      · exact Or.inr ⟨f, List.mem_cons_self, h⟩
      · rcases List.mem_cons.mp h with h | h
        · exact Or.inl h
        · rcases ih h with h | ⟨f', hf', h⟩
          · exact Or.inl h
          · exact Or.inr ⟨f', List.mem_cons_of_mem f hf', h⟩

theorem fields_joinFields {sep : Char} {fs : List (List Char)} (hne : fs ≠ [])
    (h : ∀ f ∈ fs, sep ∉ f) : fields sep (joinFields sep fs) = fs := by
  induction fs with
  | nil => exact absurd rfl hne
  | cons f fs ih =>
    obtain ⟨hf, hfs⟩ := List.forall_mem_cons.mp h
    cases fs with
    | nil =>
      have hone : joinFields sep [f] = f := by simp [joinFields]
      rw [hone, fields_of_notMem hf]
    | cons g fs =>
      rw [joinFields_cons_cons, fields_append_cons, fields_of_notMem hf,
        ih (List.cons_ne_nil g fs) hfs]
      rfl

theorem cut_append_cons {sep : Char} {s : List Char} (h : sep ∉ s) (t : List Char) :
    cut sep (s ++ sep :: t) = (s, some t) := by
  have hs : ∀ c ∈ s, decide (c ≠ sep) = true :=
    fun c hc => decide_eq_true fun heq => h (heq ▸ hc)
  rw [cut, List.takeWhile_append_of_pos hs, List.dropWhile_append_of_pos hs]
  simp

theorem joinFields_isPrefix {sep : Char} {fs gs : List (List Char)} (h : fs <+: gs) :
    joinFields sep fs <+: joinFields sep gs := by
  obtain ⟨rest, rfl⟩ := h
  induction fs with
  | nil => exact List.nil_prefix
  | cons f fs ih =>
    cases fs with
    | nil =>
      cases rest with
      | nil => exact List.prefix_rfl
      | cons r rest => simp [joinFields]
    | cons g fs =>
      rw [List.cons_append, List.cons_append, joinFields_cons_cons, joinFields_cons_cons]
      exact (List.prefix_append_right_inj f).mpr (List.cons_prefix_cons.mpr ⟨rfl, ih⟩)

end ToastRelay.Text
