import Mathlib.Data.List.DropRight
import ToastRelay.FileTree.Path

/-!
# What a path says

A path leads through the components that say something; the others may be left out, added or moved
to its end. Here that list is read off a path, its parent, and a path with another file name, so
that where two paths lead can be compared without looking at their characters again.
-/

namespace ToastRelay.Path
set_option autoImplicit false

open Text

/-- The components of a path that say something. -/
def said (s : List Char) : List (List Char) := (fields '/' s).filter (!saysNothing ·)

theorem said_append_slash (s t : List Char) : said (s ++ '/' :: t) = said s ++ said t := by
  simp [said, fields_append_cons]

@[simp] theorem said_nil : said [] = [] := by simp [said, fields, saysNothing]

@[simp] theorem said_dot : said ['.'] = [] := by simp [said, fields, consField, saysNothing]

theorem said_slash (s : List Char) : said ('/' :: s) = said s := said_append_slash [] s

theorem slash_notMem_of_mem_said {s f : List Char} (h : f ∈ said s) : '/' ∉ f :=
  notMem_of_mem_fields (List.mem_filter.mp h).1

theorem said_joinFields {fs : List (List Char)} (h : ∀ f ∈ fs, '/' ∉ f) :
    said (joinFields '/' fs) = fs.filter (!saysNothing ·) := by
  induction fs with
  | nil => rfl
  | cons f fs ih =>
    have hf : '/' ∉ f := h f List.mem_cons_self
    have hfs : ∀ g ∈ fs, '/' ∉ g := fun g hg => h g (List.mem_cons_of_mem f hg)
    cases fs with
    | nil => simp [said, joinFields, fields_of_notMem hf]
    | cons g fs =>
      rw [joinFields_cons_cons, said_append_slash, ih hfs, said, fields_of_notMem hf,
        ← List.filter_append]
      rfl

theorem said_drop_headLength (s : List Char) : said (s.drop (headLength s)) = said s := by
  unfold headLength
  split
  · exact (said_slash _).symm
  · simp
  · exact (said_slash _).trans (said_append_slash ['.'] _ |>.trans (by simp)).symm
  · rfl

theorem trimEnd_cases (fs : List (List Char)) :
    (trimEnd fs = [] ∧ fs.filter (!saysNothing ·) = []) ∨
      ∃ init f, trimEnd fs = init ++ [f] ∧ saysNothing f = false ∧
        fs.filter (!saysNothing ·) = init.filter (!saysNothing ·) ++ [f] := by
  induction fs using List.reverseRecOn with
  | nil => exact Or.inl ⟨rfl, rfl⟩
  | append_singleton fs f ih =>
    have htrim : trimEnd (fs ++ [f]) = if saysNothing f then trimEnd fs else fs ++ [f] :=
      List.rdropWhile_concat saysNothing fs f
    cases hf : saysNothing f with
    | true => simpa [htrim, hf] using ih
    | false => exact Or.inr ⟨fs, f, by simp [htrim, hf], hf, by simp [hf]⟩

theorem filter_trimEnd (fs : List (List Char)) :
    (trimEnd fs).filter (!saysNothing ·) = fs.filter (!saysNothing ·) := by
  rcases trimEnd_cases fs with ⟨htrim, hfs⟩ | ⟨init, f, htrim, hf, hfs⟩
  · rw [htrim, hfs, List.filter_nil]
  · rw [htrim, hfs, List.filter_append]
    simp [hf]

theorem trimEnd_isPrefix (fs : List (List Char)) : trimEnd fs <+: fs :=
  List.rdropWhile_prefix saysNothing fs

theorem components_cases (s : List Char) :
    (components s = [] ∧ said s = []) ∨
      ∃ init f, components s = init ++ [f] ∧ saysNothing f = false ∧
        said s = init.filter (!saysNothing ·) ++ [f] := by
  have h := trimEnd_cases (fields '/' (s.drop (headLength s)))
  rwa [← said, said_drop_headLength] at h

theorem fileName?_eq (path : String) :
    fileName? path = ((said path.toList).getLast?.filter (· ≠ ['.', '.'])).map String.ofList := by
  rcases components_cases path.toList with ⟨hcomponents, hsaid⟩ | ⟨init, f, hcomponents, _, hsaid⟩
  · rw [fileName?, hcomponents, hsaid]
  · rw [fileName?, hcomponents, hsaid, List.getLast?_concat, List.getLast?_concat]

theorem saysNothing_of_getLast?_trimEnd {fs : List (List Char)} {f : List Char}
    (h : (trimEnd fs).getLast? = some f) : saysNothing f = false := by
  rcases trimEnd_cases fs with ⟨htrim, _⟩ | ⟨init, g, htrim, hg, _⟩
  · simp [htrim] at h
  · rw [htrim, List.getLast?_concat] at h
    exact Option.some.inj h ▸ hg

theorem said_dot_joinFields {fs : List (List Char)} (hslash : ∀ f ∈ fs, '/' ∉ f)
    (hhead : ∀ f, fs.head? = some f → f = [])
    (hlast : ∀ f, fs.getLast? = some f → saysNothing f = false) :
    said ('.' :: joinFields '/' fs) = fs.filter (!saysNothing ·) := by
  cases fs with
  | nil => exact said_dot
  | cons f fs =>
    have hf : f = [] := hhead f rfl
    subst hf
    cases fs with
    | nil => exact absurd (hlast [] rfl) (by simp [saysNothing])
    | cons g fs =>
      have hsaid := said_joinFields fun f hf => hslash f (List.mem_cons_of_mem [] hf)
      rw [joinFields_cons_cons, List.nil_append]
      apply (said_append_slash ['.'] _).trans
      rw [said_dot, hsaid]
      simp [saysNothing]

theorem directories_isPrefix (s : List Char) :
    trimEnd (components s).dropLast <+: fields '/' (s.drop (headLength s)) := by
  have hdrop : (components s).dropLast <+: components s := List.dropLast_prefix _
  exact (trimEnd_isPrefix _).trans (hdrop.trans (trimEnd_isPrefix _))

/-- The parent of a path says all that the path says before its last component. -/
theorem said_parent (s : List Char) : said (parent s) = (said s).dropLast := by
  have hsaid : (trimEnd (components s).dropLast).filter (!saysNothing ·) = (said s).dropLast := by
    rw [filter_trimEnd]
    rcases components_cases s with ⟨hcomponents, hsaid⟩ | ⟨init, f, hcomponents, _, hsaid⟩
    · rw [hcomponents, hsaid]
      rfl
    · rw [hcomponents, hsaid, List.dropLast_concat, List.dropLast_concat]
  have hbegin := directories_isPrefix s
  have hslash : ∀ f ∈ trimEnd (components s).dropLast, '/' ∉ f := fun f hf =>
    notMem_of_mem_fields (hbegin.subset hf)
  have hlast := fun f => @saysNothing_of_getLast?_trimEnd (components s).dropLast f
  rw [← hsaid]
  unfold parent
  generalize trimEnd (components s).dropLast = fs at hbegin hslash hlast
  -- Behind a dot the fields begin with the empty one in front of the slash.
  have hhead : ∀ gs, fs <+: [] :: gs → ∀ f, fs.head? = some f → f = [] := by
    intro gs hgs f hf
    obtain ⟨tail, rfl⟩ := List.head?_eq_some_iff.mp hf
    exact (List.cons_prefix_cons.mp hgs).1
  revert hbegin
  unfold headLength
  split
  · intro _
    exact (said_slash _).trans (said_joinFields hslash)
  · intro hbegin
    exact said_dot_joinFields hslash (hhead [] hbegin) hlast
  · intro hbegin
    exact said_dot_joinFields hslash (hhead _ hbegin) hlast
  · intro _
    exact said_joinFields hslash

theorem head?_parent (s : List Char) : (parent s).head? = some '/' ↔ s.head? = some '/' := by
  have hbegin := directories_isPrefix s
  unfold parent
  generalize trimEnd (components s).dropLast = fs at hbegin
  revert hbegin
  unfold headLength
  split
  · simp
  · simp
  · simp
  · next hs _ _ =>
    intro hbegin
    have hs : s.head? ≠ some '/' := by
      intro h
      obtain ⟨tail, rfl⟩ := List.head?_eq_some_iff.mp h
      exact hs tail rfl
    refine iff_of_false (fun h => hs ?_) hs
    have hjoin : joinFields '/' fs <+: s := joinFields_fields '/' s ▸ joinFields_isPrefix hbegin
    obtain ⟨tail, htail⟩ := List.head?_eq_some_iff.mp h
    rw [List.take_zero, List.nil_append] at htail
    obtain ⟨more, rfl⟩ := htail ▸ hjoin
    rfl

theorem push_cases (s name : List Char) :
    (s = [] ∧ push s name = name) ∨
      (∃ t, s = t ++ ['/'] ∧ push s name = t ++ '/' :: name) ∨
      s ≠ [] ∧ push s name = s ++ '/' :: name := by
  unfold push
  rcases List.eq_nil_or_concat' s with rfl | ⟨t, c, rfl⟩
  · exact Or.inl ⟨rfl, rfl⟩
  · by_cases hc : c = '/'
    · subst hc
      exact Or.inr (Or.inl ⟨t, rfl, by simp⟩)
    · exact Or.inr (Or.inr ⟨by simp, by simp [hc]⟩)

theorem filter_fields_push {p : List Char → Bool} {name : List Char} (hp : p [] = false)
    (hslash : '/' ∉ name) (hname : p name = true) (s : List Char) :
    (fields '/' (push s name)).filter p = (fields '/' s).filter p ++ [name] := by
  have hfields : (fields '/' name).filter p = [name] := by simp [fields_of_notMem hslash, hname]
  have hnil : (fields '/' []).filter p = [] := by simp [fields, hp]
  rcases push_cases s name with ⟨rfl, hpush⟩ | ⟨t, rfl, hpush⟩ | ⟨_, hpush⟩
  · rw [hpush, hfields, hnil, List.nil_append]
  · rw [hpush, fields_append_cons, fields_append_cons, List.filter_append, List.filter_append,
      hfields, hnil, List.append_nil]
  · rw [hpush, fields_append_cons, List.filter_append, hfields]

theorem said_push {name : List Char} (hslash : '/' ∉ name) (hname : saysNothing name = false)
    (s : List Char) : said (push s name) = said s ++ [name] :=
  filter_fields_push (by simp [saysNothing]) hslash (by simp [hname]) s

theorem head?_push {name : List Char} (hslash : '/' ∉ name) (s : List Char) :
    (push s name).head? = some '/' ↔ s.head? = some '/' := by
  rcases push_cases s name with ⟨rfl, hpush⟩ | ⟨t, rfl, hpush⟩ | ⟨hs, hpush⟩
  · rw [hpush]
    refine iff_of_false (fun h => ?_) (by simp)
    exact hslash (List.mem_of_head? h)
  · rw [hpush]
    cases t <;> simp
  · rw [hpush, List.head?_append_of_ne_nil _ hs]

theorem getLast?_push {name : List Char} (hname : name ≠ []) (s : List Char) :
    (push s name).getLast? = name.getLast? := by
  have happend : ∀ t : List Char, (t ++ '/' :: name).getLast? = name.getLast? := by
    intro t
    rw [List.getLast?_append_of_ne_nil _ (by simp), List.getLast?_cons_of_ne_nil hname]
  rcases push_cases s name with ⟨rfl, hpush⟩ | ⟨t, rfl, hpush⟩ | ⟨_, hpush⟩
  · rw [hpush]
  · rw [hpush, happend]
  · rw [hpush, happend]

end ToastRelay.Path
