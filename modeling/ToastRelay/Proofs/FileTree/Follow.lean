import ToastRelay.FileTree
import ToastRelay.Proofs.FileTree.Names
import ToastRelay.Proofs.Text.Utf8

/-!
# Where a path leads

A path that is no fault in itself leads through what it says, whatever says nothing in it: to a name
in the directory that it says before its last component, or into the last directory that it names.
-/

namespace ToastRelay.Path
set_option autoImplicit false

open Text

theorem filter_fields_ne_nil (s : List Char) :
    ((fields '/' s).filter (· ≠ [])).filter (· ≠ ['.']) = said s := by
  rw [List.filter_filter, said]
  congr 1
  funext f
  by_cases h : f = [] <;> by_cases h' : f = ['.'] <;> simp [saysNothing, h, h']

theorem ofList_eq_iff (f : List Char) (name : String) : String.ofList f = name ↔ f = name.toList :=
  ⟨fun h => by rw [← h, String.toList_ofList], fun h => by rw [h, String.ofList_toList]⟩

theorem filter_map_ofList (fs : List (List Char)) :
    (fs.map String.ofList).filter (· ≠ ".") = (fs.filter (· ≠ ['.'])).map String.ofList := by
  rw [List.filter_map]
  congr 2
  funext f
  simp [ofList_eq_iff]

theorem route_of_nil {path : String} (h : (fields '/' path.toList).filter (· ≠ []) = []) :
    route path = ⟨path.toList.head? = some '/', [], .root⟩ := by
  simp only [route, h, List.map_nil, List.getLast?_nil, List.dropLast_nil]

theorem route_of_concat {path : String} {init : List (List Char)} {f : List Char}
    (h : (fields '/' path.toList).filter (· ≠ []) = init ++ [f]) :
    route path = if f = ['.'] ∨ f = ['.', '.'] then
        ⟨path.toList.head? = some '/', (init ++ [f]).map String.ofList, .dots⟩
      else ⟨path.toList.head? = some '/', init.map String.ofList,
        .entry (String.ofList f) (path.toList.getLast? = some '/')⟩ := by
  have hlast : ((init ++ [f]).map String.ofList).getLast? = some (String.ofList f) := by simp
  have hinit : ((init ++ [f]).map String.ofList).dropLast = init.map String.ofList := by simp
  have hdots : (String.ofList f = "." || String.ofList f = "..") =
      decide (f = ['.'] ∨ f = ['.', '.']) := by simp [ofList_eq_iff]
  by_cases hf : f = ['.'] ∨ f = ['.', '.']
  · simp only [route, h, hlast, hdots, decide_eq_true_eq, if_pos hf]
  · simp only [route, h, hlast, hinit, hdots, decide_eq_true_eq, if_neg hf]

theorem route_absolute (path : String) :
    (route path).absolute = decide (path.toList.head? = some '/') := rfl

theorem route_push {name : List Char} (hslash : '/' ∉ name) (hname : saysNothing name = false)
    (hdots : name ≠ ['.', '.']) (s : List Char) :
    (route (String.ofList (push s name))).final = .entry (String.ofList name) false := by
  have hne : name ≠ [] := by
    rintro rfl
    simp [saysNothing] at hname
  have hdot : name ≠ ['.'] := by
    rintro rfl
    simp [saysNothing] at hname
  have hfields := filter_fields_push (p := (· ≠ [])) (by simp) hslash (by simpa using hne) s
  have hlast : (push s name).getLast? ≠ some '/' := by
    rw [getLast?_push hne]
    exact fun h => hslash (List.mem_of_getLast? h)
  rw [← String.toList_ofList (l := push s name)] at hfields
  rw [route_of_concat hfields, if_neg (not_or.mpr ⟨hdot, hdots⟩), String.toList_ofList,
    decide_eq_false hlast]

/-- A path leads into the last directory that it says, or to the name that it says last, in the
directory that it says before. -/
theorem route_cases (path : String) :
    ((∀ name slash, (route path).final ≠ .entry name slash) ∧
      (route path).directories.filter (· ≠ ".") = (said path.toList).map String.ofList) ∨
    ∃ init name, (route path).final = .entry name (path.toList.getLast? = some '/') ∧
      said path.toList = init ++ [name.toList] ∧ name ≠ ".." ∧
      (route path).directories.filter (· ≠ ".") = init.map String.ofList := by
  have hsaid := filter_fields_ne_nil path.toList
  rcases List.eq_nil_or_concat' ((fields '/' path.toList).filter (· ≠ [])) with hfs | ⟨init, f, hfs⟩
  · refine Or.inl ?_
    rw [route_of_nil hfs, ← hsaid, hfs]
    simp
  · rw [hfs] at hsaid
    rw [route_of_concat hfs]
    by_cases hf : f = ['.'] ∨ f = ['.', '.']
    · refine Or.inl ?_
      rw [if_pos hf, ← hsaid, filter_map_ofList]
      simp
    · obtain ⟨hdot, hdots⟩ := not_or.mp hf
      refine Or.inr ⟨init.filter (· ≠ ['.']), String.ofList f, ?_, ?_, ?_, ?_⟩
      · rw [if_neg hf]
      · rw [← hsaid, List.filter_append, String.toList_ofList]
        simp [hdot]
      · simpa [ofList_eq_iff] using hdots
      · rw [if_neg hf, filter_map_ofList]

end ToastRelay.Path

namespace ToastRelay.FileTree
set_option autoImplicit false

open ToastRelay.Path

variable {t u : FileTree} {l : Location} {e : Entry}

theorem lookup_cons_if (d : Location × Entry) (entries : List (Location × Entry)) (l : Location) :
    (d :: entries).lookup l = if l = d.1 then some d.2 else entries.lookup l := by
  by_cases h : l = d.1
  · rw [if_pos h, h]
    exact List.lookup_cons_self
  · have hne : (l == d.1) = false := by simpa using h
    rw [List.lookup_cons, hne, if_neg h]

theorem lookup_filter_ne (entries : List (Location × Entry)) (l l' : Location) :
    (entries.filter (·.1 ≠ l)).lookup l' = if l' = l then none else entries.lookup l' := by
  induction entries with
  | nil => simp
  | cons d entries ih =>
    by_cases hd : d.1 = l
    · rw [List.filter_cons_of_neg (by simpa using hd), ih, lookup_cons_if, hd]
      split <;> rfl
    · rw [List.filter_cons_of_pos (by simpa using hd), lookup_cons_if, lookup_cons_if, ih]
      by_cases hl : l' = l
      · have hne : l' ≠ d.1 := fun h => hd (h.symm.trans hl)
        rw [if_neg hne, if_pos hl, if_pos hl]
      · rw [if_neg hl, if_neg hl]

theorem get?_put (hl : l ≠ []) (t : FileTree) (e : Entry) (l' : Location) :
    (t.put l e).get? l' = if l' = l then some e else t.get? l' := by
  simp only [get?, put, lookup_cons_if, lookup_filter_ne]
  by_cases hl' : l' = l
  · simp [hl', hl]
  · simp [hl']

theorem get?_delete (hl : l ≠ []) (t : FileTree) (l' : Location) :
    (t.delete l).get? l' = if l' = l then none else t.get? l' := by
  simp only [get?, delete, lookup_filter_ne]
  by_cases hl' : l' = l
  · simp [hl', hl]
  · simp [hl']

theorem put_put (t : FileTree) (l : Location) (d e : Entry) : (t.put l d).put l e = t.put l e := by
  simp [put, List.filter_filter]

theorem delete_put (t : FileTree) (l : Location) (e : Entry) :
    (t.put l e).delete l = t.delete l := by
  simp [put, delete, List.filter_filter]

theorem delete_delete (t : FileTree) (l : Location) : (t.delete l).delete l = t.delete l := by
  simp [delete, List.filter_filter]

theorem delete_put_of_ne {l' : Location} (h : l ≠ l') (t : FileTree) (e : Entry) :
    (t.put l e).delete l' = (t.delete l').put l e := by
  simp only [put, delete, List.filter_filter]
  rw [List.filter_cons_of_pos (by simpa using h)]
  simp only [List.filter_filter, Bool.and_comm]

theorem get?_put_directory {l l' : Location} {content : Bytes} (hl : l ≠ [])
    (h : t.get? l ≠ some .directory) (h' : t.get? l' = some .directory) :
    (t.put l (.file content)).get? l' = some .directory := by
  rw [get?_put hl, if_neg, h']
  rintro rfl
  exact h h'

theorem get?_delete_directory {l l' : Location} (hl : l ≠ []) (h : t.get? l ≠ some .directory)
    (h' : t.get? l' = some .directory) : (t.delete l).get? l' = some .directory := by
  rw [get?_delete hl, if_neg, h']
  rintro rfl
  exact h h'

theorem enter_dot (t : FileTree) (l : Location) : t.enter l "." = .ok l := by simp [enter]

theorem foldlM_enter_filter (t : FileTree) (names : List String) (l : Location) :
    (names.filter (· ≠ ".")).foldlM t.enter l = names.foldlM t.enter l := by
  induction names generalizing l with
  | nil => rfl
  | cons name names ih =>
    by_cases hname : name = "."
    · subst hname
      rw [List.filter_cons_of_neg (by simp), ih, List.foldlM_cons, enter_dot]
      rfl
    · rw [List.filter_cons_of_pos (by simpa using hname), List.foldlM_cons, List.foldlM_cons]
      congr 1
      funext l
      exact ih l

/-- Goes through directories from where a path begins. -/
def through (t : FileTree) (path : String) (names : List (List Char)) : Except FileError Location :=
  (names.map String.ofList).foldlM t.enter
    (if path.toList.head? = some '/' then [] else t.workingDirectory)

/-- Only the last of the conditions looks at the tree. -/
theorem follow_eq (path : String) (t : FileTree) : t.follow path =
    if path.toList.contains '\x00' then .error .zeroInName
    else if path = "" then .error .notFound
    else if longestPath < path.utf8ByteSize then .error .nameTooLong
    else ((route path).directories.foldlM t.enter
      (if (route path).absolute then [] else t.workingDirectory)).map fun l =>
        match (route path).final with
        | .entry name slash => .entry l name slash
        | _ => .directory l := by
  unfold follow
  simp only [bind, Except.bind, pure, Except.pure, throw, throwThe, MonadExceptOf.throw]
  repeat' split
  all_goals simp_all [Except.map]

/-- A path is a fault in itself, or it leads into a directory, or to a name in one. Which of the
three it is does not depend on the tree. -/
theorem follow_cases (path : String) :
    (∃ e, ∀ t : FileTree, t.follow path = .error e) ∨
    ((∀ name slash, (route path).final ≠ .entry name slash) ∧
      ∀ t : FileTree, t.follow path = (t.through path (said path.toList)).map .directory) ∨
    ∃ init name slash, (route path).final = .entry name slash ∧
      said path.toList = init ++ [name.toList] ∧ name ≠ ".." ∧
      ∀ t : FileTree, t.follow path = (t.through path init).map (.entry · name slash) := by
  have hthrough : ∀ (t : FileTree) names, (route path).directories.filter (· ≠ ".") =
      names.map String.ofList → (route path).directories.foldlM t.enter
        (if (route path).absolute then [] else t.workingDirectory) = t.through path names := by
    intro t names hnames
    rw [through, ← hnames, foldlM_enter_filter, route_absolute]
    simp only [decide_eq_true_eq]
  by_cases h1 : path.toList.contains '\x00' = true
  · exact Or.inl ⟨.zeroInName, fun t => by rw [follow_eq, if_pos h1]⟩
  by_cases h2 : path = ""
  · exact Or.inl ⟨.notFound, fun t => by rw [follow_eq, if_neg h1, if_pos h2]⟩
  by_cases h3 : longestPath < path.utf8ByteSize
  · exact Or.inl ⟨.nameTooLong, fun t => by rw [follow_eq, if_neg h1, if_neg h2, if_pos h3]⟩
  refine Or.inr ?_
  simp only [follow_eq, if_neg h1, if_neg h2, if_neg h3]
  rcases route_cases path with ⟨hfinal, hdirs⟩ | ⟨init, name, hfinal, hsaid, hname, hdirs⟩
  · refine Or.inl ⟨hfinal, fun t => ?_⟩
    rw [hthrough t _ hdirs]
    congr 1
    funext l
    split
    · next name slash h => exact absurd h (hfinal name slash)
    · rfl
  · refine Or.inr ⟨init, name, _, hfinal, hsaid, hname, fun t => ?_⟩
    rw [hthrough t _ hdirs, hfinal]

theorem enter_congr {name : String} (h : u.get? (name :: l) = t.get? (name :: l)) :
    u.enter l name = t.enter l name := by
  simp only [enter, h]

theorem enter_mono {name : String} {l' : Location}
    (hdirs : ∀ l, t.get? l = some .directory → u.get? l = some .directory)
    (h : t.enter l name = .ok l') : u.enter l name = .ok l' := by
  by_cases hdot : name = "."
  · simpa [enter, hdot] using h
  by_cases hdots : name = ".."
  · simpa [enter, hdots] using h
  have hget : t.get? (name :: l) = some .directory := by
    simp only [enter, if_neg hdot, if_neg hdots] at h
    split at h
    · simp at h
    · split at h
      · simp at h
      · simp at h
      · next hget => exact hget
  rw [enter_congr ((hdirs _ hget).trans hget.symm), h]

/-- Where one tree leads through directories, so does every tree that has the same directories. -/
theorem through_mono {path : String} {names : List (List Char)} {l : Location}
    (hroot : u.workingDirectory = t.workingDirectory)
    (hdirs : ∀ l, t.get? l = some .directory → u.get? l = some .directory)
    (h : t.through path names = .ok l) : u.through path names = .ok l := by
  unfold through at h ⊢
  rw [hroot]
  generalize (if path.toList.head? = some '/' then [] else t.workingDirectory) = start at h ⊢
  induction names generalizing start with
  | nil => exact h
  | cons name names ih =>
    rw [List.map_cons, List.foldlM_cons] at h ⊢
    cases hname : t.enter start (String.ofList name) with
    | error e => rw [hname] at h; simp [bind, Except.bind] at h
    | ok next =>
      rw [hname] at h
      rw [enter_mono hdirs hname]
      exact ih next h

theorem through_concat (t : FileTree) (path : String) (names : List (List Char)) (f : List Char) :
    t.through path (names ++ [f]) = (t.through path names).bind (t.enter · (String.ofList f)) := by
  simp only [through, List.map_append, List.foldlM_append, List.map_cons, List.map_nil,
    List.foldlM_cons, List.foldlM_nil, bind_pure]
  rfl

theorem follow_mono {path : String} {target : Target}
    (hroot : u.workingDirectory = t.workingDirectory)
    (hdirs : ∀ l, t.get? l = some .directory → u.get? l = some .directory)
    (h : t.follow path = .ok target) : u.follow path = .ok target := by
  have hsame : ∀ names l, t.through path names = .ok l → u.through path names = .ok l :=
    fun names l => through_mono hroot hdirs
  rcases follow_cases path with ⟨e, hfault⟩ | ⟨_, hpath⟩ | ⟨init, name, slash, _, _, _, hpath⟩
  · rw [hfault] at h
    cases h
  · rw [hpath] at h ⊢
    cases ht : t.through path (said path.toList) with
    | error e => rw [ht] at h; cases h
    | ok l => rwa [hsame _ l ht, ← ht]
  · rw [hpath] at h ⊢
    cases ht : t.through path init with
    | error e => rw [ht] at h; cases h
    | ok l => rwa [hsame _ l ht, ← ht]

theorem read_congr {path : String} (hfollow : u.follow path = t.follow path)
    (hget : ∀ l name slash, t.follow path = .ok (.entry l name slash) →
      u.get? (name :: l) = t.get? (name :: l)) : u.read path = t.read path := by
  unfold read
  rw [hfollow]
  cases h : t.follow path with
  | error e => rfl
  | ok target =>
    cases target with
    | directory l => rfl
    | entry l name slash =>
      have hentry : u.entryIn l name = t.entryIn l name := by
        rw [entryIn, entryIn, hget l name slash h]
      simp only [bind, Except.bind, hentry]

theorem entryIn_eq_ok {l : Location} {name : String} {e : Option Entry}
    (h : t.entryIn l name = .ok e) : name.utf8ByteSize ≤ longestName ∧ t.get? (name :: l) = e := by
  unfold entryIn at h
  split at h
  · simp at h
  · next hsize => exact ⟨Nat.le_of_not_lt hsize, Except.ok.inj h⟩

theorem entryIn_of_short {name : String} (h : name.utf8ByteSize ≤ longestName) (t : FileTree)
    (l : Location) : t.entryIn l name = .ok (t.get? (name :: l)) := by
  rw [entryIn, if_neg (Nat.not_lt.mpr h)]

theorem write_eq_ok {path : String} {content : Bytes} (h : t.write path content = .ok u) :
    ∃ l name, t.follow path = .ok (.entry l name false) ∧ name.utf8ByteSize ≤ longestName ∧
      t.get? (name :: l) ≠ some .directory ∧ u = t.put (name :: l) (.file content) := by
  unfold write at h
  simp only [bind, Except.bind, pure, Except.pure, throw, throwThe, MonadExceptOf.throw] at h
  split at h
  · simp at h
  · next target hfollow =>
    split at h
    · simp at h
    · next l name slash =>
      split at h
      · simp at h
      · next hslash =>
        split at h
        · simp at h
        · next old hold =>
          obtain ⟨hsize, hold⟩ := entryIn_eq_ok hold
          split at h
          · simp at h
          · next hdir =>
            refine ⟨l, name, ?_, hsize, ?_, (Except.ok.inj h).symm⟩
            · rw [hfollow, Bool.eq_false_iff.mpr hslash]
            · rw [hold]
              exact fun h => hdir h

theorem moveFile_eq_ok {source target : String} (h : t.moveFile source target = .ok u) :
    ∃ l name slash content l' name', t.follow source = .ok (.entry l name slash) ∧
      t.follow target = .ok (.entry l' name' false) ∧
      t.get? (name :: l) = some (.file content) ∧
      name'.utf8ByteSize ≤ longestName ∧ t.get? (name' :: l') ≠ some .directory ∧
      u = (t.delete (name :: l)).put (name' :: l') (.file content) := by
  unfold moveFile at h
  simp only [bind, Except.bind, pure, Except.pure, throw, throwThe, MonadExceptOf.throw] at h
  split at h
  · simp at h
  next sourceTarget hsource =>
  split at h
  · simp at h
  next targetTarget htarget =>
  split at h
  · next l name slash l' name' slash' =>
    split at h
    · simp at h
    next e hentry =>
    split at h
    · simp at h
    · simp at h
    next content =>
    split at h
    · simp at h
    next old hold =>
    split at h
    · simp at h
    next hslash =>
    split at h
    · simp at h
    next hdir =>
    obtain ⟨hsize, hold⟩ := entryIn_eq_ok hold
    refine ⟨l, name, slash, content, l', name', hsource, ?_, (entryIn_eq_ok hentry).2, hsize, ?_,
      (Except.ok.inj h).symm⟩
    · rw [htarget, Bool.eq_false_iff.mpr hslash]
    · rw [hold]
      exact hdir
  · simp at h

theorem write_of_follow {path : String} {l : Location} {name : String}
    (hfollow : t.follow path = .ok (.entry l name false)) (hsize : name.utf8ByteSize ≤ longestName)
    (hdir : t.get? (name :: l) ≠ some .directory) (content : Bytes) :
    t.write path content = .ok (t.put (name :: l) (.file content)) := by
  unfold write
  simp only [hfollow, entryIn_of_short hsize, bind, Except.bind]
  split
  · contradiction
  · rfl

theorem moveFile_of_follow {source target : String} {l l' : Location} {name name' : String}
    {slash : Bool} {content : Bytes} (hsource : t.follow source = .ok (.entry l name slash))
    (htarget : t.follow target = .ok (.entry l' name' false))
    (hsize : name.utf8ByteSize ≤ longestName) (hsize' : name'.utf8ByteSize ≤ longestName)
    (hget : t.get? (name :: l) = some (.file content))
    (hdir : t.get? (name' :: l') ≠ some .directory) :
    t.moveFile source target = .ok ((t.delete (name :: l)).put (name' :: l') (.file content)) := by
  unfold moveFile
  simp only [hsource, htarget, entryIn_of_short hsize, entryIn_of_short hsize', hget, bind,
    Except.bind, if_neg hdir]
  rfl

/-! ## Texts -/

section Texts
open Text

theorem readText_eq_ok_iff {path text : String} :
    t.readText path = .ok text ↔ t.read path = .ok (encode text) := by
  rw [readText]
  cases hread : t.read path with
  | error e => simp [bind, Except.bind]
  | ok content =>
    simp only [bind, Except.bind]
    constructor
    · intro h
      split at h
      · next s hs =>
        cases h
        rw [eq_encode_of_decode? hs]
      · cases h
    · intro h
      rw [Except.ok.inj h, decode?_encode]
      rfl

theorem readText_of_error {path : String} {e : FileError}
    (h : t.read path = .error e) : t.readText path = .error e := by
  rw [readText, h]
  rfl

theorem readText_of_not_text {path : String} {content : Bytes}
    (h : t.read path = .ok content) (htext : ∀ text, content ≠ encode text) :
    t.readText path = .error .notText := by
  rw [readText, h]
  simp only [bind, Except.bind]
  cases hdecode : decode? content with
  | none => rfl
  | some text => exact absurd (eq_encode_of_decode? hdecode) (htext text)

end Texts

end ToastRelay.FileTree
