import ToastRelay.Proofs.FileTree.Follow
import ToastRelay.Proofs.Registration.RoundTrip
import ToastRelay.Proofs.Text.Utf8

/-!
# Saving beside the file and moving into its place

The new file stands in the directory of the file that it is to replace, under a name that no path to
that file ends with. So while it is being written the old file reads as before, and when it has been
moved the file reads as what was written.
-/

namespace ToastRelay.RegistrationsFile
set_option autoImplicit false

open Text ToastRelay.Path

def newName (path : String) : String := (fileName? path).getD "" ++ ".tmp"

/-- What a path says before the new file's name. -/
def beside (path : String) : List (List Char) :=
  if (fileName? path).isSome then (said path.toList).dropLast else said path.toList

theorem slash_notMem_fileName {path name : String} (h : fileName? path = some name) :
    '/' ∉ name.toList := by
  rw [fileName?_eq, Option.map_eq_some_iff] at h
  obtain ⟨f, hf, rfl⟩ := h
  rw [String.toList_ofList]
  exact slash_notMem_of_mem_said (List.mem_of_getLast? (Option.filter_eq_some_iff.mp hf).1)

theorem toList_newName (path : String) :
    (newName path).toList = ((fileName? path).getD "").toList ++ ['.', 't', 'm', 'p'] := by
  rw [newName, String.toList_append]
  rfl

theorem length_newName (path : String) : 4 ≤ (newName path).toList.length := by
  simp [toList_newName]

theorem slash_notMem_newName (path : String) : '/' ∉ (newName path).toList := by
  rw [toList_newName]
  cases h : fileName? path with
  | none => simp
  | some name => simpa using slash_notMem_fileName h

theorem saysNothing_newName (path : String) : saysNothing (newName path).toList = false := by
  have hlength := length_newName path
  generalize (newName path).toList = s at hlength
  match s with
  | [] => simp at hlength
  | [c] => simp at hlength
  | c :: d :: s => simp [saysNothing]

theorem newName_ne_dots (path : String) : (newName path).toList ≠ ['.', '.'] := by
  intro h
  have hlength := length_newName path
  rw [h] at hlength
  simp at hlength

theorem ne_newName {path name : String} (h : fileName? path = some name) : name ≠ newName path := by
  intro heq
  have hlist := toList_newName path
  rw [← heq, h, Option.getD_some] at hlist
  simp at hlist

theorem newPath_eq (path : String) : newPath path = String.ofList
    (push (if (fileName? path).isSome then parent path.toList else path.toList)
      (newName path).toList) := rfl

theorem said_newPath (path : String) :
    said (newPath path).toList = beside path ++ [(newName path).toList] := by
  rw [newPath_eq, String.toList_ofList,
    said_push (slash_notMem_newName path) (saysNothing_newName path), beside]
  split
  · rw [said_parent]
  · rfl

theorem head?_newPath (path : String) :
    (newPath path).toList.head? = some '/' ↔ path.toList.head? = some '/' := by
  rw [newPath_eq, String.toList_ofList, head?_push (slash_notMem_newName path)]
  split
  · exact head?_parent path.toList
  · rfl

theorem route_newPath (path : String) :
    (route (newPath path)).final = .entry (newName path) false := by
  rw [newPath_eq, route_push (slash_notMem_newName path) (saysNothing_newName path)
    (newName_ne_dots path), String.ofList_toList]

/-- The new file is entered in the directory that the path says before its file name. -/
theorem follow_newPath (path : String) :
    (∃ e, ∀ t : FileTree, t.follow (newPath path) = .error e) ∨
    ∀ t : FileTree, t.follow (newPath path) =
      (t.through path (beside path)).map (.entry · (newName path) false) := by
  rcases FileTree.follow_cases (newPath path) with
    hfault | ⟨hfinal, _⟩ | ⟨init, name, slash, hfinal, hsaid, _, hfollow⟩
  · exact Or.inl hfault
  · exact absurd (route_newPath path) (hfinal _ _)
  · refine Or.inr fun t => ?_
    rw [route_newPath] at hfinal
    obtain ⟨rfl, rfl⟩ := Path.Final.entry.inj hfinal
    rw [said_newPath] at hsaid
    obtain ⟨rfl, -⟩ := List.append_inj' hsaid rfl
    rw [hfollow]
    unfold FileTree.through
    simp only [head?_newPath]

theorem fileName?_of_said {path name : String} {init : List (List Char)}
    (hsaid : said path.toList = init ++ [name.toList]) (hname : name ≠ "..") :
    fileName? path = some name := by
  have hdots : name.toList ≠ ['.', '.'] := fun h =>
    hname (by rw [← String.ofList_toList (s := name), h])
  rw [fileName?_eq, hsaid, List.getLast?_concat, Option.filter_some_pos (by simpa using hdots),
    Option.map_some, String.ofList_toList]

theorem beside_of_said {path name : String} {init : List (List Char)}
    (hsaid : said path.toList = init ++ [name.toList]) (hname : name ≠ "..") :
    beside path = init := by
  rw [beside, fileName?_of_said hsaid hname, Option.isSome_some, if_pos rfl, hsaid,
    List.dropLast_concat]

theorem said_of_fileName? {path name : String} (h : fileName? path = some name) :
    said path.toList = beside path ++ [name.toList] := by
  have hbeside : beside path = (said path.toList).dropLast := by
    rw [beside, h, Option.isSome_some, if_pos rfl]
  rw [fileName?_eq, Option.map_eq_some_iff] at h
  obtain ⟨f, hf, rfl⟩ := h
  rw [hbeside, String.toList_ofList]
  exact (List.dropLast_append_getLast? f (Option.filter_eq_some_iff.mp hf).1).symm

section Tree
variable {t u : FileTree} {path : String} {content : Bytes}

theorem fileName?_of_follow {l : Location} {name : String} {slash : Bool}
    (h : t.follow path = .ok (.entry l name slash)) :
    fileName? path = some name ∧ t.through path (beside path) = .ok l := by
  rcases FileTree.follow_cases path with
    ⟨e, hfault⟩ | ⟨_, hfollow⟩ | ⟨init, name', slash', _, hsaid, hname, hfollow⟩
  · rw [hfault] at h
    cases h
  · rw [hfollow] at h
    cases ht : t.through path (said path.toList) <;> rw [ht] at h <;> cases h
  · rw [hfollow] at h
    cases ht : t.through path init with
    | error e => rw [ht] at h; cases h
    | ok l' =>
      rw [ht] at h
      cases h
      exact ⟨fileName?_of_said hsaid hname, by rw [beside_of_said hsaid hname, ht]⟩

theorem through_of_follow_newPath {l : Location} {name : String} {slash : Bool}
    (h : t.follow (newPath path) = .ok (.entry l name slash)) :
    t.through path (beside path) = .ok l ∧ name = newName path := by
  rcases follow_newPath path with ⟨e, hfault⟩ | hfollow
  · rw [hfault] at h
    cases h
  · rw [hfollow] at h
    cases ht : t.through path (beside path) with
    | error e => rw [ht] at h; cases h
    | ok l' =>
      rw [ht] at h
      cases h
      exact ⟨rfl, rfl⟩

theorem written_newPath (h : t.write (newPath path) content = .ok u) :
    ∃ l, t.through path (beside path) = .ok l ∧ u.through path (beside path) = .ok l ∧
      u = t.put (newName path :: l) (.file content) := by
  obtain ⟨l, name, hfollow, -, hdir, hu⟩ := FileTree.write_eq_ok h
  obtain ⟨hthrough, rfl⟩ := through_of_follow_newPath hfollow
  refine ⟨l, hthrough, ?_, hu⟩
  refine FileTree.through_mono (by rw [hu]; rfl) (fun l' hl' => ?_) hthrough
  rw [hu]
  exact FileTree.get?_put_directory (List.cons_ne_nil _ _) hdir hl'

theorem get?_of_write {name : String} (h : t.write (newPath path) content = .ok u)
    (hname : fileName? path = some name) (l : Location) :
    u.get? (name :: l) = t.get? (name :: l) := by
  obtain ⟨l', -, -, hu⟩ := written_newPath h
  rw [hu, FileTree.get?_put (List.cons_ne_nil _ _), if_neg]
  exact fun heq => ne_newName hname (List.cons.inj heq).1

theorem follow_of_write (h : t.write (newPath path) content = .ok u) :
    u.follow path = t.follow path := by
  obtain ⟨l, hthrough, hkept, -⟩ := written_newPath h
  -- The path can lead into the directory of the new file, through a name in it, or to such a name.
  rcases FileTree.follow_cases path with
    ⟨e, hfault⟩ | ⟨_, hpath⟩ | ⟨init, name, slash, _, hsaid, hname, hpath⟩
  · rw [hfault, hfault]
  · rw [hpath, hpath]
    cases hname : fileName? path with
    | none =>
      have hbeside : beside path = said path.toList := by rw [beside, hname]; rfl
      rw [← hbeside, hkept, hthrough]
    | some name =>
      have henter : u.enter l name = t.enter l name :=
        FileTree.enter_congr (get?_of_write h hname l)
      rw [said_of_fileName? hname, FileTree.through_concat, FileTree.through_concat, hkept,
        hthrough, String.ofList_toList]
      simp only [Except.bind, henter]
  · rw [hpath, hpath, ← beside_of_said hsaid hname, hkept, hthrough]

/-- Writing the new file changes nothing at the path, whatever is read there. -/
theorem read_of_write (h : t.write (newPath path) content = .ok u) : u.read path = t.read path :=
  FileTree.read_congr (follow_of_write h) fun l _ _ hpath =>
    get?_of_write h (fileName?_of_follow hpath).1 l

theorem read_of_moveFile {source : String} (h : t.moveFile source path = .ok u) :
    ∃ l name slash, t.follow source = .ok (.entry l name slash) ∧
      ∀ content, t.get? (name :: l) = some (.file content) → u.read path = .ok content := by
  obtain ⟨l, name, slash, content, l', name', hsource, htarget, hget, hsize, hdir, rfl⟩ :=
    FileTree.moveFile_eq_ok h
  refine ⟨l, name, slash, hsource, fun content' hcontent => ?_⟩
  obtain rfl : content = content' := by simpa [hget] using hcontent
  set u := (t.delete (name :: l)).put (name' :: l') (.file content) with hu
  -- Neither place was a directory, so the path leads where it led before.
  have hkept : ∀ k, t.get? k = some .directory → u.get? k = some .directory := by
    intro k hk
    refine FileTree.get?_put_directory (List.cons_ne_nil _ _) ?_
      (FileTree.get?_delete_directory (List.cons_ne_nil _ _) (by rw [hget]; simp) hk)
    rw [FileTree.get?_delete (List.cons_ne_nil _ _)]
    split
    · simp
    · exact hdir
  have hfollow : u.follow path = .ok (.entry l' name' false) :=
    FileTree.follow_mono (t := t) rfl hkept htarget
  have hfile : u.get? (name' :: l') = some (.file content) := by
    rw [hu, FileTree.get?_put (List.cons_ne_nil _ _), if_pos rfl]
  unfold FileTree.read
  rw [hfollow]
  simp only [bind, Except.bind, FileTree.entryIn, if_neg (Nat.not_lt.mpr hsize), hfile]
  rfl

/-- A save that fails changes nothing at the path. -/
theorem read_of_not_saved {e : ErrorChain} {rs : Registrations}
    (h : save t path rs = (.error e, u)) : u.read path = t.read path := by
  unfold save at h
  split at h
  · obtain ⟨-, rfl⟩ := Prod.mk.inj h
    rfl
  · next written hwrite =>
    split at h
    · obtain ⟨-, rfl⟩ := Prod.mk.inj h
      exact read_of_write hwrite
    · simp at h

theorem read_of_saved {rs : Registrations} (h : save t path rs = (.ok (), u)) :
    u.read path = .ok (contentOf rs) := by
  unfold save at h
  split at h
  · simp at h
  next written hwrite =>
  split at h
  · simp at h
  next moved hmove =>
  obtain ⟨-, rfl⟩ := Prod.mk.inj h
  obtain ⟨l, -, hkept, hwritten⟩ := written_newPath hwrite
  obtain ⟨l', name', slash, hsource, hread⟩ := read_of_moveFile hmove
  obtain ⟨hthrough', rfl⟩ := through_of_follow_newPath hsource
  obtain rfl : l = l' := Except.ok.inj (hkept.symm.trans hthrough')
  apply hread _
  rw [hwritten, FileTree.get?_put (List.cons_ne_nil _ _), if_pos rfl]

theorem load_of_not_saved {e : ErrorChain} {rs : Registrations}
    (h : save t path rs = (.error e, u)) : load u path = load t path := by
  rw [load, load, FileTree.readText, FileTree.readText, read_of_not_saved h]

/-- What was written for registrations is loaded as those registrations. -/
theorem load_of_read {rs : Registrations} (h : t.read path = .ok (contentOf rs)) :
    load t path = .ok rs := by
  rw [load, FileTree.readText_eq_ok_iff.mpr h, ofRead, Registrations.parse_toText]

theorem load_of_saved {rs : Registrations} (h : save t path rs = (.ok (), u)) :
    load u path = .ok rs :=
  load_of_read (read_of_saved h)

end Tree

theorem contentOf_injective {rs rs' : Registrations} (h : contentOf rs = contentOf rs') :
    rs = rs' := by
  have htext : some rs.toText = some rs'.toText := by
    rw [← decode?_encode, ← decode?_encode]
    exact congrArg decode? h
  have hparse : (Except.ok rs : Except ReadError Registrations) = .ok rs' := by
    rw [← Registrations.parse_toText, ← Registrations.parse_toText, Option.some.inj htext]
  exact Except.ok.inj hparse

/-- Whatever the registrations and wherever they are saved, the file holds bytes from which exactly
they are loaded, and no other registrations are written as these bytes. -/
theorem registrations_file_is_faithful (rs : Registrations) :
    (∀ (t u : FileTree) (path : String), save t path rs = (.ok (), u) →
      u.read path = .ok (contentOf rs) ∧ load u path = .ok rs) ∧
    ∀ rs' : Registrations, contentOf rs' = contentOf rs → rs' = rs :=
  ⟨fun _ _ _ h => ⟨read_of_saved h, load_of_saved h⟩, fun _ => contentOf_injective⟩

/-- Control characters, quotation marks, an empty name and a key that is not the identifier are no
obstacle. -/
theorem registrations_file_is_faithful_unusual :
    let device : Registration :=
      ⟨"\"\\\x00\n\x1f", "https://wns.example/\x7fü😀", some 18446744073709551615, some ""⟩
    let rs : Registrations := Dictionary.ofList [("", device), ("ü", ⟨"", "", none, none⟩)]
    let files : FileTree := ⟨["work"], [(["work"], .directory),
      (["registrations.json", "work"], .file [0x7B]),
      (["registrations.json.tmp", "work"], .file [0x5B])]⟩
    let saved := save files "registrations.json" rs
    saved.1 = .ok () ∧
    saved.2.read "registrations.json" = .ok (contentOf rs) ∧
    load saved.2 "registrations.json" = .ok rs ∧
    contentOf (rs.insert "" { device with name := none }) ≠ contentOf rs := by
  intro device rs files saved
  have hsaved : saved.1 = .ok () := by rfl
  obtain ⟨hkept, hwritten⟩ := registrations_file_is_faithful rs
  obtain ⟨hread, hload⟩ := hkept files saved.2 "registrations.json" (Prod.ext hsaved rfl)
  refine ⟨hsaved, hread, hload, fun h => ?_⟩
  have hname : (rs.insert "" { device with name := none }).get? "" = rs.get? "" :=
    congrArg (Dictionary.get? · "") (hwritten _ h)
  exact absurd hname (by decide +kernel)

end ToastRelay.RegistrationsFile

namespace ToastRelay

def filesWith (rs : Registrations) : FileTree :=
  ⟨["work"], [(["registrations.json", "work"], .file (RegistrationsFile.contentOf rs)),
    (["work"], .directory)]⟩

theorem load_filesWith (rs : Registrations) :
    RegistrationsFile.load (filesWith rs) "registrations.json" = .ok rs := by
  have hread : (filesWith rs).read "registrations.json" =
      .ok (RegistrationsFile.contentOf rs) := rfl
  exact RegistrationsFile.load_of_read hread

end ToastRelay
