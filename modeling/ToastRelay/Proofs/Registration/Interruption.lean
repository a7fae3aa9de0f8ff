import ToastRelay.Proofs.Registration.File

/-!
# Saves that are cut off

A save makes the new file, fills it bit by bit, and moves it in one step. Whenever it is cut off
before the move, and also when it fails, at most the new file differs from what there was, and the
file that is loaded never does. After the move the file is the only one that has changed, and the
new file is gone.
-/

namespace ToastRelay

namespace FileTree
set_option autoImplicit false

/-- The path leads to a name in a directory, which is that location, whether anything is there or
not. -/
def LeadsTo (t : FileTree) (path : String) (l : Location) : Prop :=
  ∃ directory name slash, t.follow path = .ok (.entry directory name slash) ∧ l = name :: directory

theorem LeadsTo.mono {t u : FileTree} {path : String} {l : Location} (h : t.LeadsTo path l)
    (hroot : u.workingDirectory = t.workingDirectory)
    (hdirs : ∀ l, t.get? l = some .directory → u.get? l = some .directory) : u.LeadsTo path l := by
  obtain ⟨directory, name, slash, hfollow, rfl⟩ := h
  exact ⟨directory, name, slash, follow_mono hroot hdirs hfollow, rfl⟩

end FileTree

namespace RegistrationsFile
set_option autoImplicit false

open ToastRelay.Path

/-- What a save leaves that is cut off before it moves the new file: the files as they were, or the
new file with a part of its content, from nothing to the whole. -/
inductive CutOff (t : FileTree) (path : String) (rs : Registrations) : FileTree → Prop where
  | before : CutOff t path rs t
  | writing {part : Bytes} {u : FileTree} : part <+: contentOf rs →
      t.write (newPath path) part = .ok u → CutOff t path rs u

variable {t u w : FileTree} {path : String} {rs : Registrations} {content : Bytes} {l : Location}

theorem ne_of_leadsTo {file newFile : Location} (h : t.LeadsTo path file)
    (h' : t.LeadsTo (newPath path) newFile) : newFile ≠ file := by
  obtain ⟨directory, name, slash, hfollow, rfl⟩ := h
  obtain ⟨directory', name', slash', hfollow', rfl⟩ := h'
  obtain ⟨-, rfl⟩ := through_of_follow_newPath hfollow'
  have hname := ne_newName (fileName?_of_follow hfollow).1
  intro heq
  exact hname (List.cons.inj heq).1.symm

theorem leadsTo_newPath (h : t.write (newPath path) content = .ok u) :
    ∃ newFile, t.LeadsTo (newPath path) newFile ∧ newFile ≠ [] ∧
      t.get? newFile ≠ some .directory ∧ u = t.put newFile (.file content) := by
  obtain ⟨directory, name, hfollow, -, hdir, hu⟩ := FileTree.write_eq_ok h
  exact ⟨name :: directory, ⟨directory, name, false, hfollow, rfl⟩, List.cons_ne_nil _ _, hdir, hu⟩

theorem get?_of_write_newPath (h : t.write (newPath path) content = .ok u)
    (hl : ¬ t.LeadsTo (newPath path) l) : u.get? l = t.get? l := by
  obtain ⟨newFile, hnew, hne, -, rfl⟩ := leadsTo_newPath h
  rw [FileTree.get?_put hne, if_neg]
  rintro rfl
  exact hl hnew

/-- The path is read and loaded as before, and at most the new file has changed. -/
structure KeepsFile (t : FileTree) (path : String) (u : FileTree) : Prop where
  read : u.read path = t.read path
  load : load u path = load t path
  file : ∀ file, t.LeadsTo path file → u.get? file = t.get? file
  others : ∀ l, ¬ t.LeadsTo (newPath path) l → u.get? l = t.get? l

theorem CutOff.keepsFile (h : CutOff t path rs u) : KeepsFile t path u := by
  have hread : u.read path = t.read path := by
    cases h with
    | before => rfl
    | writing _ hwrite => exact read_of_write hwrite
  have hothers : ∀ l, ¬ t.LeadsTo (newPath path) l → u.get? l = t.get? l := by
    intro l hl
    cases h with
    | before => rfl
    | writing _ hwrite => exact get?_of_write_newPath hwrite hl
  refine ⟨hread, ?_, fun file hfile => ?_, hothers⟩
  · rw [load, load, FileTree.readText, FileTree.readText, hread]
  · exact hothers file fun hnew => ne_of_leadsTo hfile hnew rfl

theorem cutOff_of_not_saved {e : ErrorChain} (h : save t path rs = (.error e, u)) :
    CutOff t path rs u := by
  unfold save at h
  split at h
  · obtain ⟨-, rfl⟩ := Prod.mk.inj h
    exact .before
  · next written hwrite =>
    split at h
    · obtain ⟨-, rfl⟩ := Prod.mk.inj h
      exact .writing List.prefix_rfl hwrite
    · simp at h

theorem moved_of_saved (h : save t path rs = (.ok (), u)) :
    ∃ w, t.write (newPath path) (contentOf rs) = .ok w ∧ w.moveFile (newPath path) path = .ok u := by
  unfold save at h
  split at h
  · simp at h
  · next written hwrite =>
    split at h
    · simp at h
    · next moved hmove =>
      obtain ⟨-, rfl⟩ := Prod.mk.inj h
      exact ⟨written, hwrite, hmove⟩

theorem moved_newPath (hwrite : t.write (newPath path) content = .ok w)
    (hmove : w.moveFile (newPath path) path = .ok u) :
    ∃ file newFile, t.LeadsTo path file ∧ t.LeadsTo (newPath path) newFile ∧
      t.get? file ≠ some .directory ∧ t.get? newFile ≠ some .directory ∧
      u.workingDirectory = t.workingDirectory ∧
      ∀ k, u.get? k = if k = file then some (.file content) else
        if k = newFile then none else t.get? k := by
  obtain ⟨newFile, hnew, hnewNil, hnewDir, hw⟩ := leadsTo_newPath hwrite
  obtain ⟨directory, name, slash, content', fileDirectory, fileName, hsource, htarget, hget, -, hdir,
    hu⟩ := FileTree.moveFile_eq_ok hmove
  have hfile : t.LeadsTo path (fileName :: fileDirectory) :=
    ⟨fileDirectory, fileName, false, by rw [← htarget, follow_of_write hwrite], rfl⟩
  -- The new file is found again where it was written.
  have hplace : name :: directory = newFile := by
    obtain ⟨directory', name', slash', hfollow', rfl⟩ := hnew
    have hkept : w.follow (newPath path) = .ok (.entry directory' name' slash') := by
      refine FileTree.follow_mono (t := t) (by rw [hw]; rfl) (fun k hk => ?_) hfollow'
      rw [hw]
      exact FileTree.get?_put_directory hnewNil hnewDir hk
    rw [hkept] at hsource
    cases hsource
    rfl
  rw [hplace, hw] at hget hu
  have hcontent : content' = content := by
    rw [FileTree.get?_put hnewNil, if_pos rfl] at hget
    simpa using hget.symm
  rw [hcontent] at hu
  refine ⟨_, newFile, hfile, hnew, ?_, hnewDir, by rw [hu]; rfl, fun k => ?_⟩
  · rwa [hw, FileTree.get?_put hnewNil, if_neg (ne_of_leadsTo hfile hnew).symm] at hdir
  · rw [hu, FileTree.get?_put (List.cons_ne_nil _ _), FileTree.get?_delete hnewNil,
      FileTree.get?_put hnewNil]
    split
    · rfl
    · split
      · rfl
      · rfl

/-- A save replaces the file at once or fails, and wherever it is cut off, what is loaded is as
before. -/
theorem save_is_atomic (t : FileTree) (path : String) (rs : Registrations) :
    (∀ u, save t path rs = (.ok (), u) → ∃ file newFile,
      t.LeadsTo path file ∧ t.LeadsTo (newPath path) newFile ∧ newFile ≠ file ∧
      u.LeadsTo path file ∧ u.LeadsTo (newPath path) newFile ∧
      u.get? file = some (.file (Text.encode rs.toJson.indented)) ∧
      u.read path = .ok (Text.encode rs.toJson.indented) ∧ u.get? newFile = none ∧
      (∀ l, l ≠ file → l ≠ newFile → u.get? l = t.get? l) ∧
      ∃ w, CutOff t path rs w ∧ w.moveFile (newPath path) path = .ok u) ∧
    (∀ e u, save t path rs = (.error e, u) → CutOff t path rs u ∧ KeepsFile t path u) ∧
    ∀ u, CutOff t path rs u → KeepsFile t path u := by
  refine ⟨fun u h => ?_, fun e u h => ?_, fun u h => h.keepsFile⟩
  · obtain ⟨w, hwrite, hmove⟩ := moved_of_saved h
    obtain ⟨file, newFile, hfile, hnew, hfileDir, hnewDir, hroot, hget⟩ :=
      moved_newPath hwrite hmove
    have hne : newFile ≠ file := ne_of_leadsTo hfile hnew
    have hothers : ∀ l, l ≠ file → l ≠ newFile → u.get? l = t.get? l := by
      intro l hlfile hlnew
      rw [hget, if_neg hlfile, if_neg hlnew]
    have hkept : ∀ k, t.get? k = some .directory → u.get? k = some .directory := by
      intro k hk
      rw [hothers k, hk]
      · rintro rfl
        exact hfileDir hk
      · rintro rfl
        exact hnewDir hk
    have hcontent : u.get? file = some (.file (contentOf rs)) := by rw [hget, if_pos rfl]
    have hgone : u.get? newFile = none := by rw [hget, if_neg hne, if_pos rfl]
    exact ⟨file, newFile, hfile, hnew, hne, hfile.mono hroot hkept, hnew.mono hroot hkept, hcontent,
      read_of_saved h, hgone, hothers, w, .writing List.prefix_rfl hwrite, hmove⟩
  · have hcut := cutOff_of_not_saved h
    exact ⟨hcut, hcut.keepsFile⟩

/-- A new file that was left over is no obstacle, and a save over a directory leaves one. -/
theorem save_is_atomic_leftovers :
    let rs : Registrations :=
      Dictionary.ofList [("dev", ⟨"dev", "https://wns.example/1", none, none⟩)]
    let files : FileTree := ⟨["work"], [(["work"], .directory), (["old", "work"], .directory),
      (["registrations.json", "work"], .file [0x7B, 0x7D]),
      (["registrations.json.tmp", "work"], .file [0x5B])]⟩
    let saved := save files "registrations.json" rs
    let failed := save files "old" rs
    saved.1 = .ok () ∧ saved.2.read "registrations.json" = .ok (Text.encode rs.toJson.indented) ∧
    saved.2.get? ["registrations.json.tmp", "work"] = none ∧
    (∃ e, failed.1 = .error e) ∧ failed.2 ≠ files ∧ KeepsFile files "old" failed.2 ∧
    ∃ u, files.write "registrations.json.tmp" ((contentOf rs).take 5) = .ok u ∧ u ≠ files ∧
      load u "registrations.json" = .ok Dictionary.empty := by
  intro rs files saved failed
  have hsaved : saved.1 = .ok () := by rfl
  obtain ⟨hmoved, -, hcut⟩ := save_is_atomic files "registrations.json" rs
  obtain ⟨-, hfailed, -⟩ := save_is_atomic files "old" rs
  obtain ⟨file, newFile, -, hnew, -, -, -, -, hread, hgone, -⟩ := hmoved saved.2 (Prod.ext hsaved rfl)
  have hplace : newFile = ["registrations.json.tmp", "work"] := by
    obtain ⟨directory, name, slash, hfollow, rfl⟩ := hnew
    cases hfollow
    rfl
  have herror : failed.1 = .error (replacingError "old" .isDirectory) := by rfl
  have hwrite : files.write (newPath "registrations.json") ((contentOf rs).take 5) =
      .ok (files.put ["registrations.json.tmp", "work"] (.file ((contentOf rs).take 5))) := by rfl
  have hloads : load files "registrations.json" = .ok Dictionary.empty := load_of_read rfl
  refine ⟨hsaved, hread, hplace ▸ hgone, ⟨_, herror⟩, by decide +kernel,
    (hfailed _ _ (Prod.ext herror rfl)).2, _, hwrite, by decide +kernel, ?_⟩
  rw [(hcut _ (.writing (List.take_prefix 5 _) hwrite)).load, hloads]

end RegistrationsFile

end ToastRelay
