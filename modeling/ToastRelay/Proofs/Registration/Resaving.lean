import ToastRelay.Proofs.Registration.Interruption

/-!
# Saves one after another

Whether registrations can be saved at a path depends on the directories and on nothing that a save
changes. A save takes the new file away and puts the file in its place. So a save after another one
comes to the same as if there had not been the other one, and it does not matter for the files which
registrations were saved in between.
-/

namespace ToastRelay.RegistrationsFile
set_option autoImplicit false

open ToastRelay.Path

/-- Registrations can be saved at the path: it ends at a short name in a directory, and neither
there nor at the new file beside it is a directory. -/
structure Savable (t : FileTree) (path : String) (l : Location) (name : String) : Prop where
  file : t.follow path = .ok (.entry l name false)
  newFile : t.follow (newPath path) = .ok (.entry l (newName path) false)
  short : name.utf8ByteSize ≤ FileTree.longestName
  newShort : (newName path).utf8ByteSize ≤ FileTree.longestName
  noDirectory : t.get? (name :: l) ≠ some .directory
  noNewDirectory : t.get? (newName path :: l) ≠ some .directory

/-- The tree with another content of the file, and without the new file. -/
def replaced (t : FileTree) (path : String) (l : Location) (name : String) (content : Bytes) :
    FileTree :=
  (t.delete (newName path :: l)).put (name :: l) (.file content)

variable {t u : FileTree} {path name : String} {l : Location} {rs : Registrations}

theorem Savable.ne (h : Savable t path l name) : name :: l ≠ newName path :: l := by
  intro heq
  exact ne_newName (fileName?_of_follow h.file).1 (List.cons.inj heq).1

theorem savable_of_saved (h : save t path rs = (.ok (), u)) : ∃ l name, Savable t path l name := by
  obtain ⟨w, hwrite, hmove⟩ := moved_of_saved h
  obtain ⟨directory, name, hnew, hnewShort, hnewDir, hw⟩ := FileTree.write_eq_ok hwrite
  obtain ⟨-, -, -, -, l, name', -, htarget, -, hshort, hdir, -⟩ := FileTree.moveFile_eq_ok hmove
  rw [follow_of_write hwrite] at htarget
  obtain ⟨hthrough, rfl⟩ := through_of_follow_newPath hnew
  obtain ⟨hname, hthrough'⟩ := fileName?_of_follow htarget
  obtain rfl : directory = l := Except.ok.inj (hthrough.symm.trans hthrough')
  refine ⟨directory, name', htarget, hnew, hshort, hnewShort, ?_, hnewDir⟩
  rwa [get?_of_write hwrite hname] at hdir

theorem save_of_savable (h : Savable t path l name) (rs : Registrations) :
    save t path rs = (.ok (), replaced t path l name (contentOf rs)) := by
  have hwrite := FileTree.write_of_follow h.newFile h.newShort h.noNewDirectory (contentOf rs)
  generalize hw : t.put (newName path :: l) (.file (contentOf rs)) = w at hwrite
  have hsource : w.follow (newPath path) = .ok (.entry l (newName path) false) := by
    refine FileTree.follow_mono (t := t) (by rw [← hw]; rfl) (fun k hk => ?_) h.newFile
    rw [← hw]
    exact FileTree.get?_put_directory (List.cons_ne_nil _ _) h.noNewDirectory hk
  have htarget : w.follow path = .ok (.entry l name false) := by
    rw [follow_of_write hwrite, h.file]
  have hget : w.get? (newName path :: l) = some (.file (contentOf rs)) := by
    rw [← hw, FileTree.get?_put (List.cons_ne_nil _ _), if_pos rfl]
  have hdir : w.get? (name :: l) ≠ some .directory := by
    rw [get?_of_write hwrite (fileName?_of_follow h.file).1]
    exact h.noDirectory
  have hmove := FileTree.moveFile_of_follow hsource htarget h.newShort h.short hget hdir
  rw [← hw, FileTree.delete_put] at hmove
  unfold save
  rw [hwrite]
  dsimp only
  rw [← hw, hmove]
  rfl

theorem savable_replaced (h : Savable t path l name) (content : Bytes) :
    Savable (replaced t path l name content) path l name := by
  set u := replaced t path l name content with hu
  have hget : ∀ k, u.get? k = if k = name :: l then some (.file content) else
      if k = newName path :: l then none else t.get? k := by
    intro k
    rw [hu, replaced, FileTree.get?_put (List.cons_ne_nil _ _),
      FileTree.get?_delete (List.cons_ne_nil _ _)]
  have hdirs : ∀ k, t.get? k = some .directory → u.get? k = some .directory := by
    intro k hk
    rw [hget, if_neg, if_neg, hk]
    · rintro rfl
      exact h.noNewDirectory hk
    · rintro rfl
      exact h.noDirectory hk
  refine ⟨FileTree.follow_mono (t := t) rfl hdirs h.file,
    FileTree.follow_mono (t := t) rfl hdirs h.newFile, h.short, h.newShort, ?_, ?_⟩
  · rw [hget, if_pos rfl]
    simp
  · rw [hget, if_neg h.ne.symm, if_pos rfl]
    simp

theorem replaced_replaced (hne : name :: l ≠ newName path :: l) (content content' : Bytes) :
    replaced (replaced t path l name content) path l name content' =
      replaced t path l name content' := by
  rw [replaced, replaced, replaced, FileTree.delete_put_of_ne hne, FileTree.delete_delete,
    FileTree.put_put]

/-- A save after another one leads to the same files as without the other one. -/
theorem save_of_saved (h : save t path rs = (.ok (), u)) (rs' : Registrations) :
    save u path rs' = save t path rs' := by
  obtain ⟨l, name, hsavable⟩ := savable_of_saved h
  rw [save_of_savable hsavable] at h
  obtain ⟨-, rfl⟩ := Prod.mk.inj h
  rw [save_of_savable (savable_replaced hsavable _), save_of_savable hsavable,
    replaced_replaced hsavable.ne]

end ToastRelay.RegistrationsFile
