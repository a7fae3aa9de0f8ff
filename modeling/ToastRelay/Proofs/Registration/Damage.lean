import ToastRelay.Proofs.Registration.Unambiguity
import ToastRelay.Proofs.Session.Run

/-!
# Damaged registrations files

A file that is not there, blank or an empty object holds no registrations. Every other file holds the
entries of one object that makes up its text, or it is an error: so nothing is lost when a file is
loaded that was cut off, written to by someone else or made unreadable.
-/

namespace ToastRelay
set_option autoImplicit false

open Json Reader Text

namespace Registrations

variable {text : String} {rs : Registrations} {entries : List (String × Registration)}

theorem ofText_of_writtenAs_nil (h : WrittenAs [] text.toList) :
    ofText text = .ok Dictionary.empty := by
  obtain ⟨ms, ⟨before, inside, after, hbefore, hms, hafter, htext⟩, hentries⟩ := h
  cases hentries
  have hinside : Blanks inside := by
    cases hms with
    | none h => exact h
  rw [ofText, htext]
  apply whole_eq_ok_of_blanks _ hafter
  generalize hsteps : (before ++ '\x7b' :: (inside ++ '\x7d' :: after)).length = steps
  cases steps with
  | zero => simp at hsteps
  | succ steps =>
    refine (takes_nextBehindBlanks hbefore rfl _ _).bind ?_
    rw [if_pos rfl]
    refine (takes_step '\x7b' _).bind (takes_enclosed (t := '\x7d' :: after) ?_ ?_)
    · exact (takes_memberName_none true hinside after).bind (takes_pure _ _)
    · exact takes_closeObject blanks_nil after

end Registrations

theorem Session.store_reload (s : Session) :
    (s.step .reload).2.service.registry.store = s.service.registry.store := by
  rw [registry_step]
  change ((Registry.load s.service.registry.store).toOption.getD s.service.registry).store = _
  cases hload : Registry.load s.service.registry.store with
  | error e => rfl
  | ok registry => exact (Registry.synced_of_load hload).2

namespace RegistrationsFile

variable {files : FileTree} {path text : String} {rs : Registrations}

def IsBlank (text : String) : Prop := ∀ c ∈ text.toList, Text.isBlank c = true

theorem parse_of_blank (h : IsBlank text) : parse text = .ok Dictionary.empty := by
  rw [parse, isBlankText, if_pos (List.all_eq_true.mpr h)]

theorem parse_of_not_blank (h : ¬ IsBlank text) : parse text = Registrations.ofText text := by
  rw [parse, isBlankText, if_neg fun hall => h (List.all_eq_true.mp hall)]

theorem not_blank_of_isObjectText (h : IsObjectText text.toList) : ¬ IsBlank text := by
  obtain ⟨members, ⟨before, inside, after, -, -, -, htext⟩, -⟩ := h
  intro hblank
  have hbrace : Text.isBlank '\x7b' = true := hblank _ (by simp [htext])
  cases hbrace

theorem writtenAs_of_parse (h : parse text = .ok rs) : IsBlank text ∧ rs = Dictionary.empty ∨
    ∃ entries, Registrations.WrittenAs entries text.toList ∧ rs = Dictionary.ofList entries := by
  by_cases hblank : IsBlank text
  · rw [parse_of_blank hblank] at h
    exact Or.inl ⟨hblank, (Except.ok.inj h).symm⟩
  · rw [parse_of_not_blank hblank] at h
    exact Or.inr (Registrations.writtenAs_of_ofText h)

section Load

theorem load_of_notFound (h : files.read path = .error .notFound) :
    load files path = .ok Dictionary.empty := by
  rw [load, FileTree.readText_of_error h]
  rfl

theorem load_of_error {e : FileError} (h : files.read path = .error e) (he : e ≠ .notFound) :
    load files path = .error (readingError path e) := by
  rw [load, FileTree.readText_of_error h]
  cases e <;> first | rfl | exact absurd rfl he

theorem load_of_not_text {content : Bytes} (h : files.read path = .ok content)
    (htext : ∀ text, content ≠ encode text) :
    load files path = .error (readingError path .notText) := by
  rw [load, FileTree.readText_of_not_text h htext]
  rfl

theorem load_of_text (h : files.read path = .ok (encode text)) :
    load files path = match parse text with
      | .error e => .error (parsingError path e)
      | .ok registrations => .ok registrations := by
  rw [load, FileTree.readText_eq_ok_iff.mpr h]
  rfl

/-- Registrations are loaded where there is no file, or from a text. -/
theorem load_eq_ok_iff : load files path = .ok rs ↔
    files.read path = .error .notFound ∧ rs = Dictionary.empty ∨
    ∃ text, files.read path = .ok (encode text) ∧ parse text = .ok rs := by
  constructor
  · intro h
    cases hread : files.read path with
    | error e =>
      by_cases he : e = .notFound
      · rw [he] at hread
        rw [load_of_notFound hread] at h
        exact Or.inl ⟨by rw [he], (Except.ok.inj h).symm⟩
      · rw [load_of_error hread he] at h
        cases h
    | ok content =>
      by_cases htext : ∃ text, content = encode text
      · obtain ⟨text, rfl⟩ := htext
        refine Or.inr ⟨text, rfl, ?_⟩
        rw [load_of_text hread] at h
        split at h
        · cases h
        · next hparse =>
          cases h
          exact hparse
      · rw [load_of_not_text hread (not_exists.mp htext)] at h
        cases h
  · rintro (⟨hread, rfl⟩ | ⟨text, hread, hparse⟩)
    · exact load_of_notFound hread
    · rw [load_of_text hread, hparse]

theorem load_of_not_written (h : files.read path = .ok (encode text)) (hblank : ¬ IsBlank text)
    (hnot : ∀ entries, ¬ Registrations.WrittenAs entries text.toList) :
    ∃ e, load files path = .error (parsingError path e) := by
  rw [load_of_text h]
  cases hparse : parse text with
  | error e => exact ⟨e, rfl⟩
  | ok rs =>
    rcases writtenAs_of_parse hparse with ⟨hblank', -⟩ | ⟨entries, hentries, -⟩
    · exact absurd hblank' hblank
    · exact absurd hentries (hnot entries)

end Load

/-- No entries are written as what is left of an object that was cut off, nor as an object with
something else behind it. -/
theorem not_writtenAs_of_more {s whole more : List Char} (hwhole : IsObjectText whole)
    (hmore : ¬ Blanks more) (h : whole = s ++ more ∨ s = whole ++ more)
    (entries : List (String × Registration)) : ¬ Registrations.WrittenAs entries s := by
  intro hs
  refine hmore ?_
  rcases h with rfl | rfl
  · exact hs.isObjectText.blanks_of_append hwhole
  · exact hwhole.blanks_of_append hs.isObjectText

theorem exists_toText (rs : Registrations) :
    ∃ inside, rs.toText.toList = '\x7b' :: (inside ++ ['\x7d']) := by
  obtain ⟨ms, hms⟩ : ∃ ms, rs.toJson = .object ms := ⟨_, rfl⟩
  rw [Registrations.toText, Json.indented, String.toList_ofList, hms]
  cases ms with
  | nil => exact ⟨[], rfl⟩
  | cons m ms =>
    exact ⟨Json.indentedMembers 1 (m :: ms) ++ Json.newLine 0, by simp [Json.indentedChars]⟩

/-- A file that was saved and cut off behind its first byte is an error. -/
theorem load_of_cut {content more : Bytes} (h : files.read path = .ok content)
    (hcut : contentOf rs = content ++ more) (hcontent : content ≠ []) (hmore : more ≠ []) :
    ∃ e, load files path = .error e := by
  by_cases htext : ∃ text, content = encode text
  · obtain ⟨text, rfl⟩ := htext
    obtain ⟨u, hu⟩ := exists_of_encode_append hcut.symm
    obtain ⟨inside, hinside⟩ := exists_toText rs
    obtain ⟨entries, hwritten, -⟩ := Registrations.writtenAs_of_ofText (Registrations.ofText_toText rs)
    -- What is left begins with the opening brace, and what is cut off ends with the closing one.
    have hblank : ¬ IsBlank text := by
      intro hblank
      rw [hinside] at hu
      cases hs : text.toList with
      | nil => exact hcontent (by rw [encode, hs]; rfl)
      | cons c s =>
        rw [hs] at hu
        obtain rfl : '\x7b' = c := (List.cons.inj hu).1
        cases hblank '\x7b' (by simp [hs])
    have hrest : ¬ Blanks u := by
      intro hblanks
      have hsolid : IsSolid (text.toList ++ u) := by
        rw [← hu, hinside]
        exact isSolid_cons_append inside rfl
      rw [hsolid.eq_nil_of_append hblanks, List.append_nil, String.toList_inj] at hu
      rw [contentOf, hu] at hcut
      exact hmore (by simpa using hcut)
    obtain ⟨e, he⟩ := load_of_not_written h hblank
      (not_writtenAs_of_more hwritten.isObjectText hrest (Or.inl hu))
    exact ⟨_, he⟩
  · exact ⟨_, load_of_not_text h (not_exists.mp htext)⟩

/-- Only a missing file, a blank text and the text of one object whose members all say registrations
are loaded; all else is an error. -/
theorem damaged_file_is_not_loaded (files : FileTree) (path : String) :
    (load files path = .ok Dictionary.empty ↔
      files.read path = .error .notFound ∨
      ∃ text, files.read path = .ok (encode text) ∧
        (IsBlank text ∨ Registrations.WrittenAs [] text.toList)) ∧
    (∀ rs, load files path = .ok rs → rs ≠ Dictionary.empty →
      ∃ text entries, files.read path = .ok (encode text) ∧ IsObjectText text.toList ∧
        Registrations.WrittenAs entries text.toList ∧
        (∀ others, Registrations.WrittenAs others text.toList → others = entries) ∧
        (∀ key, key ∈ rs.keys ↔ key ∈ entries.map (·.1)) ∧
        ∀ key r, rs.get? key = some r ↔
          ∃ before after, entries = before ++ (key, r) :: after ∧ ∀ e ∈ after, e.1 ≠ key) ∧
    (∀ e, files.read path = .error e → e ≠ .notFound →
      load files path = .error (readingError path e)) ∧
    (∀ content, files.read path = .ok content → (∀ text, content ≠ encode text) →
      load files path = .error (readingError path .notText)) ∧
    (∀ text, files.read path = .ok (encode text) → ¬ IsBlank text →
      (∀ entries, ¬ Registrations.WrittenAs entries text.toList) →
      ∃ e, load files path = .error (parsingError path e)) ∧
    (∀ text members, files.read path = .ok (encode text) →
      IsObjectOf IsName members text.toList → (∀ m ∈ members, IsValue m.2) →
      (∃ m ∈ members, ∀ r : Registration, ¬ r.Written m.2) →
      ∃ e, load files path = .error (parsingError path e)) ∧
    (∀ text whole more, files.read path = .ok (encode text) → ¬ IsBlank text →
      IsObjectText whole → ¬ Blanks more →
      whole = text.toList ++ more ∨ text.toList = whole ++ more →
      ∃ e, load files path = .error (parsingError path e)) ∧
    (∀ rs content more, files.read path = .ok content → contentOf rs = content ++ more →
      content ≠ [] → more ≠ [] → ∃ e, load files path = .error e) ∧
    (∀ settings surroundings s, Session.start settings (.file files path) surroundings = .ok s →
      s.service.registry.store = .file files path) ∧
    ∀ s : Session, (s.step .reload).2.service.registry.store = s.service.registry.store := by
  refine ⟨⟨fun h => ?_, ?_⟩, fun rs h hsome => ?_, fun e => load_of_error,
    fun content => load_of_not_text, fun text => load_of_not_written, ?_, ?_, ?_, ?_,
    Session.store_reload⟩
  · rcases load_eq_ok_iff.mp h with ⟨hread, -⟩ | ⟨text, hread, hparse⟩
    · exact Or.inl hread
    · refine Or.inr ⟨text, hread, ?_⟩
      rcases writtenAs_of_parse hparse with ⟨hblank, -⟩ | ⟨entries, hentries, hnone⟩
      · exact Or.inl hblank
      · obtain rfl := Dictionary.ofList_eq_empty_iff.mp hnone.symm
        exact Or.inr hentries
  · rintro (hread | ⟨text, hread, hblank | hnone⟩)
    · exact load_of_notFound hread
    · exact load_eq_ok_iff.mpr (Or.inr ⟨text, hread, parse_of_blank hblank⟩)
    · refine load_eq_ok_iff.mpr (Or.inr ⟨text, hread, ?_⟩)
      rw [parse_of_not_blank (not_blank_of_isObjectText hnone.isObjectText)]
      exact Registrations.ofText_of_writtenAs_nil hnone
  · rcases load_eq_ok_iff.mp h with ⟨-, hnone⟩ | ⟨text, hread, hparse⟩
    · exact absurd hnone hsome
    · rcases writtenAs_of_parse hparse with ⟨-, hnone⟩ | ⟨entries, hentries, rfl⟩
      · exact absurd hnone hsome
      · exact ⟨text, entries, hread, hentries.isObjectText, hentries,
          fun _ h => h.unique hentries, fun _ => Dictionary.mem_keys_ofList, fun _ _ => Dictionary.get?_ofList_eq_some_iff⟩
  · rintro text members hread hmembers hvalues ⟨m, hm, hnot⟩
    refine load_of_not_written hread (not_blank_of_isObjectText ⟨members, hmembers, hvalues⟩) ?_
    intro entries hentries
    obtain ⟨r, hr⟩ := hentries.exists_written hmembers hvalues m hm
    exact hnot r hr
  · intro text whole more hread hblank hwhole hmore h
    exact load_of_not_written hread hblank (not_writtenAs_of_more hwhole hmore h)
  · exact fun rs content more hread hcut hcontent hmore => load_of_cut hread hcut hcontent hmore
  · intro settings surroundings s hs
    exact (Registry.synced_of_load (Session.start_eq_ok hs)).2

/-- A file with one device, cut off anywhere behind its first byte, is an error. -/
theorem damaged_file_is_not_loaded_device :
    let rs : Registrations := Dictionary.ofList
      [("dev", ⟨"dev", "https://wns.example/1", some 7, none⟩)]
    let files (e : Entry) : FileTree := ⟨["work"], [(["work"], .directory),
      (["registrations.json", "work"], e)]⟩
    load (files (.file (contentOf rs))) "registrations.json" = .ok rs ∧
    (∃ text entries, contentOf rs = encode text ∧ IsObjectText text.toList ∧
      Registrations.WrittenAs entries text.toList ∧ ("dev" ∈ entries.map (·.1))) ∧
    (∀ content more, contentOf rs = content ++ more → content ≠ [] → more ≠ [] →
      ∃ e, load (files (.file content)) "registrations.json" = .error e) ∧
    (∃ e, load (files (.file (encode "\x7b\"dev\":1\x7d"))) "registrations.json" = .error e) ∧
    load (files .directory) "registrations.json" =
      .error (readingError "registrations.json" .isDirectory) := by
  intro rs files
  have hread : ∀ content,
      (files (.file content)).read "registrations.json" = .ok content := fun _ => rfl
  have hload : load (files (.file (contentOf rs))) "registrations.json" = .ok rs :=
    load_of_read (hread _)
  have hsome : rs ≠ Dictionary.empty := by decide +kernel
  refine ⟨hload, ?_, fun content more hcut hcontent hmore => ?_, ?_, ?_⟩
  · obtain ⟨-, hobject, -⟩ := damaged_file_is_not_loaded (files (.file (contentOf rs)))
      "registrations.json"
    obtain ⟨text, entries, htext, hwhole, hentries, -, hkeys, -⟩ := hobject rs hload hsome
    exact ⟨text, entries, Except.ok.inj htext, hwhole, hentries,
      (hkeys "dev").mp (by decide +kernel)⟩
  · obtain ⟨-, -, -, -, -, -, -, hcontent', -⟩ :=
      damaged_file_is_not_loaded (files (.file content)) "registrations.json"
    exact hcontent' rs content more (hread content) hcut hcontent hmore
  · obtain ⟨-, -, -, -, -, hmember, -⟩ :=
      damaged_file_is_not_loaded (files (.file (encode "\x7b\"dev\":1\x7d"))) "registrations.json"
    have hname : IsName ['d', 'e', 'v'] ['d', 'e', 'v'] :=
      ⟨rfl, .plain (by decide) (.plain (by decide) (.plain (by decide) .nil))⟩
    have hdev : IsMember IsName (['d', 'e', 'v'], ['1']) ['"', 'd', 'e', 'v', '"', ':', '1'] :=
      ⟨[], ['d', 'e', 'v'], [], blanks_nil, hname, blanks_nil, rfl⟩
    have hone : IsWhole ['1'] := .digits (by decide) (List.forall_mem_singleton.mpr rfl)
    have hvalue : IsValue ['1'] := .number ⟨['1'], [], [], hone, .none, .none, rfl⟩
    have hnot : ∀ r : Registration, ¬ r.Written ['1'] := by
      intro r h
      generalize hv : ['1'] = v at h
      cases h with
      | object => simpa using congrArg (fun s => '\x7b' ∈ s) hv
      | list => simpa using congrArg (fun s => '[' ∈ s) hv
    obtain ⟨e, he⟩ := hmember "\x7b\"dev\":1\x7d" [(['d', 'e', 'v'], ['1'])] (hread _)
      ⟨[], _, [], blanks_nil, .first hdev (.none blanks_nil), blanks_nil, rfl⟩
      (List.forall_mem_singleton.mpr hvalue) ⟨_, List.mem_singleton_self _, hnot⟩
    exact ⟨_, he⟩
  · obtain ⟨-, -, herror, -⟩ := damaged_file_is_not_loaded (files .directory) "registrations.json"
    exact herror .isDirectory rfl (by decide)

end RegistrationsFile

end ToastRelay
