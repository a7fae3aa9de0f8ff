import Mathlib.Data.List.Induction
import Mathlib.Data.List.Sort
import ToastRelay.Dictionary

/-!
# Looking into dictionaries

As the keys ascend, an entry is there if and only if its key has its value. A dictionary that is made
of a list of entries holds of every key the value that the list gives it last.
-/

namespace ToastRelay.Dictionary
set_option autoImplicit false

section Entries
variable {α : Type} {d : Dictionary α} {key : String} {value : α} {e : String × α}

theorem mem_entries_iff : e ∈ d.entries ↔ d.get? e.1 = some e.2 := by
  obtain ⟨entries, ascending⟩ := d
  change e ∈ entries ↔ valueAt? e.1 entries = some e.2
  induction entries with
  | nil => simp
  | cons a entries ih =>
    obtain ⟨ha, hentries⟩ := List.pairwise_cons.mp ascending
    rw [List.mem_cons, valueAt?_cons, ih hentries]
    by_cases hkey : a.1 = e.1
    · -- The keys ascend, so the key of the first entry is found nowhere else.
      have hnone : valueAt? e.1 entries ≠ some e.2 := by
        intro h
        have hlt : a.1 < e.1 := ha e ((ih hentries).mpr h)
        rw [hkey] at hlt
        exact String.lt_irrefl e.1 hlt
      rw [if_pos hkey, Option.some.injEq]
      constructor
      · rintro (rfl | h)
        · rfl
        · exact absurd h hnone
      · intro hvalue
        exact Or.inl (Prod.ext hkey.symm hvalue.symm)
    · rw [if_neg hkey]
      constructor
      · rintro (rfl | h)
        · exact absurd rfl hkey
        · exact h
      · exact Or.inr

theorem ext_get? {d' : Dictionary α} (h : ∀ key, d.get? key = d'.get? key) : d = d' := by
  have : Std.Irrefl fun a b : String × α => a.1 < b.1 := ⟨fun a => String.lt_irrefl a.1⟩
  have : Std.Antisymm fun a b : String × α => a.1 < b.1 :=
    ⟨fun a b hab hba => absurd (String.lt_trans hab hba) (String.lt_irrefl a.1)⟩
  refine ext (List.Pairwise.eq_of_mem_iff d.ascending d'.ascending fun e => ?_)
  rw [mem_entries_iff, mem_entries_iff, h]

theorem insert_comm {key' : String} {value' : α} (h : key ≠ key') :
    (d.insert key value).insert key' value' = (d.insert key' value').insert key value := by
  apply ext_get?
  intro k
  rw [get?_insert, get?_insert, get?_insert, get?_insert]
  by_cases hkey : key = k
  · rw [if_pos hkey, if_pos hkey, if_neg]
    rintro rfl
    exact h hkey
  · rw [if_neg hkey, if_neg hkey]

theorem insert_insert (value' : α) :
    (d.insert key value).insert key value' = d.insert key value' := by
  apply ext_get?
  intro k
  rw [get?_insert, get?_insert, get?_insert]
  split <;> rfl

theorem mem_insert_iff :
    e ∈ (d.insert key value).entries ↔ e = (key, value) ∨ (e.1 ≠ key ∧ e ∈ d.entries) := by
  rw [mem_entries_iff, get?_insert, mem_entries_iff]
  by_cases hkey : key = e.1
  · rw [if_pos hkey, Option.some.injEq]
    constructor
    · intro hvalue
      exact Or.inl (Prod.ext hkey.symm hvalue.symm)
    · rintro (rfl | ⟨hne, _⟩)
      · rfl
      · exact absurd hkey.symm hne
  · rw [if_neg hkey]
    constructor
    · intro h
      exact Or.inr ⟨fun h => hkey h.symm, h⟩
    · rintro (rfl | ⟨_, h⟩)
      · exact absurd rfl hkey
      · exact h

theorem mem_erase_iff : e ∈ (d.erase key).entries ↔ e.1 ≠ key ∧ e ∈ d.entries := by
  change e ∈ eraseEntry key d.entries ↔ _
  rw [eraseEntry, List.mem_filter, decide_eq_true_eq, and_comm]

theorem eq_of_mem {e' : String × α} (h : e ∈ d.entries) (h' : e' ∈ d.entries) (hkey : e.1 = e'.1) :
    e = e' := by
  rw [mem_entries_iff] at h h'
  rw [hkey, h'] at h
  exact Prod.ext hkey (Option.some.inj h).symm

/-- Erasing the key of the first entry with a property erases that entry. -/
theorem erase_find? {p : String × α → Bool} (h : d.entries.find? p = some e) :
    (d.erase e.1).entries = d.entries.eraseP p := by
  obtain ⟨entries, ascending⟩ := d
  change eraseEntry e.1 entries = entries.eraseP p
  change entries.find? p = some e at h
  rw [eraseEntry]
  induction entries with
  | nil => cases h
  | cons a entries ih =>
    obtain ⟨ha, hentries⟩ := List.pairwise_cons.mp ascending
    by_cases hp : p a = true
    · obtain rfl : a = e := by simpa [hp] using h
      rw [List.eraseP_cons_of_pos hp, List.filter_cons_of_neg (by simp), List.filter_eq_self]
      intro b hb
      simpa using (String.ne_of_lt (ha b hb)).symm
    · have hfind : entries.find? p = some e := by simpa [hp] using h
      have hne : a.1 ≠ e.1 := String.ne_of_lt (ha e (List.mem_of_find?_eq_some hfind))
      rw [List.eraseP_cons_of_neg hp, List.filter_cons_of_pos (by simpa using hne),
        ih hentries hfind]

theorem mem_keys_insert {k : String} :
    k ∈ (d.insert key value).keys ↔ k = key ∨ k ∈ d.keys := by
  simp only [keys, List.mem_map, mem_insert_iff]
  constructor
  · rintro ⟨e, rfl | ⟨-, he⟩, rfl⟩
    · exact Or.inl rfl
    · exact Or.inr ⟨e, he, rfl⟩
  · rintro (rfl | ⟨e, he, rfl⟩)
    · exact ⟨(k, value), Or.inl rfl, rfl⟩
    · by_cases hkey : e.1 = key
      · exact ⟨(key, value), Or.inl rfl, hkey.symm⟩
      · exact ⟨e, Or.inr ⟨hkey, he⟩, rfl⟩

end Entries

section OfList
variable {α : Type} {entries : List (String × α)} {key : String} {value : α}

theorem ofList_concat (entries : List (String × α)) (e : String × α) :
    ofList (entries ++ [e]) = (ofList entries).insert e.1 e.2 := by
  rw [ofList, List.foldl_append]
  rfl

theorem entries_ofList (entries : List (String × α)) : (ofList entries).entries =
    entries.foldl (fun found e => insertEntry e.1 e.2 found) [] := by
  induction entries using List.reverseRecOn with
  | nil => rfl
  | append_singleton entries e ih =>
    rw [ofList_concat, List.foldl_append, ← ih]
    rfl

theorem foldl_insertEntry {found : List (String × α)} (h : Ascending (found ++ entries)) :
    entries.foldl (fun found e => insertEntry e.1 e.2 found) found = found ++ entries := by
  induction entries generalizing found with
  | nil => simp
  | cons e entries ih =>
    have hlast : ∀ d ∈ found, d.1 < e.1 := fun d hd =>
      (List.pairwise_append.mp h).2.2 d hd e List.mem_cons_self
    rw [List.foldl_cons, insertEntry_of_forall_lt hlast, ih]
    · simp
    · simpa using h

theorem entries_ofList_of_ascending (h : Ascending entries) : (ofList entries).entries = entries := by
  rw [entries_ofList]
  exact foldl_insertEntry h

theorem get?_ofList (entries : List (String × α)) (key : String) :
    (ofList entries).get? key = valueAt? key entries.reverse := by
  induction entries using List.reverseRecOn with
  | nil => rfl
  | append_singleton entries e ih =>
    rw [ofList_concat, get?_insert, ih, List.reverse_concat, valueAt?_cons]

/-- A key has the value that it is given last. -/
theorem get?_ofList_eq_some_iff : (ofList entries).get? key = some value ↔
    ∃ before after, entries = before ++ (key, value) :: after ∧ ∀ e ∈ after, e.1 ≠ key := by
  rw [get?_ofList, valueAt?, Option.map_eq_some_iff]
  simp only [List.find?_eq_some_iff_append, Prod.exists, decide_eq_true_eq]
  constructor
  · rintro ⟨k, v, ⟨rfl, after, before, hreverse, hafter⟩, rfl⟩
    refine ⟨before.reverse, after.reverse, ?_, ?_⟩
    · rw [← List.reverse_reverse entries, hreverse]
      simp
    · simpa using hafter
  · rintro ⟨before, after, rfl, hafter⟩
    refine ⟨key, value, ⟨rfl, after.reverse, before.reverse, by simp, ?_⟩, rfl⟩
    simpa using hafter

theorem ofList_eq_empty_iff : ofList entries = empty ↔ entries = [] := by
  constructor
  · intro h
    cases entries using List.reverseRecOn with
    | nil => rfl
    | append_singleton entries e =>
      have hvalue : (ofList (entries ++ [e])).get? e.1 = some e.2 :=
        get?_ofList_eq_some_iff.mpr ⟨entries, [], rfl, fun _ h => absurd h List.not_mem_nil⟩
      rw [h] at hvalue
      cases hvalue
  · rintro rfl
    rfl

theorem mem_of_mem_ofList {e : String × α} (h : e ∈ (ofList entries).entries) : e ∈ entries := by
  induction entries using List.reverseRecOn with
  | nil => exact absurd h List.not_mem_nil
  | append_singleton entries d ih =>
    rw [ofList_concat] at h
    rcases mem_insertEntry h with rfl | h
    · simp
    · exact List.mem_append_left [d] (ih h)

theorem mem_keys_ofList : key ∈ (ofList entries).keys ↔ key ∈ entries.map (·.1) := by
  induction entries using List.reverseRecOn with
  | nil => exact Iff.rfl
  | append_singleton entries d ih =>
    rw [ofList_concat, mem_keys_insert, ih, List.map_append, List.mem_append, or_comm]
    simp

end OfList

end ToastRelay.Dictionary
