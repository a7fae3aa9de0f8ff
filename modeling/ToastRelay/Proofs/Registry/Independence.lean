import ToastRelay.Proofs.Dictionary
import ToastRelay.Proofs.Registration.Resaving
import ToastRelay.Proofs.Registry.Change

/-!
# Registrations that do not meet

Registrations with different identifiers go under different keys, so it does not matter which of two
is entered first. Nor does it matter to the store, which forgets what was saved in between. So
registrations may be entered in any order: the registry is the same in the end, with its store, and
to enter one of them again changes nothing.
-/

namespace ToastRelay
set_option autoImplicit false

namespace Store

variable {store store' : Store} {next : Registrations}

/-- When registrations were saved, so could have been any others, and that makes no difference to
the save that comes next. -/
theorem exists_save_of_saved (h : store.save next = (.ok (), store')) (other : Registrations) :
    ∃ store'', store.save other = (.ok (), store'') ∧
      ∀ last, store''.save last = store'.save last := by
  rcases saved_cases h with ⟨m, rfl, hfault, rfl⟩ | ⟨files, path, files', rfl, hsave, rfl⟩
  · refine ⟨_, saved_memory hfault other, fun last => ?_⟩
    rw [saved_memory (m := ⟨other, m.saves + 1, m.mode⟩) hfault,
      saved_memory (m := ⟨next, m.saves + 1, m.mode⟩) hfault]
  · obtain ⟨l, name, hsavable⟩ := RegistrationsFile.savable_of_saved hsave
    have hother := RegistrationsFile.save_of_savable hsavable other
    refine ⟨_, saved_file hother, fun last => ?_⟩
    rw [save, save, RegistrationsFile.save_of_saved hsave, RegistrationsFile.save_of_saved hother]

theorem exists_save_again (h : store.save next = (.ok (), store')) :
    ∃ store'', store'.save next = (.ok (), store'') ∧
      ∀ files path, store' = .file files path → store'' = store' := by
  rcases saved_cases h with ⟨m, rfl, hfault, rfl⟩ | ⟨files, path, files', rfl, hsave, rfl⟩
  · refine ⟨_, saved_memory (m := ⟨next, m.saves + 1, m.mode⟩) hfault next, ?_⟩
    rintro files path ⟨⟩
  · have hagain : RegistrationsFile.save files' path next = (.ok (), files') := by
      rw [RegistrationsFile.save_of_saved hsave, hsave]
    exact ⟨_, saved_file hagain, fun _ _ _ => rfl⟩

theorem read_of_saved {files : FileTree} {path : String}
    (h : store.save next = (.ok (), .file files path)) :
    files.read path = .ok (RegistrationsFile.contentOf next) := by
  rcases saved_cases h with ⟨m, -, -, hstore⟩ | ⟨files₀, path', files', -, hsave, hstore⟩
  · cases hstore
  · cases hstore
    exact RegistrationsFile.read_of_saved hsave

end Store

namespace Registry

/-- Enters registrations one after another, as long as they are saved. -/
def upsertAll (r : Registry) : List Registration → Except SaveFault Registry
  | [] => .ok r
  | registration :: more =>
    match r.upsert registration with
    | (.ok (), r) => r.upsertAll more
    | (.error f, _) => .error f

variable {r r' : Registry} {registration : Registration} {xs ys : List Registration}

theorem upsert_eq_ok_iff : r.upsert registration = (.ok (), r') ↔
    ∃ store, r.store.save (r.registrations.insert registration.id registration) = (.ok (), store) ∧
      r' = ⟨r.registrations.insert registration.id registration, store⟩ := by
  rw [upsert, commit]
  rcases r.store.save (r.registrations.insert registration.id registration) with ⟨result, store⟩
  cases result with
  | ok u => simp [eq_comm]
  | error f => simp

theorem upsertAll_cons_eq_ok_iff : r.upsertAll (registration :: xs) = .ok r' ↔
    ∃ r₁, r.upsert registration = (.ok (), r₁) ∧ r₁.upsertAll xs = .ok r' := by
  rw [upsertAll]
  rcases r.upsert registration with ⟨result, r₁⟩
  cases result with
  | ok u => simp
  | error f => simp

theorem upsertAll_append_eq_ok_iff : r.upsertAll (xs ++ ys) = .ok r' ↔
    ∃ r₁, r.upsertAll xs = .ok r₁ ∧ r₁.upsertAll ys = .ok r' := by
  induction xs generalizing r with
  | nil => simp [upsertAll]
  | cons x xs ih =>
    simp only [List.cons_append, upsertAll_cons_eq_ok_iff, ih]
    constructor
    · rintro ⟨r₁, hx, r₂, hxs, hys⟩
      exact ⟨r₂, ⟨r₁, hx, hxs⟩, hys⟩
    · rintro ⟨r₂, ⟨r₁, hx, hxs⟩, hys⟩
      exact ⟨r₁, hx, r₂, hxs, hys⟩

/-- Two registrations with different identifiers can change places. -/
theorem upsert_upsert_comm {x y : Registration} {r₁ : Registry} (hne : x.id ≠ y.id)
    (hx : r.upsert x = (.ok (), r₁)) (hy : r₁.upsert y = (.ok (), r')) :
    ∃ r₂, r.upsert y = (.ok (), r₂) ∧ r₂.upsert x = (.ok (), r') := by
  obtain ⟨store₁, hsave, rfl⟩ := upsert_eq_ok_iff.mp hx
  obtain ⟨store, hsave', rfl⟩ := upsert_eq_ok_iff.mp hy
  obtain ⟨store₂, hother, hsame⟩ := Store.exists_save_of_saved hsave (r.registrations.insert y.id y)
  have hboth : (r.registrations.insert y.id y).insert x.id x =
      (r.registrations.insert x.id x).insert y.id y := Dictionary.insert_comm hne.symm
  refine ⟨_, upsert_eq_ok_iff.mpr ⟨store₂, hother, rfl⟩, upsert_eq_ok_iff.mpr ⟨store, ?_, ?_⟩⟩
  · dsimp only
    rw [hboth, hsame]
    exact hsave'
  · dsimp only
    rw [hboth]

theorem upsertAll_perm (hperm : xs.Perm ys) (hdistinct : xs.Pairwise fun x y => x.id ≠ y.id)
    (h : r.upsertAll xs = .ok r') : r.upsertAll ys = .ok r' := by
  induction hperm generalizing r with
  | nil => exact h
  | cons x _ ih =>
    obtain ⟨r₁, hx, hxs⟩ := upsertAll_cons_eq_ok_iff.mp h
    exact upsertAll_cons_eq_ok_iff.mpr ⟨r₁, hx, ih (List.pairwise_cons.mp hdistinct).2 hxs⟩
  | swap x y l =>
    obtain ⟨r₁, hy, h₁⟩ := upsertAll_cons_eq_ok_iff.mp h
    obtain ⟨r₂, hx, hl⟩ := upsertAll_cons_eq_ok_iff.mp h₁
    have hne : y.id ≠ x.id := (List.pairwise_cons.mp hdistinct).1 x List.mem_cons_self
    obtain ⟨r₃, hx', hy'⟩ := upsert_upsert_comm hne hy hx
    exact upsertAll_cons_eq_ok_iff.mpr ⟨r₃, hx', upsertAll_cons_eq_ok_iff.mpr ⟨r₂, hy', hl⟩⟩
  | trans hxy _ ihx ihy =>
    exact ihy (hxy.pairwise_iff (fun h => h.symm) |>.mp hdistinct) (ihx hdistinct h)

/-- Any of the registrations might have been the last one to be entered. -/
theorem exists_upsert_last (hdistinct : xs.Pairwise fun x y => x.id ≠ y.id)
    (h : r.upsertAll xs = .ok r') {x : Registration} (hx : x ∈ xs) :
    ∃ r₁ : Registry, r₁.upsert x = (.ok (), r') := by
  have hperm : xs.Perm (xs.erase x ++ [x]) :=
    (List.perm_cons_erase hx).trans (List.perm_append_singleton x _).symm
  obtain ⟨r₁, -, hlast⟩ := upsertAll_append_eq_ok_iff.mp (upsertAll_perm hperm hdistinct h)
  obtain ⟨r₂, hupsert, hnil⟩ := upsertAll_cons_eq_ok_iff.mp hlast
  obtain rfl : r₂ = r' := Except.ok.inj hnil
  exact ⟨r₁, hupsert⟩

theorem upsert_again (h : r.upsert registration = (.ok (), r')) :
    ∃ store, r'.upsert registration = (.ok (), ⟨r'.registrations, store⟩) ∧
      ∀ files path, r'.store = .file files path → store = r'.store := by
  obtain ⟨store, hsave, rfl⟩ := upsert_eq_ok_iff.mp h
  obtain ⟨store', hagain, hfile⟩ := Store.exists_save_again hsave
  have hsame : (r.registrations.insert registration.id registration).insert registration.id
      registration = r.registrations.insert registration.id registration :=
    Dictionary.insert_insert registration
  refine ⟨store', upsert_eq_ok_iff.mpr ⟨store', ?_, ?_⟩, hfile⟩
  · dsimp only
    rw [hsame]
    exact hagain
  · dsimp only
    rw [hsame]

end Registry

/-- Registrations with different identifiers that are all saved lead to the same registry and the
same files in any order, and entering one of them again changes neither. -/
theorem independent_registrations_commute {r r' : Registry} {xs ys : List Registration}
    (hdistinct : xs.Pairwise fun x y => x.id ≠ y.id) (hperm : xs.Perm ys)
    (hsaved : r.upsertAll xs = .ok r') :
    r.upsertAll ys = .ok r' ∧
    (xs ≠ [] → ∀ files path, r'.store = .file files path →
      files.read path = .ok (RegistrationsFile.contentOf r'.registrations)) ∧
    ∀ x ∈ xs, ∃ store, r'.upsert x = (.ok (), ⟨r'.registrations, store⟩) ∧
      ∀ files path, r'.store = .file files path → store = r'.store := by
  refine ⟨Registry.upsertAll_perm hperm hdistinct hsaved, fun hne files path hstore => ?_,
    fun x hx => ?_⟩
  · obtain ⟨x, hx⟩ := List.exists_mem_of_ne_nil xs hne
    obtain ⟨r₁, hlast⟩ := Registry.exists_upsert_last hdistinct hsaved hx
    obtain ⟨store, hsave, rfl⟩ := Registry.upsert_eq_ok_iff.mp hlast
    obtain rfl : store = .file files path := hstore
    exact Store.read_of_saved hsave
  · obtain ⟨r₁, hlast⟩ := Registry.exists_upsert_last hdistinct hsaved hx
    exact Registry.upsert_again hlast

/-- Three devices in two orders, one of them under the key of a registration with another
identifier. -/
theorem independent_registrations_commute_legacy :
    let device : String → Registration := fun id => ⟨id, "https://wns.example/" ++ id, none, none⟩
    let rs : Registrations := Dictionary.ofList [("a", device "x"), ("y", device "b")]
    let files : FileTree := ⟨["work"], [(["work"], .directory),
      (["registrations.json", "work"], .file (RegistrationsFile.contentOf rs)),
      (["registrations.json.tmp", "work"], .file [0x5B])]⟩
    let r : Registry := ⟨rs, .file files "registrations.json"⟩
    let xs := [device "a", device "b", device "ü"]
    let ys := [device "ü", device "a", device "b"]
    ∃ r' files', r.upsertAll xs = .ok r' ∧ r.upsertAll ys = .ok r' ∧
      r'.store = .file files' "registrations.json" ∧
      files'.read "registrations.json" = .ok (RegistrationsFile.contentOf r'.registrations) ∧
      r'.upsert (device "a") = (.ok (), r') := by
  intro device rs files r xs ys
  have hperm : xs.Perm ys := by decide
  have hdistinct : xs.Pairwise fun x y => x.id ≠ y.id := by decide
  obtain ⟨r', hsaved⟩ : ∃ r', r.upsertAll xs = .ok r' := ⟨_, rfl⟩
  obtain ⟨files', hstore⟩ : ∃ files', r'.store = .file files' "registrations.json" := by
    cases hsaved
    exact ⟨_, rfl⟩
  obtain ⟨hsaved', hread, hagain⟩ := independent_registrations_commute hdistinct hperm hsaved
  obtain ⟨store, hupsert, hsame⟩ := hagain (device "a") (by simp [xs])
  rw [hsame files' _ hstore] at hupsert
  exact ⟨r', files', hsaved, hsaved', hstore, hread (by simp [xs]) files' _ hstore, hupsert⟩

end ToastRelay
