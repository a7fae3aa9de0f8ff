import ToastRelay.Proofs.Session.Removal

/-!
# Entering a registration

A registration takes the place of the one that is kept under its identifier, field by field, and no
other key is touched. As identifiers are carried and keys are not asked for them, another carrier of
the identifier stays under a key of its own, and a registration that was kept under the identifier
of another is lost. Neither can happen if the loaded registrations are kept under their own
identifiers.
-/

namespace ToastRelay
set_option autoImplicit false

namespace Registrations

variable (rs : Registrations) (registration : Registration)

theorem carriers_insert_iff :
    carriers (rs.insert registration.id registration) registration.id =
        [(registration.id, registration)] ↔
      ∀ e ∈ rs.carriers registration.id, e.1 = registration.id := by
  have hself : (registration.id, registration) ∈
      carriers (rs.insert registration.id registration) registration.id :=
    mem_carriers_iff.mpr ⟨Dictionary.mem_insert_iff.mpr (Or.inl rfl), rfl⟩
  rw [carriers_eq_singleton_iff]
  constructor
  · rintro ⟨_, hall⟩ e he
    by_cases hkey : e.1 = registration.id
    · exact hkey
    · obtain ⟨hmem, hid⟩ := mem_carriers_iff.mp he
      have hmem' : e ∈ (rs.insert registration.id registration).entries :=
        Dictionary.mem_insert_iff.mpr (Or.inr ⟨hkey, hmem⟩)
      rw [hall e (mem_carriers_iff.mpr ⟨hmem', hid⟩)]
  · intro hkeys
    refine ⟨hself, fun e he => ?_⟩
    obtain ⟨hmem, hid⟩ := mem_carriers_iff.mp he
    rcases Dictionary.mem_insert_iff.mp hmem with heq | ⟨hne, hmem⟩
    · exact heq
    · exact absurd (hkeys e (mem_carriers_iff.mpr ⟨hmem, hid⟩)) hne

theorem others_insert_iff :
    (∀ e ∈ rs.entries, e.2.id ≠ registration.id →
        e ∈ (rs.insert registration.id registration).entries) ↔
      ∀ old, rs.get? registration.id = some old → old.id = registration.id := by
  constructor
  · intro h old hold
    by_contra hid
    have hmem : (registration.id, old) ∈ rs.entries := Dictionary.mem_entries_iff.mpr hold
    rcases Dictionary.mem_insert_iff.mp (h _ hmem hid) with heq | ⟨hne, _⟩
    · exact hid (congrArg (·.2.id) heq)
    · exact hne rfl
  · intro h e he hid
    refine Dictionary.mem_insert_iff.mpr (Or.inr ⟨fun hkey => ?_, he⟩)
    have hget := Dictionary.mem_entries_iff.mp he
    rw [hkey] at hget
    exact hid (h e.2 hget)

end Registrations

/-- A registration that is reported as entered is kept under its identifier, and no other key is
touched. -/
theorem entering_replaces_by_key {settings : Settings} {store : Store}
    {surroundings : Surroundings} {s₀ : Session}
    (h : Session.start settings store surroundings = .ok s₀) (xs : List SessionStep)
    {x : SessionStep} {registration : Registration}
    (hx : x.change? = some (.enter registration))
    (hresult : ((s₀.run xs).step x).1 = x.report .entered) :
    let before := (s₀.run xs).service.registry.registrations
    let after := ((s₀.run xs).step x).2.service.registry.registrations
    after.get? registration.id = some registration ∧
    (∀ key, key ≠ registration.id → after.get? key = before.get? key) ∧
    (after.carriers registration.id = [(registration.id, registration)] ↔
      ∀ e ∈ before.carriers registration.id, e.1 = registration.id) ∧
    ((∀ e ∈ before.entries, e.2.id ≠ registration.id → e ∈ after.entries) ↔
      ∀ old, before.get? registration.id = some old → old.id = registration.id) ∧
    (s₀.service.registry.registrations.WellKeyed → (∀ y ∈ xs, y.isEdit = false) →
      after.carriers registration.id = [(registration.id, registration)] ∧
      ∀ e ∈ before.entries, e.2.id ≠ registration.id → e ∈ after.entries) := by
  intro before after
  have hafter : after = before.insert registration.id registration :=
    Session.registrations_of_entered hx hresult
  have hcarriers := Registrations.carriers_insert_iff before registration
  have hothers := Registrations.others_insert_iff before registration
  rw [hafter]
  refine ⟨?_, fun key hkey => ?_, hcarriers, hothers, fun hkeys hxs => ?_⟩
  · rw [Dictionary.get?_insert, if_pos rfl]
  · rw [Dictionary.get?_insert, if_neg hkey.symm]
  · have hsynced₀ := (Registry.synced_of_load (Session.start_eq_ok h)).1
    have hbefore : before.WellKeyed := Session.wellKeyed_run hsynced₀ hkeys hxs
    refine ⟨hcarriers.mpr fun e he => ?_, hothers.mpr fun old hold => ?_⟩
    · obtain ⟨hmem, hid⟩ := Registrations.mem_carriers_iff.mp he
      rw [hbefore e hmem, hid]
    · have hmem : (registration.id, old) ∈ before.entries := Dictionary.mem_entries_iff.mpr hold
      exact (hbefore _ hmem).symm

/-- A device that registers again is there once, as it is now, and the other one stays. -/
theorem entering_replaces_by_key_again :
    let device : Registration := ⟨"dev", "https://wns.example/1", some 7, some "PC"⟩
    let other : Registration := ⟨"other", "https://wns.example/2", none, none⟩
    let again : Registration := ⟨"dev", "https://wns.example/3", none, none⟩
    let store : Store := .memory ⟨Dictionary.ofList [("dev", device), ("other", other)], 0, .succeed⟩
    ∀ settings surroundings, ∃ s, Session.start settings store surroundings = .ok s ∧
      (s.step (.upsert again)).1 = .done ∧
      (s.step (.upsert again)).2.service.registry.registrations.carriers "dev" =
        [("dev", again)] ∧
      ("other", other) ∈ (s.step (.upsert again)).2.service.registry.registrations.entries := by
  intro device other again store settings surroundings
  have hload : store.load = .ok (Dictionary.ofList [("dev", device), ("other", other)]) := rfl
  obtain ⟨s, hs, hservice⟩ := Session.start_of_load hload settings surroundings
  have hresult : (s.step (.upsert again)).1 = .done := by
    obtain ⟨_, service, _, _⟩ := s
    subst hservice
    rfl
  have hentries : s.service.registry.registrations.entries =
      [("dev", device), ("other", other)] := by
    rw [hservice]
    exact Dictionary.entries_ofList_of_ascending (List.pairwise_pair.mpr (by decide))
  have hkeys : s.service.registry.registrations.WellKeyed := by
    intro e he
    rw [hentries] at he
    simp only [List.mem_cons, List.not_mem_nil, or_false] at he
    rcases he with rfl | rfl <;> rfl
  obtain ⟨-, -, -, -, hboth⟩ := entering_replaces_by_key hs [] (x := .upsert again) rfl hresult
  obtain ⟨honly, hothers⟩ := hboth hkeys fun y hy => absurd hy List.not_mem_nil
  refine ⟨s, hs, hresult, honly, hothers ("other", other) ?_ (by decide)⟩
  change _ ∈ s.service.registry.registrations.entries
  rw [hentries]
  exact List.mem_cons_of_mem _ List.mem_cons_self

def crossedKeys : Registrations := Dictionary.ofList
  [("dev", ⟨"other", "https://wns.example/1", none, none⟩),
    ("legacy", ⟨"dev", "https://wns.example/2", none, none⟩)]

/-- A device that is entered can be there twice afterwards, and another one can be lost. -/
theorem entering_duplicates_and_loses :
    RegistrationsFile.load (filesWith crossedKeys) "registrations.json" = .ok crossedKeys ∧
    ∀ settings surroundings, ∃ s,
      Session.start settings (.file (filesWith crossedKeys) "registrations.json") surroundings =
        .ok s ∧
      (s.step (.upsert ⟨"dev", "https://wns.example/3", none, none⟩)).1 = .done ∧
      (s.step (.upsert ⟨"dev", "https://wns.example/3", none, none⟩)).2.service.registry.registrations
        = Dictionary.ofList [("dev", ⟨"dev", "https://wns.example/3", none, none⟩),
          ("legacy", ⟨"dev", "https://wns.example/2", none, none⟩)] := by
  have hload : (Store.file (filesWith crossedKeys) "registrations.json").load = .ok crossedKeys :=
    load_filesWith crossedKeys
  refine ⟨hload, fun settings surroundings => ?_⟩
  obtain ⟨s, hs, hservice⟩ := Session.start_of_load hload settings surroundings
  obtain ⟨_, service, _, _⟩ := s
  subst hservice
  exact ⟨_, hs, rfl, rfl⟩

end ToastRelay
