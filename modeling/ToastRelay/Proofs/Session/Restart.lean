import ToastRelay.Proofs.Session.Run

/-!
# Sessions that keep their registrations in a file

As long as nobody else changes the files, the file holds the registrations of the session after
every step, whatever the path looks like and whether saves succeed or not. So the service finds
after a restart what it had acknowledged before, and nothing else.
-/

namespace ToastRelay
set_option autoImplicit false

theorem Store.save_file (files : FileTree) (path : String) (next : Registrations) :
    ∃ files', ((Store.file files path).save next).2 = .file files' path := by
  rw [save]
  exact ⟨_, rfl⟩

namespace Registry

variable {r : Registry} {path : String}

def KeptAt (path : String) (r : Registry) : Prop := ∃ files, r.store = .file files path

theorem KeptAt.make (h : r.KeptAt path) (c : Change) : (r.make c).2.KeptAt path := by
  obtain ⟨files, hfiles⟩ := h
  rcases r.make_cases c with ⟨_, hmake⟩ | ⟨outcome, next, store, _, hsave, hmake⟩ |
    ⟨outcome, next, f, store, _, hsave, hmake⟩
  · rw [hmake]
    exact ⟨files, hfiles⟩
  all_goals
    rw [hmake]
    obtain ⟨files', hfiles'⟩ := Store.save_file files path next
    rw [hfiles] at hsave
    rw [hsave] at hfiles'
    exact ⟨files', hfiles'⟩

theorem KeptAt.after (h : r.KeptAt path) (hsynced : r.Synced) {x : SessionStep} :
    (r.after x).KeptAt path := by
  rcases hsynced.after_cases x with ⟨c, -, hafter⟩ |
    ⟨-, hafter | ⟨mode, -, hafter⟩ | ⟨contents, -, hafter⟩⟩
  · rw [hafter]
    exact h.make c
  all_goals
    obtain ⟨files, hfiles⟩ := h
    rw [hafter]
  · exact ⟨files, hfiles⟩
  · exact ⟨files, congrArg (·.setSaveMode mode) hfiles⟩
  · exact ⟨_, congrArg (·.placeFiles contents) hfiles⟩

end Registry

namespace Session

variable {s : Session} {path : String} {xs : List SessionStep}

theorem keptAt_run (hs : s.service.registry.Synced) (hpath : s.service.registry.KeptAt path)
    (hxs : ∀ x ∈ xs, x.isEdit = false) :
    (s.run xs).service.registry.Synced ∧ (s.run xs).service.registry.KeptAt path := by
  refine run_induction (P := fun r => r.Synced ∧ r.KeptAt path) ⟨hs, hpath⟩ fun r x hx hr => ?_
  refine ⟨hr.1.after ?_, hr.2.after hr.1⟩
  rintro contents rfl
  cases hxs _ hx

/-- Loading a synced registry again changes nothing. -/
theorem step_reload (hs : s.service.registry.Synced) :
    (s.step .reload).1 = .done ∧ (s.step .reload).2.service.registry = s.service.registry := by
  rw [step, stepFrom, reload]
  dsimp only
  rw [hs.load]
  exact ⟨rfl, rfl⟩

end Session

/-- After every step the file is loaded as the registrations of the session, whether the step was
saved or not. -/
theorem session_survives_restart {files : FileTree} {path : String} {rs : Registrations}
    (h : RegistrationsFile.load files path = .ok rs) (settings : Settings)
    (surroundings : Surroundings) :
    ∃ s₀, Session.start settings (.file files path) surroundings = .ok s₀ ∧
      s₀.service.registry.registrations = rs ∧
      ∀ (xs : List SessionStep) (x : SessionStep), (∀ y ∈ xs ++ [x], y.isEdit = false) →
        let s := s₀.run xs
        let s' := (s.step x).2
        ∃ files₁ files₂ : FileTree,
          s.service.registry.store = .file files₁ path ∧
          s'.service.registry.store = .file files₂ path ∧
          RegistrationsFile.load files₁ path = .ok s.service.registry.registrations ∧
          RegistrationsFile.load files₂ path = .ok s'.service.registry.registrations ∧
          (s'.step .reload).1 = .done ∧
          (s'.step .reload).2.service.registry = s'.service.registry ∧
          (∀ registration, x.change? = some (.enter registration) →
            (s.step x).1 = x.report .entered → ∃ loaded,
              RegistrationsFile.load files₂ path = .ok loaded ∧
              loaded.get? registration.id = some registration) ∧
          (∀ id removed, x.change? = some (.remove id) →
            (s.step x).1 = x.report (.removed removed) → ∃ e loaded,
              e ∈ s.service.registry.registrations.entries ∧ e.2.id = id ∧
              RegistrationsFile.load files₂ path = .ok loaded ∧ loaded.get? e.1 = none) ∧
          (∀ c f, x.change? = some c → (s.step x).1 = x.report (.notSaved f) →
            s'.service.registry.registrations = s.service.registry.registrations ∧
            RegistrationsFile.load files₂ path = RegistrationsFile.load files₁ path) := by
  have hload : (Store.file files path).load = .ok rs := h
  obtain ⟨s₀, hs₀, hservice⟩ := Session.start_of_load hload settings surroundings
  have hregistry : s₀.service.registry = ⟨rs, .file files path⟩ := by
    rw [hservice]
    rfl
  have hsynced₀ : s₀.service.registry.Synced := by
    rw [hregistry]
    exact h
  refine ⟨s₀, hs₀, by rw [hregistry], fun xs x hedits => ?_⟩
  intro s s'
  have hkept₀ : s₀.service.registry.KeptAt path := ⟨files, by rw [hregistry]⟩
  obtain ⟨hsynced, files₁, hfiles₁⟩ := Session.keptAt_run hsynced₀ hkept₀ fun y hy =>
    hedits y (List.mem_append_left [x] hy)
  obtain ⟨hsynced', files₂, hfiles₂⟩ := Session.keptAt_run (s := s₀) hsynced₀ hkept₀ hedits
  rw [Session.run_append] at hsynced' hfiles₂
  have hload₁ : RegistrationsFile.load files₁ path = .ok s.service.registry.registrations := by
    rw [Registry.Synced, hfiles₁] at hsynced
    exact hsynced
  have hload₂ : RegistrationsFile.load files₂ path = .ok s'.service.registry.registrations := by
    rw [Registry.Synced, hfiles₂] at hsynced'
    exact hsynced'
  obtain ⟨hdone, hreload⟩ := Session.step_reload hsynced'
  refine ⟨files₁, files₂, hfiles₁, hfiles₂, hload₁, hload₂, hdone, hreload, ?_, ?_, ?_⟩
  · intro registration hx hresult
    refine ⟨_, hload₂, ?_⟩
    rw [Session.registrations_of_entered hx hresult, Dictionary.get?_insert, if_pos rfl]
  · intro id removed hx hresult
    obtain ⟨-, e, hentry, hnext⟩ := Session.registrations_of_removed hx hresult
    obtain ⟨hmem, hid⟩ := Registry.mem_of_entryWithId? hentry
    refine ⟨e, _, hmem, hid, hload₂, ?_⟩
    rw [hnext, Dictionary.get?_erase, if_pos rfl]
  · intro c f hx hresult
    have hkept := Session.registrations_of_notSaved hx hresult
    refine ⟨hkept, ?_⟩
    rw [hload₁, hload₂]
    exact congrArg _ hkept

/-- A device that is entered where there was no file is loaded from the file. -/
theorem session_survives_restart_missing :
    let files : FileTree := ⟨["work"], [(["work"], .directory)]⟩
    let device : Registration := ⟨"dev", "https://wns.example/1", some 7, none⟩
    RegistrationsFile.load files "registrations.json" = .ok Dictionary.empty ∧
    ∀ settings surroundings, ∃ s files' loaded,
      Session.start settings (.file files "registrations.json") surroundings = .ok s ∧
      (s.step (.upsert device)).2.service.registry.store = .file files' "registrations.json" ∧
      RegistrationsFile.load files' "registrations.json" = .ok loaded ∧
      loaded.get? "dev" = some device := by
  intro files device
  have h : RegistrationsFile.load files "registrations.json" = .ok Dictionary.empty := rfl
  refine ⟨h, fun settings surroundings => ?_⟩
  obtain ⟨s, hs, -, hrun⟩ := session_survives_restart h settings surroundings
  have hedits : ∀ y ∈ [] ++ [SessionStep.upsert device], y.isEdit = false := by
    simp [SessionStep.isEdit]
  obtain ⟨_, files', _, hfiles', _, _, _, _, hentered, _⟩ := hrun [] (.upsert device) hedits
  have hresult : (s.step (.upsert device)).1 = .done := by
    cases hs
    rfl
  obtain ⟨loaded, hloaded, hget⟩ := hentered device rfl hresult
  exact ⟨s, files', loaded, hs, hfiles', hloaded, hget⟩

end ToastRelay
