import ToastRelay.Proofs.Session.Run

/-!
# Sessions with a store in memory

Whatever becomes of its saves, a store in memory holds the registrations of the session after every
step, and it counts one save for every step that has something to save. A save that fails leaves no
trace but its count: whatever comes next goes as if the step had not been made.
-/

namespace ToastRelay
set_option autoImplicit false

namespace Store

def addSaves (n : Nat) : Store → Store
  | .memory m => .memory { m with saves := m.saves + n }
  | store => store

theorem save_addSaves (n : Nat) (store : Store) (next : Registrations) :
    (store.addSaves n).save next =
      ((store.save next).1, (store.save next).2.addSaves n) := by
  cases store with
  | file files path =>
    simp only [addSaves, save]
  | memory m =>
    have hsaves : m.saves + n + 1 = m.saves + 1 + n := by omega
    simp only [addSaves, save, MemoryStore.save_eq]
    cases m.mode.fault? <;> simp [hsaves]

theorem load_addSaves (n : Nat) (store : Store) : (store.addSaves n).load = store.load := by
  cases store <;> rfl

theorem addSaves_setSaveMode (n : Nat) (mode : SaveMode) (store : Store) :
    (store.addSaves n).setSaveMode mode = (store.setSaveMode mode).addSaves n := by
  cases store <;> rfl

theorem addSaves_placeFiles (n : Nat) (contents : List (String × Bytes)) (store : Store) :
    (store.addSaves n).placeFiles contents = (store.placeFiles contents).addSaves n := by
  cases store <;> rfl

end Store

namespace Registry

variable {r : Registry} {m : MemoryStore}

def addSaves (n : Nat) (r : Registry) : Registry := { r with store := r.store.addSaves n }

theorem make_addSaves (n : Nat) (r : Registry) (c : Change) :
    (r.addSaves n).make c = ((r.make c).1, (r.make c).2.addSaves n) := by
  rw [make_eq, make_eq, show (r.addSaves n).registrations = r.registrations from rfl]
  cases c.plan r.registrations with
  | none => rfl
  | some p =>
    obtain ⟨outcome, next⟩ := p
    dsimp only
    rw [commit, commit, show (r.addSaves n).store = r.store.addSaves n from rfl,
      Store.save_addSaves]
    rcases r.store.save next with ⟨result, store⟩
    cases result <;> rfl

theorem make_memory (h : r.store = .memory m) (c : Change) :
    (c.plan r.registrations = none ∧ r.make c = (.absent, r)) ∨
    ∃ outcome next, c.plan r.registrations = some (outcome, next) ∧
      ((m.mode.fault? = none ∧ r.make c =
        (outcome, ⟨next, .memory { m with durable := next, saves := m.saves + 1 }⟩)) ∨
      ∃ f, m.mode.fault? = some f ∧ r.make c = (.notSaved f, r.addSaves 1)) := by
  rw [make_eq]
  cases c.plan r.registrations with
  | none => exact Or.inl ⟨rfl, rfl⟩
  | some p =>
    obtain ⟨outcome, next⟩ := p
    refine Or.inr ⟨outcome, next, rfl, ?_⟩
    simp only [commit, h, Store.save, MemoryStore.save_eq]
    cases hfault : m.mode.fault? with
    | none => exact Or.inl ⟨rfl, rfl⟩
    | some f => exact Or.inr ⟨f, rfl, by rw [addSaves, h]; rfl⟩

end Registry

/-- Whether a step saves registrations: it enters one, or removes one that is there. -/
def SessionStep.saves (x : SessionStep) (rs : Registrations) : Bool :=
  match x.change? with
  | some (.enter _) => true
  | some (.remove id) => rs.entries.any fun e => e.2.id = id
  | none => false

theorem SessionStep.saves_eq {x : SessionStep} {c : Change} (h : x.change? = some c)
    (rs : Registrations) : x.saves rs = (c.plan rs).isSome := by
  rw [saves, h]
  cases c with
  | enter registration => rfl
  | remove id =>
    change rs.entries.any (fun e => e.2.id = id) = _
    rw [Change.plan, Option.isSome_map]
    exact List.isSome_find?.symm

namespace Session

variable {s t : Session} {x : SessionStep} {m : MemoryStore}

def addSaves (n : Nat) (s : Session) : Session :=
  { s with service := { s.service with registry := s.service.registry.addSaves n } }

theorem step_addSaves (n : Nat) (s : Session) (x : SessionStep) :
    (s.addSaves n).step x = ((s.step x).1, (s.step x).2.addSaves n) := by
  cases hchange : x.change? with
  | some c =>
    rw [step_of_change hchange, step_of_change hchange,
      show (s.addSaves n).service.registry = s.service.registry.addSaves n from rfl,
      Registry.make_addSaves]
    rfl
  | none =>
    cases x with
    | upsert registration => cases hchange
    | remove id => cases hchange
    | request req =>
      obtain ⟨f, -, hf⟩ := Service.answer_of_no_change hchange
      simp only [step, stepFrom, request, act, hf]
      rfl
    | reload =>
      simp only [step, stepFrom, reload, Registry.load]
      rw [show (s.addSaves n).service.registry.store = s.service.registry.store.addSaves n from rfl,
        Store.load_addSaves]
      cases s.service.registry.store.load <;> rfl
    | setSaveMode mode =>
      have hstore := Store.addSaves_setSaveMode n mode s.service.registry.store
      simp only [step, stepFrom, withRegistry, addSaves, Registry.addSaves, hstore]
    | placeFiles contents =>
      have hstore := Store.addSaves_placeFiles n contents s.service.registry.store
      simp only [step, stepFrom, withRegistry, addSaves, Registry.addSaves, hstore]
    | _ => rfl

theorem trace_addSaves (n : Nat) (s : Session) (xs : List SessionStep) :
    (s.addSaves n).trace xs = (s.trace xs).map fun (result, t) => (result, t.addSaves n) := by
  induction xs generalizing s with
  | nil => rfl
  | cons x xs ih =>
    rw [trace, trace, step_addSaves, List.map_cons, ih]

def forget (s : Session) : Session := { s with surroundings := s.surroundings.forget }

/-- What was recorded before makes no difference to what comes. -/
theorem trace_congr (h : s.forget = t.forget) (xs : List SessionStep) :
    s.trace xs = t.trace xs := by
  cases xs with
  | nil => rfl
  | cons x xs =>
    -- A step begins by forgetting what was recorded.
    have hstep : s.step x = t.step x := congrArg (·.stepFrom x) h
    rw [trace, trace, hstep]

end Session

theorem Registry.after_memory {r : Registry} {m : MemoryStore} (h : r.store = .memory m)
    (hsynced : r.Synced) (x : SessionStep) :
    ∃ m', (r.after x).store = .memory m' ∧
      m'.saves = m.saves + if x.saves r.registrations then 1 else 0 := by
  rcases hsynced.after_cases x with ⟨c, hchange, hafter⟩ | ⟨hchange, hafter⟩
  · rw [hafter, SessionStep.saves_eq hchange]
    rcases make_memory h c with ⟨hplan, hmake⟩ | ⟨outcome, next, hplan, ⟨_, hmake⟩ | ⟨f, _, hmake⟩⟩
    · rw [hplan, hmake]
      exact ⟨m, h, rfl⟩
    · rw [hplan, hmake]
      exact ⟨_, rfl, rfl⟩
    · rw [hplan, hmake, addSaves, h]
      exact ⟨_, rfl, rfl⟩
  · have hsaves : x.saves r.registrations = false := by rw [SessionStep.saves, hchange]
    rw [hsaves]
    rcases hafter with hafter | ⟨mode, -, hafter⟩ | ⟨contents, -, hafter⟩
    · rw [hafter]
      exact ⟨m, h, rfl⟩
    · rw [hafter]
      exact ⟨{ m with mode := mode }, congrArg (·.setSaveMode mode) h, rfl⟩
    · rw [hafter]
      exact ⟨m, congrArg (·.placeFiles contents) h, rfl⟩

namespace Session

variable {s : Session} {x : SessionStep} {m : MemoryStore}

/-- A session whose store is in memory and holds the registrations. -/
def InMemory (s : Session) (m : MemoryStore) : Prop :=
  s.service.registry.store = .memory m ∧ m.durable = s.service.registry.registrations

theorem InMemory.synced (h : s.InMemory m) : s.service.registry.Synced := by
  rw [Registry.Synced, h.1, Store.load, h.2]

theorem InMemory.step (h : s.InMemory m) (x : SessionStep) :
    ∃ m', (s.step x).2.InMemory m' ∧
      m'.saves = m.saves + if x.saves s.service.registry.registrations then 1 else 0 := by
  obtain ⟨m', hstore, hsaves⟩ := Registry.after_memory h.1 h.synced x
  have hsynced : (s.service.registry.after x).Synced :=
    h.synced.after fun contents _ => by rw [h.1]; rfl
  refine ⟨m', ⟨?_, ?_⟩, hsaves⟩
  · rw [registry_step, hstore]
  · rw [registry_step]
    rw [Registry.Synced, hstore] at hsynced
    exact Except.ok.inj hsynced

theorem InMemory.run (h : s.InMemory m) (xs : List SessionStep) : ∃ m', (s.run xs).InMemory m' := by
  induction xs generalizing s m with
  | nil => exact ⟨m, h⟩
  | cons x xs ih =>
    obtain ⟨m', hm', -⟩ := h.step x
    exact ih hm'

theorem InMemory.step_of_fault (h : s.InMemory m) {f : SaveFault} (hfault : m.mode.fault? = some f)
    (hsaves : x.saves s.service.registry.registrations = true) :
    (s.step x).1 = x.report (.notSaved f) ∧ (s.step x).2.forget = (s.addSaves 1).forget := by
  cases hchange : x.change? with
  | none =>
    rw [SessionStep.saves, hchange] at hsaves
    cases hsaves
  | some c =>
    rw [SessionStep.saves_eq hchange] at hsaves
    rcases Registry.make_memory h.1 c with ⟨hplan, _⟩ |
      ⟨outcome, next, _, ⟨hnone, _⟩ | ⟨f', hf', hmake⟩⟩
    · rw [hplan] at hsaves
      cases hsaves
    · rw [hfault] at hnone
      cases hnone
    · obtain rfl : f = f' := Option.some.inj (hfault.symm.trans hf')
      rw [step_of_change hchange, hmake]
      exact ⟨rfl, rfl⟩

end Session

/-- With a store in memory, registrations and store agree step by step, every step with something to
save counts one save, and a failed save makes no other difference. -/
theorem memory_session_in_step (settings : Settings) (m : MemoryStore)
    (surroundings : Surroundings) :
    ∃ s₀, Session.start settings (.memory m) surroundings = .ok s₀ ∧
      s₀.service.registry.registrations = m.durable ∧
      ∀ (xs : List SessionStep) (x : SessionStep),
        let s := s₀.run xs
        let s' := (s.step x).2
        ∃ m₁ m₂ : MemoryStore,
          s.service.registry.store = .memory m₁ ∧
          s'.service.registry.store = .memory m₂ ∧
          m₁.durable = s.service.registry.registrations ∧
          m₂.durable = s'.service.registry.registrations ∧
          m₂.saves = m₁.saves + (if x.saves s.service.registry.registrations then 1 else 0) ∧
          ∀ f, m₁.mode.fault? = some f → x.saves s.service.registry.registrations = true →
            s'.service.registry.registrations = s.service.registry.registrations ∧
            m₂.durable = m₁.durable ∧
            ((∀ req, x ≠ .request req) → (s.step x).1 = .failed (.persistence f.text)) ∧
            (∀ req, x = .request req → ∃ response,
              (s.step x).1 = .response response ∧ response.status = 500) ∧
            ∀ ys, s'.trace ys = (s.trace ys).map fun (result, t) => (result, t.addSaves 1) := by
  obtain ⟨s₀, hs₀⟩ : ∃ s₀, Session.start settings (.memory m) surroundings = .ok s₀ := ⟨_, rfl⟩
  have hregistry : ⟨m.durable, .memory m⟩ = s₀.service.registry :=
    Except.ok.inj (Session.start_eq_ok hs₀)
  have hstart : s₀.InMemory m := ⟨by rw [← hregistry], by rw [← hregistry]⟩
  refine ⟨s₀, hs₀, hstart.2.symm, fun xs x => ?_⟩
  intro s s'
  obtain ⟨m₁, h₁⟩ : ∃ m₁, s.InMemory m₁ := hstart.run xs
  obtain ⟨m₂, h₂, hsaves⟩ : ∃ m₂, s'.InMemory m₂ ∧ _ := h₁.step x
  refine ⟨m₁, m₂, h₁.1, h₂.1, h₁.2, h₂.2, hsaves, fun f hf hx => ?_⟩
  obtain ⟨hresult, hforget⟩ := h₁.step_of_fault hf hx
  have hkept : s'.service.registry.registrations = s.service.registry.registrations :=
    congrArg (·.service.registry.registrations) hforget
  refine ⟨hkept, h₂.2.trans (hkept.trans h₁.2.symm), ?_, ?_, fun ys => ?_⟩
  · intro hx
    rw [hresult]
    cases x with
    | request req => exact absurd rfl (hx req)
    | _ => rfl
  · rintro req rfl
    exact ⟨Answer.notSaved.response, hresult, rfl⟩
  · exact (Session.trace_congr hforget ys).trans (Session.trace_addSaves 1 s ys)

end ToastRelay
