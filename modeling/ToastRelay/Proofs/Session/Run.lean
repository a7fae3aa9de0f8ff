import ToastRelay.Proofs.Session.Step

/-!
# Runs of a session

A session starts with the registry that is loaded from its store and goes through steps one after
another. What every step keeps of the registry a run keeps, and as long as nobody edits files that
comes down to what the changes keep of the registrations.
-/

namespace ToastRelay.Session
set_option autoImplicit false

/-- A session that starts has the registry of its store, and sources that granted nothing yet. -/
theorem eq_of_start {settings : Settings} {store : Store} {surroundings : Surroundings}
    {s : Session} (h : start settings store surroundings = .ok s) :
    ∃ registry, Registry.load store = .ok registry ∧
      s = ⟨settings, serviceOf settings registry, TokenSource.ofSettings settings,
        (registry.recordLoad surroundings).2⟩ := by
  rw [start] at h
  cases hload : Registry.load store with
  | error e =>
    rw [hload] at h
    cases h
  | ok registry =>
    rw [hload] at h
    exact ⟨registry, rfl, (Except.ok.inj h).symm⟩

theorem start_eq_ok {settings : Settings} {store : Store} {surroundings : Surroundings}
    {s : Session} (h : start settings store surroundings = .ok s) :
    Registry.load store = .ok s.service.registry := by
  obtain ⟨registry, hload, rfl⟩ := eq_of_start h
  exact hload

theorem start_of_load {store : Store} {rs : Registrations} (h : store.load = .ok rs)
    (settings : Settings) (surroundings : Surroundings) :
    ∃ s, start settings store surroundings = .ok s ∧
      s.service = serviceOf settings ⟨rs, store⟩ := by
  rw [start, Registry.load, h]
  exact ⟨_, rfl, rfl⟩

def run (s : Session) (xs : List SessionStep) : Session := xs.foldl (fun s x => (s.step x).2) s

/-- The result of every step and the session after it. -/
def trace (s : Session) : List SessionStep → List (StepResult × Session)
  | [] => []
  | x :: xs => s.step x :: trace (s.step x).2 xs

theorem run_append (s : Session) (xs ys : List SessionStep) :
    s.run (xs ++ ys) = (s.run xs).run ys := List.foldl_append

/-- What every step keeps of the registry, a run keeps. -/
theorem run_induction {P : Registry → Prop} {xs : List SessionStep} {s : Session}
    (hs : P s.service.registry) (hstep : ∀ r, ∀ x ∈ xs, P r → P (r.after x)) :
    P (s.run xs).service.registry := by
  induction xs generalizing s with
  | nil => exact hs
  | cons x xs ih =>
    refine ih ?_ fun r y hy => hstep r y (List.mem_cons_of_mem x hy)
    rw [registry_step]
    exact hstep _ x List.mem_cons_self hs

variable {s : Session} {xs : List SessionStep}

theorem registrations_run {P : Registrations → Prop} (hs : s.service.registry.Synced)
    (hP : P s.service.registry.registrations) (hxs : ∀ x ∈ xs, x.isEdit = false)
    (hplan : ∀ x ∈ xs, ∀ c rs o next, x.change? = some c → c.plan rs = some (o, next) →
      P rs → P next) : P (s.run xs).service.registry.registrations := by
  refine (run_induction (P := fun r => r.Synced ∧ P r.registrations) ⟨hs, hP⟩ ?_).2
  intro r x hx hr
  refine ⟨hr.1.after ?_, ?_⟩
  · rintro contents rfl
    cases hxs _ hx
  · rcases hr.1.registrations_after x with hkept | ⟨c, o, next, hchange, hnext, hafter⟩
    · rw [hkept]
      exact hr.2
    · rw [hafter]
      exact hplan x hx c r.registrations o next hchange hnext hr.2

end ToastRelay.Session
