import ToastRelay.Proofs.Endpoint.Change
import ToastRelay.Session

/-!
# What a step does

A step asks for a change of the registrations, directly or by a request, or for none. What a change
does to the session is what it does to the registry; the outcome is reported in one way to the
caller and in another over HTTP. Every other step leaves the registrations alone, unless it reaches
into the store or loads it again.
-/

namespace ToastRelay
set_option autoImplicit false

/-- Whether a step changes files from outside. -/
def SessionStep.isEdit : SessionStep → Bool
  | .placeFiles _ => true
  | _ => false

def SessionStep.change? : SessionStep → Option Change
  | .upsert registration => some (.enter registration)
  | .remove id => some (.remove id)
  | .request req => req.change?
  | _ => none

def Outcome.result : Outcome → StepResult
  | .entered => .done
  | .removed registration => .found (some registration)
  | .absent => .found none
  | .notSaved f => .failed (.persistence f.text)

def SessionStep.report (x : SessionStep) (o : Outcome) : StepResult :=
  match x with
  | .request _ => .response o.answer.response
  | _ => o.result

theorem Outcome.answer_of_response {o o' : Outcome} (h : o.answer.response = o'.answer.response) :
    o.answer = o'.answer := by
  have hdistinct : ∀ a ∈ [Answer.registered, .unregistered, .notRegistered, .notSaved],
      ∀ b ∈ [Answer.registered, .unregistered, .notRegistered, .notSaved],
        a.response = b.response → a = b := by decide +kernel
  refine hdistinct _ ?_ _ ?_ h
  · cases o <;> simp [Outcome.answer]
  · cases o' <;> simp [Outcome.answer]

theorem SessionStep.answer_of_report {x : SessionStep} {o o' : Outcome}
    (h : x.report o = x.report o') : o.answer = o'.answer := by
  cases x with
  | request req => exact Outcome.answer_of_response (StepResult.response.inj h)
  | _ =>
    have hresult : o.result = o'.result := h
    cases o <;> cases o' <;> first | rfl | cases hresult

def SessionStep.records (x : SessionStep) (c : Change) (o : Outcome) : List LogRecord :=
  match x with
  | .request _ => c.records o
  | _ => []

/-- The registry after a step. -/
def Registry.after (r : Registry) (x : SessionStep) : Registry :=
  match x.change?, x with
  | some c, _ => (r.make c).2
  | none, .setSaveMode mode => { r with store := r.store.setSaveMode mode }
  | none, .placeFiles contents => { r with store := r.store.placeFiles contents }
  | none, .reload => (load r.store).toOption.getD r
  | none, _ => r

theorem Registry.after_of_change {x : SessionStep} {c : Change} (h : x.change? = some c)
    (r : Registry) : r.after x = (r.make c).2 := by
  unfold after
  rw [h]

theorem Registry.after_request {req : HttpRequest} (h : req.change? = none) (r : Registry) :
    r.after (.request req) = r := by
  unfold after
  rw [show (SessionStep.request req).change? = none from h]

namespace Registry.Synced

variable {r : Registry} {x : SessionStep}

/-- The ways in which a step can go for a synced registry. Loading it again is none of them. -/
theorem after_cases (h : r.Synced) (x : SessionStep) :
    (∃ c, x.change? = some c ∧ r.after x = (r.make c).2) ∨
    x.change? = none ∧ (r.after x = r ∨
      (∃ mode, x = .setSaveMode mode ∧
        r.after x = { r with store := r.store.setSaveMode mode }) ∨
      ∃ contents, x = .placeFiles contents ∧
        r.after x = { r with store := r.store.placeFiles contents }) := by
  cases hchange : x.change? with
  | some c => exact Or.inl ⟨c, rfl, after_of_change hchange r⟩
  | none =>
    refine Or.inr ⟨rfl, ?_⟩
    cases x with
    | upsert registration => cases hchange
    | remove id => cases hchange
    | request req => exact Or.inl (after_request hchange r)
    | setSaveMode mode => exact Or.inr (Or.inl ⟨mode, rfl, rfl⟩)
    | placeFiles contents => exact Or.inr (Or.inr ⟨contents, rfl, rfl⟩)
    | reload =>
      refine Or.inl ?_
      change (Registry.load r.store).toOption.getD r = r
      rw [h.load]
      rfl
    | _ => exact Or.inl rfl

theorem registrations_after (h : r.Synced) (x : SessionStep) :
    (r.after x).registrations = r.registrations ∨
      ∃ c o next, x.change? = some c ∧ c.plan r.registrations = some (o, next) ∧
        (r.after x).registrations = next := by
  rcases h.after_cases x with ⟨c, hchange, hafter⟩ |
    ⟨-, hafter | ⟨mode, -, hafter⟩ | ⟨contents, -, hafter⟩⟩
  · rw [hafter]
    cases hsaved : (r.make c).1.isSaved with
    | true => exact Or.inr ⟨c, _, _, hchange, plan_of_isSaved hsaved, rfl⟩
    | false => exact Or.inl (kept_of_not_isSaved hsaved).1
  all_goals exact Or.inl (by rw [hafter])

/-- Every step keeps a registry synced, unless it changes files in which the registry is kept. -/
theorem after (h : r.Synced)
    (hx : ∀ contents, x = .placeFiles contents → r.store.files? = none) : (r.after x).Synced := by
  rcases h.after_cases x with ⟨c, -, hafter⟩ |
    ⟨-, hafter | ⟨mode, -, hafter⟩ | ⟨contents, rfl, hafter⟩⟩
  · rw [hafter]
    exact h.make c
  · rw [hafter]
    exact h
  · have hload : (r.store.setSaveMode mode).load = r.store.load := by cases r.store <;> rfl
    rw [hafter]
    exact hload.trans h
  · have hload : (r.store.placeFiles contents).load = r.store.load := by
      have hfiles := hx contents rfl
      cases hstore : r.store with
      | memory m => rfl
      | file files path =>
        rw [hstore] at hfiles
        cases hfiles
    rw [hafter]
    exact hload.trans h

end Registry.Synced

namespace Session

variable {x : SessionStep} {c : Change}

/-- A step for a change does to the session what the change does to the registry, and reports the
outcome. -/
theorem step_of_change (h : x.change? = some c) (s : Session) :
    s.step x =
      let (o, registry) := s.service.registry.make c
      (x.report o, { s with
        service := { s.service with registry := registry }
        surroundings := s.surroundings.forget.recordAll (x.records c o) }) := by
  cases x with
  | upsert registration =>
    obtain rfl : Change.enter registration = c := Option.some.inj h
    rw [step, stepFrom, upsert, Registry.make]
    dsimp only
    rcases s.service.registry.upsert registration with ⟨result, registry⟩
    cases result <;> rfl
  | remove id =>
    obtain rfl : Change.remove id = c := Option.some.inj h
    rw [step, stepFrom, remove, Registry.make]
    dsimp only
    rcases s.service.registry.remove id with ⟨result, registry⟩
    cases result with
    | error f => rfl
    | ok removed => cases removed <;> rfl
  | request req =>
    rw [step, stepFrom, request, act]
    dsimp only
    rw [Service.answer_of_change h]
    rfl
  | _ => cases h

theorem result_step (h : x.change? = some c) (s : Session) :
    (s.step x).1 = x.report (s.service.registry.make c).1 := by
  rw [step_of_change h]

theorem isSaved_of_report (h : x.change? = some c) {s : Session} {o : Outcome}
    (hresult : (s.step x).1 = x.report o) :
    (s.service.registry.make c).1.isSaved = o.isSaved := by
  rw [result_step h] at hresult
  have hanswer := SessionStep.answer_of_report hresult
  revert hanswer
  cases (s.service.registry.make c).1 <;> cases o <;> simp [Outcome.answer, Outcome.isSaved]

theorem registrations_of_entered {registration : Registration}
    (h : x.change? = some (.enter registration)) {s : Session}
    (hresult : (s.step x).1 = x.report .entered) :
    (s.step x).2.service.registry.registrations =
      s.service.registry.registrations.insert registration.id registration := by
  have hplan := Registry.plan_of_isSaved (isSaved_of_report h hresult)
  rw [step_of_change h]
  exact (Prod.mk.inj (Option.some.inj hplan)).2.symm

theorem registrations_of_removed {id : String} (h : x.change? = some (.remove id)) {s : Session}
    {removed : Registration} (hresult : (s.step x).1 = x.report (.removed removed)) :
    (s.step x).2.service.registry.Synced ∧
      ∃ e, Registry.entryWithId? s.service.registry.registrations id = some e ∧
        (s.step x).2.service.registry.registrations =
          s.service.registry.registrations.erase e.1 := by
  have hsaved := isSaved_of_report h hresult
  obtain ⟨key, registration, hentry, -, hnext⟩ :=
    Change.plan_remove (Registry.plan_of_isSaved hsaved)
  rw [step_of_change h]
  exact ⟨Registry.synced_of_isSaved hsaved, (key, registration), hentry, hnext⟩

theorem registrations_of_notSaved (h : x.change? = some c) {s : Session} {f : SaveFault}
    (hresult : (s.step x).1 = x.report (.notSaved f)) :
    (s.step x).2.service.registry.registrations = s.service.registry.registrations := by
  have hkept := Registry.kept_of_not_isSaved (isSaved_of_report h hresult)
  rw [step_of_change h]
  exact hkept.1

theorem registry_step (s : Session) (x : SessionStep) :
    (s.step x).2.service.registry = s.service.registry.after x := by
  cases hchange : x.change? with
  | some c =>
    rw [step_of_change hchange, Registry.after_of_change hchange]
  | none =>
    cases x with
    | upsert registration => cases hchange
    | remove id => cases hchange
    | request req =>
      obtain ⟨f, -, hf⟩ := Service.answer_of_no_change hchange
      rw [Registry.after_request hchange, step, stepFrom, request, act]
      dsimp only
      rw [hf]
      rfl
    | reload =>
      unfold Registry.after
      rw [step, stepFrom, reload]
      dsimp only
      cases Registry.load s.service.registry.store <;> rfl
    | _ => rfl

theorem received_of_sends {α : Type} {P : Outgoing → Prop} {act : Act α} (h : Sends P act)
    (s : Session) : ∀ o ∈ (act s.surroundings.forget).2.received, P o := by
  obtain ⟨sent, hsent, hP⟩ := h s.surroundings.forget
  rw [hsent]
  exact hP

/-- In every step toasts go to channels of the registrations that the session has before it. -/
theorem toChannelOf_of_received (s : Session) (x : SessionStep) :
    ∀ o ∈ (s.step x).2.surroundings.received,
      ToChannelOf s.service.registry.registrations o := by
  have htoken := (sends_token s.service.registry.registrations s.source).mono
    fun _ => toChannelOf_of_serviceRequest
  cases hchange : x.change? with
  | some c =>
    rw [step_of_change hchange]
    intro o ho
    cases ho
  | none =>
    cases x with
    | upsert registration => cases hchange
    | remove id => cases hchange
    | request req =>
      obtain ⟨f, hsends, hf⟩ := Service.answer_of_no_change hchange
      have hanswer : Sends (ToChannelOf s.service.registry.registrations)
          (s.service.answer req) := by
        rw [hf]
        exact Sends.withTokens (hsends _ _)
      exact received_of_sends hanswer s
    | send notification =>
      have hsends := Sender.sends_toasts s.service.registry.registrations notification
        s.service.tokens
      exact received_of_sends hsends s
    | token => exact received_of_sends htoken s
    | authorization => exact received_of_sends htoken s
    | reload =>
      intro o ho
      rw [step, stepFrom, reload] at ho
      dsimp only at ho
      cases hload : Registry.load s.service.registry.store with
      | error e => rw [hload] at ho; cases ho
      | ok registry => rw [hload] at ho; cases ho
    | _ =>
      intro o ho
      cases ho

end Session

end ToastRelay
