import ToastRelay.Endpoint
import ToastRelay.Proofs.Registry.Change
import ToastRelay.Proofs.Sender.Sends

/-!
# What a request does

A request asks for a change of the registrations or for none. A change is made in the registry, and
its outcome is answered and logged. Every other request leaves the registry alone: what it is
answered depends on the registrations and the tokens, and only the tokens can be different
afterwards.
-/

namespace ToastRelay
set_option autoImplicit false

namespace HttpRequest

/-- The value that the body is, if it is not too long. -/
def value? (req : HttpRequest) : Option Json :=
  if Service.longestBody < req.body.length then none else (Json.ofBytes req.body).toOption

def change? (req : HttpRequest) : Option Change :=
  if Service.path? req.target = some Service.registrationPath then
    if req.method = "POST" then
      (req.value?.bind fun v => (Registration.ofRequest v).toOption).map .enter
    else if req.method = "DELETE" then
      (req.value?.bind fun v => (v.member? "id").bind Json.string?).map .remove
    else none
  else none

end HttpRequest

def Outcome.answer : Outcome → Answer
  | .entered => .registered
  | .removed _ => .unregistered
  | .absent => .notRegistered
  | .notSaved _ => .notSaved

def Change.records : Change → Outcome → List LogRecord
  | _, .notSaved f => [⟨.error, .server, (RelayError.persistence f.text).text⟩]
  | .enter registration, .entered =>
    [⟨.info, .server, "registered push subscriber " ++ registration.id⟩]
  | .remove id, .removed _ => [⟨.info, .server, "unregistered push subscriber " ++ id⟩]
  | _, _ => []

def Surroundings.recordAll (s : Surroundings) (records : List LogRecord) : Surroundings :=
  { s with log := s.log ++ records }

theorem Surroundings.recordAll_append (s : Surroundings) (records more : List LogRecord) :
    (s.recordAll records).recordAll more = s.recordAll (records ++ more) := by
  rw [recordAll, recordAll, recordAll, List.append_assoc]

/-- Does something with the tokens of a service that its registrations may decide. -/
def Service.withTokens {α : Type} (service : Service)
    (f : Registrations → TokenSource → Act (α × TokenSource)) : Act (α × Service) := do
  let (a, tokens) ← f service.registry.registrations service.tokens
  return (a, { service with tokens := tokens })

theorem Sends.withTokens {α : Type} {P : Outgoing → Prop} {service : Service}
    {f : Registrations → TokenSource → Act (α × TokenSource)}
    (h : Sends P (f service.registry.registrations service.tokens)) :
    Sends P (service.withTokens f) :=
  h.bind fun _ => sends_pure P _

namespace Service

variable {req : HttpRequest} {c : Change}

theorem onBody_of_value {v : Json} (h : req.value? = some v) (service : Service)
    (handle : Service → Json → Act (Answer × Service)) :
    service.onBody req.body handle = handle service v := by
  rw [HttpRequest.value?] at h
  split at h
  · cases h
  · next hlength =>
    rw [onBody, if_neg hlength]
    cases hbytes : Json.ofBytes req.body with
    | error e => rw [hbytes] at h; cases h
    | ok v' =>
      rw [hbytes] at h
      cases h
      rfl

theorem onBody_of_no_value (h : req.value? = none) :
    ∃ a : Answer, a.response.status ∈ [400, 413] ∧
      ∀ (service : Service) handle, service.onBody req.body handle = pure (a, service) := by
  rw [HttpRequest.value?] at h
  split at h
  · next hlength =>
    exact ⟨.tooLong, by decide, fun service handle => by rw [onBody, if_pos hlength]⟩
  · next hlength =>
    cases hbytes : Json.ofBytes req.body with
    | error e =>
      refine ⟨.invalidJson, by decide, fun service handle => ?_⟩
      rw [onBody, if_neg hlength, hbytes]
    | ok v =>
      rw [hbytes] at h
      cases h

theorem register_eq {v : Json} {registration : Registration}
    (h : Registration.ofRequest v = .ok registration) (service : Service) (s : Surroundings) :
    service.register v s =
      let (o, registry) := service.registry.make (.enter registration)
      ((o.answer, { service with registry := registry }),
        s.recordAll ((Change.enter registration).records o)) := by
  rw [register, h, Registry.make]
  dsimp only
  rcases service.registry.upsert registration with ⟨result, registry⟩
  cases result <;> rfl

theorem unregister_eq {v : Json} {id : String} (h : (v.member? "id").bind Json.string? = some id)
    (service : Service) (s : Surroundings) :
    service.unregister v s =
      let (o, registry) := service.registry.make (.remove id)
      ((o.answer, { service with registry := registry }),
        s.recordAll ((Change.remove id).records o)) := by
  rw [unregister, h, Registry.make]
  dsimp only
  rcases service.registry.remove id with ⟨result, registry⟩
  cases result with
  | error f => rfl
  | ok removed =>
    cases removed with
    | none =>
      change ((Answer.notRegistered, { service with registry := registry }), s) = _
      simp [Outcome.answer, Change.records, Surroundings.recordAll]
    | some registration => rfl

theorem answer_of_change (h : req.change? = some c) (service : Service) (s : Surroundings) :
    service.answer req s =
      let (o, registry) := service.registry.make c
      ((o.answer, { service with registry := registry }), s.recordAll (c.records o)) := by
  rw [HttpRequest.change?] at h
  split at h
  · next hpath =>
    rw [answer, if_pos hpath]
    split at h
    · next hmethod =>
      obtain ⟨registration, hvalue, rfl⟩ := Option.map_eq_some_iff.mp h
      obtain ⟨v, hv, hregistration⟩ := Option.bind_eq_some_iff.mp hvalue
      rw [if_pos hmethod, onBody_of_value hv]
      refine register_eq ?_ service s
      cases hrequest : Registration.ofRequest v with
      | error e => rw [hrequest] at hregistration; cases hregistration
      | ok registration' => rw [hrequest] at hregistration; cases hregistration; rfl
    · next hpost =>
      split at h
      · next hmethod =>
        obtain ⟨id, hvalue, rfl⟩ := Option.map_eq_some_iff.mp h
        obtain ⟨v, hv, hid⟩ := Option.bind_eq_some_iff.mp hvalue
        rw [if_neg hpost, if_pos hmethod, onBody_of_value hv]
        exact unregister_eq hid service s
      · cases h
  · cases h

theorem sendRequested_eq (v : Json) :
    ∃ f, (∀ rs tokens, Sends (ToChannelOf rs) (f rs tokens)) ∧
      ∀ service : Service, service.sendRequested v = service.withTokens f := by
  cases hv : Notification.ofRequest v with
  | error e =>
    refine ⟨fun _ tokens => pure (.rejected e.text, tokens), fun _ _ => sends_pure _ _, ?_⟩
    intro service
    rw [sendRequested, hv]
    rfl
  | ok notification =>
    refine ⟨fun rs tokens => do
      match ← Sender.send rs notification tokens with
      | (.ok report, tokens) => return (.sent report, tokens)
      | (.error e, tokens) =>
        Surroundings.record .error .server (RelayError.tokenFetch e.text).text
        return (.noToken (.tokenFetch e.text), tokens), fun rs tokens => ?_, fun service => ?_⟩
    · apply (Sender.sends_toasts rs notification tokens).bind
      intro result
      obtain ⟨result, tokens⟩ := result
      cases result with
      | ok report => exact sends_pure _ _
      | error e => exact (sends_record _ _ _ _).bind fun _ => sends_pure _ _
    · rw [sendRequested, hv]
      funext s
      simp only [send, withTokens, bind, StateT.bind]
      rcases Sender.send service.registry.registrations notification service.tokens s with
        ⟨⟨result, tokens⟩, s'⟩
      cases result <;> rfl

/-- Whatever the registry holds, the service is answered to in the same way and stays as it is. -/
theorem exists_withTokens_of_pure {act : Service → Act (Answer × Service)}
    (h : ∃ a, ∀ service, act service = pure (a, service)) :
    ∃ f, (∀ rs tokens, Sends (ToChannelOf rs) (f rs tokens)) ∧
      ∀ service : Service, act service = service.withTokens f := by
  obtain ⟨a, ha⟩ := h
  exact ⟨fun _ tokens => pure (a, tokens), fun _ _ => sends_pure _ _, ha⟩

/-- A device that asks for no change has its request refused, unless it asks to unregister without
an identifier. -/
theorem answer_device_of_no_change (hpath : path? req.target = some registrationPath)
    (h : req.change? = none) :
    ∃ a : Answer, (∀ service : Service, service.answer req = pure (a, service)) ∧
      (a.response.status ∈ [400, 405, 413] ∨
        a = .notRegistered ∧ req.method = "DELETE" ∧
          ∃ v, req.value? = some v ∧ (v.member? "id").bind Json.string? = none) := by
  rw [HttpRequest.change?, if_pos hpath] at h
  simp only [answer, if_pos hpath]
  by_cases hpost : req.method = "POST"
  · simp only [if_pos hpost] at h ⊢
    cases hv : req.value? with
    | none =>
      obtain ⟨a, hstatus, ha⟩ := onBody_of_no_value hv
      refine ⟨a, fun service => ha service register, Or.inl ?_⟩
      simp only [List.mem_cons] at hstatus ⊢
      tauto
    | some v =>
      cases hrequest : Registration.ofRequest v with
      | error rejection =>
        refine ⟨.rejected rejection.text, fun service => ?_, Or.inl (List.mem_cons_self)⟩
        rw [onBody_of_value hv, register, hrequest]
      | ok registration =>
        rw [hv, Option.bind_some, hrequest] at h
        cases h
  · simp only [if_neg hpost] at h ⊢
    by_cases hdelete : req.method = "DELETE"
    · simp only [if_pos hdelete] at h ⊢
      cases hv : req.value? with
      | none =>
        obtain ⟨a, hstatus, ha⟩ := onBody_of_no_value hv
        refine ⟨a, fun service => ha service unregister, Or.inl ?_⟩
        simp only [List.mem_cons] at hstatus ⊢
        tauto
      | some v =>
        rw [hv, Option.bind_some, Option.map_eq_none_iff] at h
        refine ⟨.notRegistered, fun service => ?_, Or.inr ⟨rfl, hdelete, v, rfl, h⟩⟩
        rw [onBody_of_value hv, unregister, h]
    · simp only [if_neg hdelete]
      exact ⟨.noSuchMethod "POST,DELETE", fun service => rfl, Or.inl (by decide)⟩

/-- A request for no change leaves the registry alone, is not concerned with its store, and sends
toasts to channels of registrations. -/
theorem answer_of_no_change (h : req.change? = none) :
    ∃ f, (∀ rs tokens, Sends (ToChannelOf rs) (f rs tokens)) ∧
      ∀ service : Service, service.answer req = service.withTokens f := by
  by_cases hpath : path? req.target = some registrationPath
  · -- Registering and unregistering look at the registry only once the body holds a change.
    obtain ⟨a, ha, -⟩ := answer_device_of_no_change hpath h
    exact exists_withTokens_of_pure ⟨a, ha⟩
  · simp only [answer, if_neg hpath]
    by_cases hsend : path? req.target = some sendPath
    · simp only [if_pos hsend]
      by_cases hpost : req.method = "POST"
      · simp only [if_pos hpost]
        cases hv : req.value? with
        | none =>
          obtain ⟨a, -, ha⟩ := onBody_of_no_value hv
          exact exists_withTokens_of_pure ⟨a, fun service => ha service sendRequested⟩
        | some v =>
          obtain ⟨f, hsends, hf⟩ := sendRequested_eq v
          refine ⟨f, hsends, fun service => ?_⟩
          rw [onBody_of_value hv, hf]
      · simp only [if_neg hpost]
        exact exists_withTokens_of_pure ⟨.noSuchMethod "POST", fun service => rfl⟩
    · simp only [if_neg hsend]
      exact exists_withTokens_of_pure ⟨.noSuchPath, fun service => rfl⟩

end Service

end ToastRelay
