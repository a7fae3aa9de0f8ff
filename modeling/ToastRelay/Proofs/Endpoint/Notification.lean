import ToastRelay.Proofs.Endpoint.Change

/-!
# Requests for notifications

A request can ask for a notification, which is then sent with the tokens of the service; the answer
and the log tell what became of it. A request that asks neither for a change nor for a notification
is answered without a look at the service, which stays as it is.
-/

namespace ToastRelay
set_option autoImplicit false

def HttpRequest.notification? (req : HttpRequest) : Option Notification :=
  if Service.path? req.target = some Service.sendPath ∧ req.method = "POST" then
    req.value?.bind fun v => (Notification.ofRequest v).toOption
  else none

def Answer.ofSend : Except TokenFault SendReport → Answer
  | .ok report => .sent report
  | .error f => .noToken (.tokenFetch f.text)

def requestedSendRecords : Except TokenFault SendReport → List LogRecord
  | .ok _ => []
  | .error f => [⟨.error, .server, (RelayError.tokenFetch f.text).text⟩]

theorem Surroundings.recordAll_nil (w : Surroundings) : w.recordAll [] = w := by
  rw [recordAll, List.append_nil]

namespace HttpRequest

variable {req : HttpRequest} {notification : Notification}

theorem notification?_eq_some :
    req.notification? = some notification ↔
      Service.path? req.target = some Service.sendPath ∧ req.method = "POST" ∧
        ∃ v, req.value? = some v ∧ Notification.ofRequest v = .ok notification := by
  have hvalue : ∀ v, (Notification.ofRequest v).toOption = some notification ↔
      Notification.ofRequest v = .ok notification := by
    intro v
    cases Notification.ofRequest v <;> simp [Except.toOption]
  rw [notification?]
  split
  · next h => simp only [Option.bind_eq_some_iff, hvalue, h, true_and]
  · next h =>
    constructor
    · intro hnone
      cases hnone
    · rintro ⟨hpath, hpost, -⟩
      exact absurd ⟨hpath, hpost⟩ h

theorem change?_of_sendPath (hpath : Service.path? req.target = some Service.sendPath) :
    req.change? = none := by
  have hne : Service.sendPath ≠ Service.registrationPath := by decide
  rw [change?, hpath, if_neg (by simpa using hne)]

end HttpRequest

namespace Service

variable {req : HttpRequest} {notification : Notification}

theorem answer_of_notification (h : req.notification? = some notification) (service : Service)
    (w : Surroundings) :
    service.answer req w =
      let ((result, tokens), w') :=
        Sender.send service.registry.registrations notification service.tokens w
      ((.ofSend result, { service with tokens := tokens }),
        w'.recordAll (requestedSendRecords result)) := by
  obtain ⟨hpath, hpost, v, hvalue, hv⟩ := HttpRequest.notification?_eq_some.mp h
  have hne : ¬ path? req.target = some registrationPath := by
    rw [hpath]
    decide
  rw [answer, if_neg hne, if_pos hpath, if_pos hpost, onBody_of_value hvalue, sendRequested, hv]
  simp only [send, bind, StateT.bind]
  rcases Sender.send service.registry.registrations notification service.tokens w with
    ⟨⟨result, tokens⟩, w'⟩
  cases result with
  | ok report => simp only [requestedSendRecords, Surroundings.recordAll_nil]; rfl
  | error f => rfl

theorem answer_of_refused (hchange : req.change? = none) (hnone : req.notification? = none) :
    ∃ a : Answer, ∀ service : Service, service.answer req = pure (a, service) := by
  by_cases hpath : path? req.target = some registrationPath
  · obtain ⟨a, ha, -⟩ := answer_device_of_no_change hpath hchange
    exact ⟨a, ha⟩
  · simp only [answer, if_neg hpath]
    by_cases hsend : path? req.target = some sendPath
    · simp only [if_pos hsend]
      by_cases hpost : req.method = "POST"
      · simp only [if_pos hpost]
        cases hvalue : req.value? with
        | none =>
          obtain ⟨a, -, ha⟩ := onBody_of_no_value hvalue
          exact ⟨a, fun service => ha service sendRequested⟩
        | some v =>
          cases hv : Notification.ofRequest v with
          | error f =>
            refine ⟨.rejected f.text, fun service => ?_⟩
            rw [onBody_of_value hvalue, sendRequested, hv]
          | ok notification =>
            rw [HttpRequest.notification?_eq_some.mpr ⟨hsend, hpost, v, hvalue, hv⟩] at hnone
            cases hnone
      · simp only [if_neg hpost]
        exact ⟨.noSuchMethod "POST", fun service => rfl⟩
    · simp only [if_neg hsend]
      exact ⟨.noSuchPath, fun service => rfl⟩

end Service

end ToastRelay
