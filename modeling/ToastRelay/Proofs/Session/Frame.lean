import ToastRelay.Proofs.Endpoint.Notification
import ToastRelay.Proofs.Session.Tokens

/-!
# What steps leave alone

A step is about the registrations, about a notification, about a token from the source beside the
service, or about none of these. The first kind is a function of the registry: it meets the
surroundings only to log, and knows nothing of tokens. The other two kinds read the registrations at
most, and each has its own source of tokens. So neither side disturbs the other, whatever becomes of
a step.
-/

namespace ToastRelay
set_option autoImplicit false

inductive Concern where
  | registrations
  | notifications
  /-- Tokens from the source beside the service. -/
  | tokens
  | other
  deriving DecidableEq

/-- What a step is about; a request is about what its path leads to, whatever it is answered. -/
def SessionStep.concern : SessionStep → Concern
  | .upsert _ | .remove _ | .get _ | .channelsFor _ => .registrations
  | .send _ => .notifications
  | .token | .authorization => .tokens
  | .request req =>
    if Service.path? req.target = some Service.registrationPath then .registrations
    else if Service.path? req.target = some Service.sendPath then .notifications
    else .other
  | _ => .other

def SessionStep.notification? : SessionStep → Option Notification
  | .send notification => some notification
  | .request req => req.notification?
  | _ => none

def SessionStep.told (x : SessionStep) (result : Except TokenFault SendReport) : StepResult :=
  match x with
  | .request _ => .response (Answer.ofSend result).response
  | _ => .ofReport result

def SessionStep.sendRecords (x : SessionStep) (result : Except TokenFault SendReport) :
    List LogRecord :=
  match x with
  | .request _ => requestedSendRecords result
  | _ => []

/-- A step that is a function of the registry. It meets the surroundings only to log, and knows
nothing of tokens. -/
def SessionStep.Local (x : SessionStep) : Prop :=
  ∃ f : Registry → StepResult × List LogRecord, ∀ s : Session,
    s.step x = ((f s.service.registry).1, { s with
      service := { s.service with registry := s.service.registry.after x }
      surroundings := s.surroundings.forget.recordAll (f s.service.registry).2 })

namespace SessionStep

variable {req : HttpRequest}

theorem concern_request_registrations :
    (request req).concern = .registrations ↔
      Service.path? req.target = some Service.registrationPath := by
  rw [concern]
  split
  · next h => simp [h]
  · next h => split <;> simp [h]

theorem concern_request_notifications :
    (request req).concern = .notifications ↔
      Service.path? req.target = some Service.sendPath := by
  have hne : Service.registrationPath ≠ Service.sendPath := by decide
  rw [concern]
  split
  · next h => simp [h, hne]
  · next h => split <;> simp_all

theorem exists_asks?_of_concern {x : SessionStep} (h : x.concern = .tokens) :
    ∃ form, x.asks? = some form := by
  cases x with
  | token => exact ⟨_, rfl⟩
  | authorization => exact ⟨_, rfl⟩
  | request req =>
    rw [concern] at h
    split at h
    · cases h
    · split at h <;> cases h
  | _ => cases h

end SessionStep

namespace Session

variable {x : SessionStep} {req : HttpRequest} {notification : Notification}

theorem step_of_notification (h : x.notification? = some notification) (s : Session) :
    s.step x =
      let ((result, tokens), w) := Sender.send s.service.registry.registrations notification
        s.service.tokens s.surroundings.forget
      (x.told result, { s with
        service := { s.service with tokens := tokens }
        surroundings := w.recordAll (x.sendRecords result) }) := by
  cases x with
  | send n =>
    obtain rfl : n = notification := Option.some.inj h
    simp only [step, stepFrom, send, act, Service.send, bind, StateT.bind]
    rcases Sender.send s.service.registry.registrations n s.service.tokens s.surroundings.forget
      with ⟨⟨result, tokens⟩, w⟩
    simp only [SessionStep.sendRecords, Surroundings.recordAll_nil]
    rfl
  | request req =>
    rw [step, stepFrom, request, act]
    dsimp only
    rw [Service.answer_of_notification h]
    rfl
  | _ => cases h

theorem step_send (s : Session) (n : Notification) : s.step (.send n) =
    let ((result, tokens), w) := Sender.send s.service.registry.registrations n s.service.tokens
      s.surroundings.forget
    (.ofReport result,
      { s with service := { s.service with tokens := tokens }, surroundings := w }) := by
  rw [step_of_notification (x := .send n) rfl]
  rcases Sender.send s.service.registry.registrations n s.service.tokens s.surroundings.forget
    with ⟨⟨result, tokens⟩, w⟩
  simp only [SessionStep.told, SessionStep.sendRecords, Surroundings.recordAll_nil]

theorem step_of_refused (hchange : req.change? = none) (hnone : req.notification? = none) :
    ∃ a : Answer, ∀ s : Session, s.step (.request req) =
      (.response a.response, { s with surroundings := s.surroundings.forget }) := by
  obtain ⟨a, ha⟩ := Service.answer_of_refused hchange hnone
  refine ⟨a, fun s => ?_⟩
  rw [step, stepFrom, request, act]
  dsimp only
  rw [ha]
  rfl

theorem local_of_registrations (h : x.concern = .registrations) : x.Local := by
  cases hchange : x.change? with
  | some c =>
    refine ⟨fun r => (x.report (r.make c).1, x.records c (r.make c).1), fun s => ?_⟩
    rw [step_of_change hchange, Registry.after_of_change hchange]
  | none =>
    -- What is left looks something up, or is a request that is refused at the path of the devices.
    cases x with
    | upsert registration => cases hchange
    | remove id => cases hchange
    | get key =>
      refine ⟨fun r => (.found (r.get? key), []), fun s => ?_⟩
      rw [Surroundings.recordAll_nil]
      rfl
    | channelsFor targets =>
      refine ⟨fun r => (.channels (r.registrations.channelsFor (targets.getD [])), []),
        fun s => ?_⟩
      rw [Surroundings.recordAll_nil]
      rfl
    | request req =>
      have hpath := SessionStep.concern_request_registrations.mp h
      obtain ⟨a, ha, -⟩ := Service.answer_device_of_no_change hpath hchange
      refine ⟨fun _ => (.response a.response, []), fun s => ?_⟩
      rw [Registry.after_request hchange, Surroundings.recordAll_nil, step, stepFrom, request, act]
      dsimp only
      rw [ha]
      rfl
    | _ => cases h

theorem notifications_cases (h : x.concern = .notifications) :
    (∃ notification, x.notification? = some notification) ∨
      ∃ a : Answer, ∀ s : Session, s.step x =
        (.response a.response, { s with surroundings := s.surroundings.forget }) := by
  cases hnotification : x.notification? with
  | some notification => exact Or.inl ⟨notification, rfl⟩
  | none =>
    cases x with
    | send notification => cases hnotification
    | request req =>
      have hpath := SessionStep.concern_request_notifications.mp h
      exact Or.inr (step_of_refused (HttpRequest.change?_of_sendPath hpath) hnotification)
    | _ => cases h

theorem step_of_notifications (h : x.concern = .notifications) (s : Session) :
    ∃ result tokens w, s.step x = (result, { s with
      service := { s.service with tokens := tokens }
      surroundings := w }) := by
  rcases notifications_cases h with ⟨notification, hnotification⟩ | ⟨a, ha⟩
  · exact ⟨_, _, _, step_of_notification hnotification s⟩
  · exact ⟨_, s.service.tokens, _, ha s⟩

theorem step_of_tokens (h : x.concern = .tokens) (s : Session) :
    ∃ result source w, s.step x = (result, { s with source := source, surroundings := w }) := by
  obtain ⟨form, hform⟩ := SessionStep.exists_asks?_of_concern h
  exact ⟨_, _, _, step_of_asks hform s⟩

theorem other_cases (h : x.concern = .other) :
    x.Local ∨ (∃ rules refused, x = .setProvider rules refused) ∨ x = .reload := by
  cases x with
  | request req =>
    have hnotRegistrations : ¬ Service.path? req.target = some Service.registrationPath := by
      rw [← SessionStep.concern_request_registrations, h]
      decide
    have hnotNotifications : ¬ Service.path? req.target = some Service.sendPath := by
      rw [← SessionStep.concern_request_notifications, h]
      decide
    have hchange : req.change? = none := by rw [HttpRequest.change?, if_neg hnotRegistrations]
    have hnone : req.notification? = none := by
      rw [HttpRequest.notification?, if_neg fun hsend => hnotNotifications hsend.1]
    -- So the request leads nowhere, and is refused whatever the session is.
    obtain ⟨a, ha⟩ := step_of_refused hchange hnone
    refine Or.inl ⟨fun _ => (.response a.response, []), fun s => ?_⟩
    rw [ha, Registry.after_request hchange, Surroundings.recordAll_nil]
  | setSaveMode mode =>
    refine Or.inl ⟨fun _ => (.done, []), fun s => ?_⟩
    rw [Surroundings.recordAll_nil]
    rfl
  | placeFiles contents =>
    refine Or.inl ⟨fun _ => (.done, []), fun s => ?_⟩
    rw [Surroundings.recordAll_nil]
    rfl
  | setProvider rules refused => exact Or.inr (Or.inl ⟨rules, refused, rfl⟩)
  | reload => exact Or.inr (Or.inr rfl)
  | _ => cases h

theorem step_reload_of_error {s : Session} {e : ErrorChain}
    (h : Registry.load s.service.registry.store = .error e) :
    s.step .reload = (.notLoaded e, { s with surroundings := s.surroundings.forget }) := by
  rw [step, stepFrom, reload]
  dsimp only
  rw [h]

theorem step_reload_of_ok {s : Session} {registry : Registry}
    (h : Registry.load s.service.registry.store = .ok registry) :
    s.step .reload = (.done, { s with
      service := serviceOf s.settings registry
      surroundings := (registry.recordLoad s.surroundings.forget).2 }) := by
  rw [step, stepFrom, reload]
  dsimp only
  rw [h]
  rfl

end Session

def SessionStep.isSending (x : SessionStep) : Bool :=
  x.concern = .notifications || x.concern = .tokens

theorem SessionStep.isSending_iff {x : SessionStep} :
    x.isSending = true ↔ x.concern = .notifications ∨ x.concern = .tokens := by
  rw [isSending, Bool.or_eq_true, decide_eq_true_eq, decide_eq_true_eq]

theorem Registry.after_of_isSending {x : SessionStep} (h : x.isSending = true) (r : Registry) :
    r.after x = r := by
  cases x with
  | send notification => rfl
  | token => rfl
  | authorization => rfl
  | request req =>
    rcases SessionStep.isSending_iff.mp h with h | h
    · have hpath := SessionStep.concern_request_notifications.mp h
      exact after_request (HttpRequest.change?_of_sendPath hpath) r
    · obtain ⟨form, hform⟩ := SessionStep.exists_asks?_of_concern h
      cases hform
  | _ => cases h

namespace Session

theorem registry_run (s : Session) (xs : List SessionStep) :
    (s.run xs).service.registry = xs.foldl Registry.after s.service.registry := by
  induction xs generalizing s with
  | nil => rfl
  | cons x xs ih =>
    change ((s.step x).2.run xs).service.registry = _
    rw [ih, registry_step, List.foldl_cons]

/-- The registry after a run is the one that the run leaves without its steps about sending. -/
theorem registry_run_filter (s : Session) (xs : List SessionStep) :
    (s.run xs).service.registry = (s.run (xs.filter (!·.isSending))).service.registry := by
  rw [registry_run, registry_run]
  -- The sessions differ from here on, but not in what the steps make of the registry.
  generalize s.service.registry = r
  induction xs generalizing r with
  | nil => rfl
  | cons x xs ih =>
    rw [List.foldl_cons, ih]
    cases hx : x.isSending with
    | true => rw [List.filter_cons_of_neg (by simp [hx]), Registry.after_of_isSending hx]
    | false => rw [List.filter_cons_of_pos (by simp [hx]), List.foldl_cons]

end Session

/-- Steps about registrations leave provider and tokens alone, and steps about sending leave the
registry alone, so that these could be left out for it. -/
theorem sender_and_registry_apart (s : Session) (x : SessionStep) :
    let s' := (s.step x).2
    (x.concern = .registrations →
      s'.surroundings.received = [] ∧ s'.surroundings.provider = s.surroundings.provider ∧
      s'.service.tokens = s.service.tokens ∧ s'.source = s.source) ∧
    (x.concern = .notifications →
      s'.service.registry = s.service.registry ∧ s'.source = s.source) ∧
    (x.concern = .tokens → s'.service = s.service) ∧
    ∀ xs, (s.run xs).service.registry = (s.run (xs.filter (!·.isSending))).service.registry := by
  intro s'
  refine ⟨fun h => ?_, fun h => ?_, fun h => ?_, s.registry_run_filter⟩
  · obtain ⟨f, hf⟩ := Session.local_of_registrations h
    have hs' : s' = _ := congrArg Prod.snd (hf s)
    rw [hs']
    exact ⟨rfl, rfl, rfl, rfl⟩
  · obtain ⟨result, tokens, w, hstep⟩ := Session.step_of_notifications h s
    have hs' : s' = _ := congrArg Prod.snd hstep
    rw [hs']
    exact ⟨rfl, rfl⟩
  · obtain ⟨result, source, w, hstep⟩ := Session.step_of_tokens h s
    have hs' : s' = _ := congrArg Prod.snd hstep
    rw [hs']

/-- A removal, a notification and a call for a token all fail, and each side is as it was. -/
theorem sender_and_registry_apart_failing :
    let device : Registration := ⟨"dev", "https://wns.example/1", none, none⟩
    let store : MemoryStore := ⟨Dictionary.ofList [("dev", device)], 0, .crash⟩
    let settings : Settings :=
      ⟨some "id", some "secret", "https://login.example/token", "registrations.conf", 8000⟩
    let source := TokenSource.ofSettings settings
    let s : Session := ⟨settings, ⟨⟨store.durable, .memory store⟩, source⟩, source,
      ⟨⟨[], []⟩, fun _ => 0, [], []⟩⟩
    let removal : SessionStep :=
      .request ⟨"DELETE", "/api/notify.windows", Text.encode "\x7b\"id\":\"dev\"\x7d"⟩
    let notification : SessionStep := .send ⟨"hello", none, none, none⟩
    (removal.concern = .registrations ∧ (s.step removal).1 = .response Answer.notSaved.response ∧
      (s.step removal).2.surroundings.received = [] ∧
      (s.step removal).2.service.tokens = source) ∧
    (notification.concern = .notifications ∧
      (s.step notification).1 =
        .failed (.tokenFetch "token endpoint returned 404 Not Found: no such endpoint") ∧
      (s.step notification).2.service.registry = s.service.registry) ∧
    (SessionStep.token.concern = .tokens ∧ (s.step .token).2.service = s.service) := by
  intro device store settings source s removal notification
  have hremoval : removal.concern = .registrations := by decide +kernel
  have hnotSaved : (s.step removal).1 = .response Answer.notSaved.response := by decide +kernel
  have hrefused : (s.step notification).1 =
      .failed (.tokenFetch "token endpoint returned 404 Not Found: no such endpoint") := by
    decide +kernel
  obtain ⟨hnone, -, htokens, -⟩ := (sender_and_registry_apart s removal).1 hremoval
  have hkept := (sender_and_registry_apart s notification).2.1 rfl
  have hservice := (sender_and_registry_apart s .token).2.2.1 rfl
  exact ⟨⟨hremoval, hnotSaved, hnone, htokens⟩, ⟨rfl, hrefused, hkept.1⟩, rfl, hservice⟩

end ToastRelay
