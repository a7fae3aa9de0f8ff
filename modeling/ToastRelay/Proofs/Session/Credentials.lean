import ToastRelay.Proofs.Sender.Postings
import ToastRelay.Proofs.Session.Answers
import ToastRelay.Proofs.Session.Frame
import ToastRelay.Proofs.Settings.Environment

/-!
# Sessions without credentials

A source of tokens without credentials gives no token, sends nothing and keeps nothing, so it stays
what it was at the beginning. Both sources of a session get their credentials from the settings, in
the beginning and whenever the registry is loaded again. So without credentials no step of a run
sends a request, and whatever needs a token fails. The registrations do not notice.
-/

namespace ToastRelay
set_option autoImplicit false

section Source
variable {settings : Settings}

theorem TokenSource.token_of_no_credentials (h : settings.credentials = none) (w : Surroundings) :
    (ofSettings settings).token w =
      ((.error .noCredentials, ofSettings settings), w.now.2) := by
  have hrequest : (ofSettings settings).request = pure (.error .noCredentials) := by
    rw [request, ofSettings, h]
  rw [token, Act.bind_apply]
  change (ofSettings settings).renew w.now.2 = _
  rw [renew, Act.bind_apply, hrequest]
  rfl

end Source

namespace Session

/-- A session whose settings lack a half of the credentials; neither of its sources keeps a token. -/
structure WithoutCredentials (s : Session) : Prop where
  settings : s.settings.credentials = none
  tokens : s.service.tokens = TokenSource.ofSettings s.settings
  source : s.source = TokenSource.ofSettings s.settings

variable {s : Session} {x : SessionStep}

theorem withoutCredentials_start {settings : Settings} {store : Store}
    {surroundings : Surroundings} (h : settings.credentials = none)
    (hs : start settings store surroundings = .ok s) : s.WithoutCredentials := by
  obtain ⟨registry, -, rfl⟩ := eq_of_start hs
  exact ⟨h, rfl, rfl⟩

theorem start_of_registry {store : Store} {registry : Registry}
    (h : Registry.load store = .ok registry) (settings : Settings) (surroundings : Surroundings) :
    ∃ s, start settings store surroundings = .ok s ∧ s.service.registry = registry := by
  rw [start, h]
  exact ⟨_, rfl, rfl⟩

namespace WithoutCredentials

theorem step_of_notification (hs : s.WithoutCredentials) {notification : Notification}
    (h : x.notification? = some notification) :
    s.step x = (x.told (.error .noCredentials), { s with
      surroundings := s.surroundings.forget.now.2.recordAll
        (x.sendRecords (.error .noCredentials)) }) := by
  have htoken : s.service.tokens.token s.surroundings.forget =
      ((.error .noCredentials, s.service.tokens), s.surroundings.forget.now.2) := by
    rw [hs.tokens]
    exact TokenSource.token_of_no_credentials hs.settings _
  rw [Session.step_of_notification h, Sender.send_of_no_token _ _ htoken]

theorem step_of_asks (hs : s.WithoutCredentials) {form : String → String}
    (h : x.asks? = some form) :
    s.step x = (.failed (.tokenFetch TokenFault.noCredentials.text),
      { s with surroundings := s.surroundings.forget.now.2 }) := by
  have htoken : s.source.token s.surroundings.forget =
      ((.error .noCredentials, s.source), s.surroundings.forget.now.2) := by
    rw [hs.source]
    exact TokenSource.token_of_no_credentials hs.settings _
  rw [Session.step_of_asks h, htoken]
  rfl

theorem step_of_local (hs : s.WithoutCredentials) (h : x.Local) :
    (s.step x).2.WithoutCredentials ∧ (s.step x).2.surroundings.received = [] := by
  obtain ⟨f, hf⟩ := h
  rw [hf]
  exact ⟨⟨hs.settings, hs.tokens, hs.source⟩, rfl⟩

/-- Every step leaves such a session such a session, and sends nothing. -/
theorem step (hs : s.WithoutCredentials) (x : SessionStep) :
    (s.step x).2.WithoutCredentials ∧ (s.step x).2.surroundings.received = [] := by
  cases hconcern : x.concern with
  | registrations => exact hs.step_of_local (local_of_registrations hconcern)
  | notifications =>
    rcases notifications_cases hconcern with ⟨notification, hnotification⟩ | ⟨a, ha⟩
    · rw [hs.step_of_notification hnotification]
      exact ⟨⟨hs.settings, hs.tokens, hs.source⟩, rfl⟩
    · rw [ha]
      exact ⟨⟨hs.settings, hs.tokens, hs.source⟩, rfl⟩
  | tokens =>
    obtain ⟨form, hform⟩ := SessionStep.exists_asks?_of_concern hconcern
    rw [hs.step_of_asks hform]
    exact ⟨⟨hs.settings, hs.tokens, hs.source⟩, rfl⟩
  | other =>
    rcases other_cases hconcern with hlocal | ⟨rules, refused, rfl⟩ | rfl
    · exact hs.step_of_local hlocal
    · exact ⟨⟨hs.settings, hs.tokens, hs.source⟩, rfl⟩
    · cases hload : Registry.load s.service.registry.store with
      | error e =>
        rw [step_reload_of_error hload]
        exact ⟨⟨hs.settings, hs.tokens, hs.source⟩, rfl⟩
      | ok registry =>
        rw [step_reload_of_ok hload]
        exact ⟨⟨hs.settings, rfl, hs.source⟩, rfl⟩

theorem run (hs : s.WithoutCredentials) (xs : List SessionStep) :
    (s.run xs).WithoutCredentials := by
  induction xs generalizing s with
  | nil => exact hs
  | cons x xs ih => exact ih (hs.step x).1

end WithoutCredentials

theorem result_congr_of_not_isSending (h : x.isSending = false) {s s' : Session}
    (hregistry : s'.service.registry = s.service.registry) : (s'.step x).1 = (s.step x).1 := by
  have hlocal : x.Local → (s'.step x).1 = (s.step x).1 := by
    rintro ⟨f, hf⟩
    rw [hf, hf, hregistry]
  cases hconcern : x.concern with
  | registrations => exact hlocal (local_of_registrations hconcern)
  | other =>
    rcases other_cases hconcern with hother | ⟨rules, refused, rfl⟩ | rfl
    · exact hlocal hother
    · rfl
    · cases hload : Registry.load s.service.registry.store with
      | error e =>
        rw [step_reload_of_error hload, step_reload_of_error (hregistry ▸ hload)]
      | ok registry =>
        rw [step_reload_of_ok hload, step_reload_of_ok (hregistry ▸ hload)]
  | notifications => simp [SessionStep.isSending, hconcern] at h
  | tokens => simp [SessionStep.isSending, hconcern] at h

end Session

open Environment in
/-- Without both halves of the credentials no request is ever sent, while the registry works as it
would with them. -/
theorem nothing_is_sent_without_credentials {raw : String → Option Bytes}
    {settings : Settings} (hsettings : Settings.ofEnvironment (ofBytes raw) = .ok settings)
    (hlacks : Lacks raw "WNS_CLIENT_ID" ∨ Lacks raw "WNS_CLIENT_SECRET")
    {store : Store} {surroundings : Surroundings} {s₀ : Session}
    (hs₀ : Session.start settings store surroundings = .ok s₀) :
    (∀ xs x,
      let s := s₀.run xs
      let result := (s.step x).1
      let failure := RelayError.tokenFetch "client credentials not configured"
      (s.step x).2.surroundings.received = [] ∧
      (∀ notification, x = .send notification → result = .failed failure) ∧
      (x = .token ∨ x = .authorization → result = .failed failure) ∧
      ∀ req v notification, x = .request req →
        Service.path? req.target = some Service.sendPath → req.method = "POST" →
        req.body.length ≤ Service.longestBody → Json.ofBytes req.body = .ok v →
        Notification.ofRequest v = .ok notification →
        result = .response (Answer.message 502
          "failed to fetch access token: client credentials not configured")) ∧
    ∀ (raw' : String → Option Bytes) (surroundings' : Surroundings),
      (∀ name, name ≠ "WNS_CLIENT_ID" → name ≠ "WNS_CLIENT_SECRET" →
        raw' name = raw name) →
      ¬ Lacks raw' "WNS_CLIENT_ID" → ¬ Lacks raw' "WNS_CLIENT_SECRET" →
      ∃ settings' s₀', Settings.ofEnvironment (ofBytes raw') = .ok settings' ∧
        settings'.credentials.isSome ∧
        Session.start settings' store surroundings' = .ok s₀' ∧
        ∀ xs, (s₀'.run xs).service.registry = (s₀.run xs).service.registry ∧
          ∀ x : SessionStep, x.isSending = false →
            ((s₀'.run xs).step x).1 = ((s₀.run xs).step x).1 := by
  have hnone : settings.credentials = none := by
    rw [Settings.credentials_of_ofEnvironment hsettings]
    rcases hlacks with hid | hsecret
    · rw [lacks_iff.mp hid]
      rfl
    · rw [lacks_iff.mp hsecret]
      cases (ofBytes raw "WNS_CLIENT_ID").filter (· ≠ "") <;> rfl
  have hstart := Session.withoutCredentials_start hnone hs₀
  refine ⟨fun xs x => ?_, fun raw' surroundings' hothers hid hsecret => ?_⟩
  · intro s result failure
    have hs : s.WithoutCredentials := hstart.run xs
    refine ⟨(hs.step x).2, ?_, ?_, ?_⟩
    · rintro notification rfl
      exact congrArg Prod.fst (hs.step_of_notification (x := .send notification) rfl)
    · rintro (rfl | rfl)
      · exact congrArg Prod.fst (hs.step_of_asks (x := .token) rfl)
      · exact congrArg Prod.fst (hs.step_of_asks (x := .authorization) rfl)
    · rintro req v notification rfl hpath hpost hlength hbytes hrequest
      have hvalue := HttpRequest.value?_eq_some.mpr ⟨hlength, hbytes⟩
      have hnotification := HttpRequest.notification?_eq_some.mpr
        ⟨hpath, hpost, v, hvalue, hrequest⟩
      exact congrArg Prod.fst (hs.step_of_notification (x := .request req) hnotification)
  · have hsame : ∀ name, name ≠ "WNS_CLIENT_ID" → name ≠ "WNS_CLIENT_SECRET" →
        ofBytes raw' name = ofBytes raw name := by
      intro name hnotId hnotSecret
      rw [ofBytes, ofBytes, hothers name hnotId hnotSecret]
    have hsettings' := Settings.ofEnvironment_congr hsame
    rw [hsettings] at hsettings'
    have hload := Session.start_eq_ok hs₀
    obtain ⟨s₀', hs₀', hregistry⟩ := Session.start_of_registry hload _ surroundings'
    refine ⟨_, s₀', hsettings', ?_, hs₀', fun xs => ?_⟩
    · rw [Settings.credentials_of_ofEnvironment hsettings']
      obtain ⟨id, hid⟩ := Option.ne_none_iff_exists'.mp (lacks_iff.not.mp hid)
      obtain ⟨secret, hsecret⟩ := Option.ne_none_iff_exists'.mp (lacks_iff.not.mp hsecret)
      rw [hid, hsecret]
      rfl
    · have hrun : (s₀'.run xs).service.registry = (s₀.run xs).service.registry := by
        rw [Session.registry_run, Session.registry_run, hregistry]
      refine ⟨hrun, fun x hx => ?_⟩
      exact Session.result_congr_of_not_isSending hx hrun

open Environment in
/-- An identifier that is no text leaves the secret alone: a notification fails, and a device is
removed. -/
theorem nothing_is_sent_without_credentials_broken :
    let raw : String → Option Bytes := fun name =>
      if name = "WNS_CLIENT_ID" then some [0xFF]
      else if name = "WNS_CLIENT_SECRET" then some (Text.encode "secret") else none
    let raw' : String → Option Bytes := fun name =>
      if name = "WNS_CLIENT_ID" then some (Text.encode "id") else raw name
    let device : Registration := ⟨"dev", "https://wns.example/1", none, none⟩
    let store := Store.memory ⟨Dictionary.ofList [("dev", device)], 0, .succeed⟩
    let w : Surroundings := ⟨⟨[], []⟩, fun _ => 0, [], []⟩
    let notification : SessionStep := .send ⟨"hello", none, none, none⟩
    let removal : SessionStep := .remove "dev"
    Lacks raw "WNS_CLIENT_ID" ∧
    ∃ settings s₀, Settings.ofEnvironment (ofBytes raw) = .ok settings ∧
      Session.start settings store w = .ok s₀ ∧
      (s₀.step notification).1 = .failed (.tokenFetch "client credentials not configured") ∧
      (s₀.step notification).2.surroundings.received = [] ∧
      removal.isSending = false ∧
      ∃ settings' s₀', Settings.ofEnvironment (ofBytes raw') = .ok settings' ∧
        settings'.credentials.isSome ∧ Session.start settings' store w = .ok s₀' ∧
        ((s₀'.run [notification]).step removal).1 = ((s₀.run [notification]).step removal).1 := by
  intro raw raw' device store w notification removal
  have hlacks : Lacks raw "WNS_CLIENT_ID" := Or.inr (Or.inr ⟨[0xFF], rfl, by decide +kernel⟩)
  have hothers : ∀ name, name ≠ "WNS_CLIENT_ID" → name ≠ "WNS_CLIENT_SECRET" →
      raw' name = raw name := fun name hid _ => if_neg hid
  have hid : ¬ Lacks raw' "WNS_CLIENT_ID" := by
    rw [lacks_iff]
    decide +kernel
  have hsecret : ¬ Lacks raw' "WNS_CLIENT_SECRET" := by
    rw [lacks_iff]
    decide +kernel
  obtain ⟨settings, hsettings⟩ :
      ∃ settings, Settings.ofEnvironment (ofBytes raw) = .ok settings := ⟨_, rfl⟩
  have hload : Registry.load store = .ok ⟨Dictionary.ofList [("dev", device)], store⟩ := rfl
  obtain ⟨s₀, hs₀, -⟩ := Session.start_of_registry hload settings w
  obtain ⟨hfails, hsame⟩ := nothing_is_sent_without_credentials hsettings (Or.inl hlacks) hs₀
  obtain ⟨hnone, hfailed, -⟩ := hfails [] notification
  obtain ⟨settings', s₀', hsettings', hsome, hs₀', hruns⟩ := hsame raw' w hothers hid hsecret
  refine ⟨hlacks, settings, s₀, hsettings, hs₀, hfailed _ rfl, hnone, rfl, settings', s₀',
    hsettings', hsome, hs₀', ?_⟩
  exact (hruns [notification]).2 removal rfl

end ToastRelay
