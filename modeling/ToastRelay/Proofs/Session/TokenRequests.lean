import ToastRelay.Proofs.Sender.Postings
import ToastRelay.Proofs.Session.Frame
import ToastRelay.Proofs.Settings.Environment
import ToastRelay.Proofs.Web.Form

/-!
# Requests for a token

A call for a token changes nothing of its source but the kept token, and a registry that is loaded
again gets a source with what the settings say. So in every step of a run both sources have the
address and the credentials of the settings, and a request that carries no toast carries the form of
these credentials. From it they can be read back, whatever characters they are made of.
-/

namespace ToastRelay
set_option autoImplicit false

namespace TokenSource

structure IsOf (settings : Settings) (source : TokenSource) : Prop where
  url : source.url = settings.tokenUrl
  credentials : source.credentials = settings.credentials

variable {settings : Settings} {source : TokenSource} {w : Surroundings}

theorem isOf_ofSettings (settings : Settings) : (ofSettings settings).IsOf settings := ⟨rfl, rfl⟩

theorem IsOf.token (h : source.IsOf settings) (w : Surroundings) :
    (source.token w).1.2.IsOf settings := by
  rcases source.token_cases w with ⟨k, w', -, -, htoken, -⟩ |
    ⟨-, ⟨f, w', requests, htoken, -, -⟩ | ⟨o, grant, w', htoken, -, -⟩⟩
  all_goals
    rw [htoken]
    exact ⟨h.url, h.credentials⟩

theorem IsOf.send (h : source.IsOf settings) (rs : Registrations) (notification : Notification)
    (w : Surroundings) : (Sender.send rs notification source w).1.2.IsOf settings := by
  have hsource : (Sender.send rs notification source w).1.2 = (source.token w).1.2 := by
    rw [Sender.send, Act.bind_apply]
    rcases source.token w with ⟨⟨result, source'⟩, w'⟩
    cases result <;> rfl
  rw [hsource]
  exact h.token w

theorem received_token_of_not_usable (h : source.usable? (w.clock 0) = none) {c : Credentials}
    (hc : source.credentials = some c) {uri : Web.Uri} (huri : Web.Uri.ofText source.url = .ok uri)
    (hconnects : w.provider.connects uri = true) :
    (source.token w).2.received =
      w.received ++ [⟨uri, "application/x-www-form-urlencoded", none, none, form c⟩] := by
  let o : Outgoing := ⟨uri, "application/x-www-form-urlencoded", none, none, form c⟩
  have hsend : Surroundings.send o w.now.2 =
      ((w.provider.reply uri.text).received, w.now.2.receiving [o]) :=
    Surroundings.send_of_connects (o := o) hconnects
  have hrequest : source.request w.now.2 =
      (grantOf (w.provider.reply uri.text).received, w.now.2.receiving [o]) := by
    rw [request, hc, huri]
    dsimp only
    rw [Act.bind_apply, hsend]
    rfl
  rw [token_of_not_usable h, renew, Act.bind_apply, hrequest]
  cases grantOf (w.provider.reply uri.text).received with
  | error f => rfl
  | ok grant =>
    simp only [Act.bind_apply]
    cases Token.expiry? _ grant.lifetime <;> rfl

end TokenSource

namespace Session

structure HasSourcesOf (settings : Settings) (s : Session) : Prop where
  setup : s.settings = settings
  tokens : s.service.tokens.IsOf settings
  source : s.source.IsOf settings

variable {settings : Settings} {s : Session} {x : SessionStep}

theorem hasSourcesOf_start {store : Store} {surroundings : Surroundings}
    (hs : start settings store surroundings = .ok s) : s.HasSourcesOf settings := by
  obtain ⟨registry, -, rfl⟩ := eq_of_start hs
  exact ⟨rfl, TokenSource.isOf_ofSettings settings, TokenSource.isOf_ofSettings settings⟩

namespace HasSourcesOf

theorem step_of_local (hs : s.HasSourcesOf settings) (h : x.Local) :
    (s.step x).2.HasSourcesOf settings ∧
      ∀ o ∈ (s.step x).2.surroundings.received,
        ServiceRequest settings.credentials s.service.registry.registrations o := by
  obtain ⟨f, hf⟩ := h
  rw [hf]
  exact ⟨⟨hs.setup, hs.tokens, hs.source⟩, fun _ ho => absurd ho List.not_mem_nil⟩

theorem step_of_notification (hs : s.HasSourcesOf settings) {notification : Notification}
    (h : x.notification? = some notification) :
    (s.step x).2.HasSourcesOf settings ∧
      ∀ o ∈ (s.step x).2.surroundings.received,
        ServiceRequest settings.credentials s.service.registry.registrations o := by
  have hsends := Sender.sends_notification s.service.registry.registrations notification
    s.service.tokens
  rw [hs.tokens.credentials] at hsends
  rw [Session.step_of_notification h]
  exact ⟨⟨hs.setup, hs.tokens.send _ notification _, hs.source⟩, received_of_sends hsends s⟩

theorem step_of_asks (hs : s.HasSourcesOf settings) {form : String → String}
    (h : x.asks? = some form) :
    (s.step x).2.HasSourcesOf settings ∧
      ∀ o ∈ (s.step x).2.surroundings.received,
        ServiceRequest settings.credentials s.service.registry.registrations o := by
  have hsends := sends_token s.service.registry.registrations s.source
  rw [hs.source.credentials] at hsends
  rw [Session.step_of_asks h]
  exact ⟨⟨hs.setup, hs.tokens, hs.source.token _⟩, received_of_sends hsends s⟩

/-- Every step keeps the sources as they are set up, and makes its requests with the credentials. -/
theorem step (hs : s.HasSourcesOf settings) (x : SessionStep) :
    (s.step x).2.HasSourcesOf settings ∧
      ∀ o ∈ (s.step x).2.surroundings.received,
        ServiceRequest settings.credentials s.service.registry.registrations o := by
  cases hconcern : x.concern with
  | registrations => exact hs.step_of_local (local_of_registrations hconcern)
  | notifications =>
    rcases notifications_cases hconcern with ⟨notification, hnotification⟩ | ⟨a, ha⟩
    · exact hs.step_of_notification hnotification
    · rw [ha]
      exact ⟨⟨hs.setup, hs.tokens, hs.source⟩, fun _ ho => absurd ho List.not_mem_nil⟩
  | tokens =>
    obtain ⟨form, hform⟩ := SessionStep.exists_asks?_of_concern hconcern
    exact hs.step_of_asks hform
  | other =>
    rcases other_cases hconcern with hlocal | ⟨rules, refused, rfl⟩ | rfl
    · exact hs.step_of_local hlocal
    · exact ⟨⟨hs.setup, hs.tokens, hs.source⟩, fun _ ho => absurd ho List.not_mem_nil⟩
    · cases hload : Registry.load s.service.registry.store with
      | error e =>
        rw [step_reload_of_error hload]
        exact ⟨⟨hs.setup, hs.tokens, hs.source⟩, fun _ ho => absurd ho List.not_mem_nil⟩
      | ok registry =>
        have htokens : (TokenSource.ofSettings s.settings).IsOf settings :=
          hs.setup ▸ TokenSource.isOf_ofSettings s.settings
        rw [step_reload_of_ok hload]
        exact ⟨⟨hs.setup, htokens, hs.source⟩, fun _ ho => absurd ho List.not_mem_nil⟩

theorem run (hs : s.HasSourcesOf settings) (xs : List SessionStep) :
    (s.run xs).HasSourcesOf settings := by
  induction xs generalizing s with
  | nil => exact hs
  | cons x xs ih => exact ih (hs.step x).1

end HasSourcesOf

end Session

theorem Settings.credentials_of_values {environment : Environment} {settings : Settings}
    {id secret : String} (h : ofEnvironment environment = .ok settings)
    (hid : environment "WNS_CLIENT_ID" = some id) (hidNe : id ≠ "")
    (hsecret : environment "WNS_CLIENT_SECRET" = some secret) (hsecretNe : secret ≠ "") :
    settings.credentials = some ⟨id, secret⟩ := by
  rw [credentials_of_ofEnvironment h, hid, hsecret]
  simp [Option.filter, hidNe, hsecretNe]

/-- Every request that is no toast is a form from which the kind of the grant, the identifier, the
secret and the scope are read. -/
theorem token_request_carries_credentials {environment : Environment} {id secret : String}
    (hid : environment "WNS_CLIENT_ID" = some id) (hidNe : id ≠ "")
    (hsecret : environment "WNS_CLIENT_SECRET" = some secret) (hsecretNe : secret ≠ "")
    {settings : Settings} (hsettings : Settings.ofEnvironment environment = .ok settings)
    {store : Store} {surroundings : Surroundings} {s₀ : Session}
    (hs₀ : Session.start settings store surroundings = .ok s₀)
    (xs : List SessionStep) (x : SessionStep) :
    let s := s₀.run xs
    let received := (s.step x).2.surroundings.received
    (∀ o ∈ received, o.notificationType ≠ some "wns/toast" →
      o.contentType = "application/x-www-form-urlencoded" ∧
      (∀ c ∈ o.body.toList, c.toNat < 128) ∧
      Web.Form.decode? o.body = some [("grant_type", "client_credentials"), ("client_id", id),
        ("client_secret", secret), ("scope", "notify.windows.com")]) ∧
    ∀ uri, x = .token ∨ x = .authorization → s.source.usable? (s.surroundings.clock 0) = none →
      Web.Uri.ofText settings.tokenUrl = .ok uri → s.surroundings.provider.connects uri = true →
      ∃ o, received = [o] ∧ o.uri = uri ∧ o.notificationType ≠ some "wns/toast" := by
  intro s received
  have hcredentials : settings.credentials = some ⟨id, secret⟩ :=
    Settings.credentials_of_values hsettings hid hidNe hsecret hsecretNe
  have hs : s.HasSourcesOf settings := (Session.hasSourcesOf_start hs₀).run xs
  constructor
  · intro o ho hkind
    have hrequest := (hs.step x).2 o ho
    cases hrequest with
    | toast he huri authorization document => exact absurd rfl hkind
    | token h uri =>
      rw [hcredentials] at h
      obtain rfl := Option.some.inj h
      exact ⟨rfl, fun c => Web.Form.isAscii_of_mem_encode, Web.Form.decode?_encode _⟩
  · intro uri hasks hstale huri hconnects
    obtain ⟨form, hform⟩ : ∃ form, x.asks? = some form := by
      rcases hasks with rfl | rfl
      · exact ⟨_, rfl⟩
      · exact ⟨_, rfl⟩
    have hreceived := TokenSource.received_token_of_not_usable (w := s.surroundings.forget) hstale
      (hs.source.credentials.trans hcredentials) (hs.source.url.symm ▸ huri) hconnects
    have hstep : received = (s.source.token s.surroundings.forget).2.received := by
      change (s.step x).2.surroundings.received = _
      rw [Session.step_of_asks hform]
      rfl
    exact ⟨_, hstep.trans hreceived, rfl, nofun⟩

/-- The identifier holds what separates and escapes in a form, the secret characters of up to four
bytes and what looks like a further parameter. -/
theorem token_request_carries_credentials_hostile :
    let id := "a&b=c d+e%2Bf\r\n"
    let secret := "ü€😀&scope=all"
    let environment : Environment := fun name =>
      if name = "WNS_CLIENT_ID" then some id
      else if name = "WNS_CLIENT_SECRET" then some secret else none
    let w : Surroundings := ⟨⟨[], []⟩, fun _ => 0, [], []⟩
    let store := Store.memory ⟨Dictionary.empty, 0, .succeed⟩
    environment "WNS_CLIENT_ID" = some id ∧ id ≠ "" ∧
    environment "WNS_CLIENT_SECRET" = some secret ∧ secret ≠ "" ∧
    ∃ settings s₀ o, Settings.ofEnvironment environment = .ok settings ∧
      Session.start settings store w = .ok s₀ ∧
      (s₀.step .token).2.surroundings.received = [o] ∧ o.notificationType ≠ some "wns/toast" ∧
      o.body.toList.all (·.toNat < 128) ∧
      Web.Form.decode? o.body = some [("grant_type", "client_credentials"), ("client_id", id),
        ("client_secret", secret), ("scope", "notify.windows.com")] := by
  intro id secret environment w store
  have hid : environment "WNS_CLIENT_ID" = some id := rfl
  have hidNe : id ≠ "" := by decide
  have hsecret : environment "WNS_CLIENT_SECRET" = some secret := rfl
  have hsecretNe : secret ≠ "" := by decide
  let settings : Settings :=
    ⟨some id, some secret, Settings.defaultTokenUrl, Settings.defaultRegistrationsFile, 8000⟩
  have hsettings : Settings.ofEnvironment environment = .ok settings := rfl
  obtain ⟨s₀, hs₀⟩ : ∃ s₀, Session.start settings store w = .ok s₀ := ⟨_, rfl⟩
  obtain ⟨hforms, hasked⟩ := token_request_carries_credentials hid hidNe hsecret hsecretNe
    hsettings hs₀ [] .token
  have hstale : s₀.source.usable? (s₀.surroundings.clock 0) = none := by
    cases hs₀
    rfl
  let uri : Web.Uri :=
    ⟨some "https".toList, "login.live.com".toList, "/accesstoken.srf".toList, none⟩
  have huri : Web.Uri.ofText settings.tokenUrl = .ok uri := by decide +kernel
  have hconnects : s₀.surroundings.provider.connects uri = true := by
    cases hs₀
    decide
  obtain ⟨o, ho, -, hkind⟩ := hasked uri (Or.inl rfl) hstale huri hconnects
  obtain ⟨-, hascii, hform⟩ := hforms o (ho ▸ List.mem_singleton_self o) hkind
  exact ⟨hid, hidNe, hsecret, hsecretNe, settings, s₀, o, hsettings, hs₀, ho, hkind,
    List.all_eq_true.mpr fun c hc => decide_eq_true (hascii c hc), hform⟩

end ToastRelay
