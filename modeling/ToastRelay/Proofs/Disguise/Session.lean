import ToastRelay.Proofs.Disguise.Sending
import ToastRelay.Proofs.Session.Frame
import ToastRelay.Proofs.Settings.Environment

/-!
# Sessions in disguise

Two sessions with the same registry and related tokens, credentials and surroundings go on alike
through related steps. Only a step that asks for a token can have another result, and then it gives
the related token. What the secret of the credentials and the tokens are is seen in the requests
alone.
-/

namespace ToastRelay
set_option autoImplicit false

namespace Disguise

structure OnSessions (d : Disguise) (s s' : Session) : Prop where
  settings : d.OnSources (TokenSource.ofSettings s.settings) (TokenSource.ofSettings s'.settings)
  registry : s'.service.registry = s.service.registry
  tokens : d.OnSources s.service.tokens s'.service.tokens
  source : d.OnSources s.source s'.source
  surroundings : d.OnSurroundings s.surroundings s'.surroundings

/-- The same steps but for the replies that they give to the provider. -/
inductive OnSteps (d : Disguise) : SessionStep → SessionStep → Prop where
  | same (x : SessionStep) : OnSteps d x x
  | setProvider {rules rules' : List (String × List Reply)} (refused : Option (List String)) :
      d.OnRules rules rules' → OnSteps d (.setProvider rules refused) (.setProvider rules' refused)

/-- The results of a step are the same, unless the step asks for a token and gives related ones. -/
def OnResults (d : Disguise) (x : SessionStep) (result result' : StepResult) : Prop :=
  result' = result ∨ ∃ form t t', x.asks? = some form ∧ d.token t t' ∧
    result = .text (form t) ∧ result' = .text (form t')

variable {d : Disguise} {s s' : Session} {x x' : SessionStep}

theorem onActs_recordLoad (registry : Registry) :
    d.OnActs Eq registry.recordLoad registry.recordLoad := onActs_record _ _ _

theorem OnSessions.step_of_local (h : d.OnSessions s s') (hx : x.Local) :
    d.OnResults x (s.step x).1 (s'.step x).1 ∧ d.OnSessions (s.step x).2 (s'.step x).2 := by
  obtain ⟨f, hf⟩ := hx
  rw [hf, hf, h.registry]
  exact ⟨.inl rfl, h.settings, rfl, h.tokens, h.source, h.surroundings.forget.recordAll _⟩

theorem OnSessions.step_of_notification (h : d.OnSessions s s') {notification : Notification}
    (hx : x.notification? = some notification) :
    d.OnResults x (s.step x).1 (s'.step x).1 ∧ d.OnSessions (s.step x).2 (s'.step x).2 := by
  have hsend := onActs_notification h.tokens s.service.registry.registrations notification _ _
    h.surroundings.forget
  rw [Session.step_of_notification hx, Session.step_of_notification hx, h.registry]
  generalize Sender.send _ notification s.service.tokens s.surroundings.forget = p,
    Sender.send _ notification s'.service.tokens s'.surroundings.forget = p' at hsend
  obtain ⟨⟨result, tokens⟩, w⟩ := p
  obtain ⟨⟨result', tokens'⟩, w'⟩ := p'
  obtain ⟨⟨rfl, htokens⟩, hafter⟩ := hsend
  exact ⟨.inl rfl, h.settings, h.registry, htokens, h.source, hafter.recordAll _⟩

theorem OnSessions.step_of_asks (h : d.OnSessions s s') {form : String → String}
    (hx : x.asks? = some form) :
    d.OnResults x (s.step x).1 (s'.step x).1 ∧ d.OnSessions (s.step x).2 (s'.step x).2 := by
  have htoken := onActs_token h.source _ _ h.surroundings.forget
  rw [Session.step_of_asks hx, Session.step_of_asks hx]
  generalize s.source.token s.surroundings.forget = p,
    s'.source.token s'.surroundings.forget = p' at htoken
  obtain ⟨⟨result, source⟩, w⟩ := p
  obtain ⟨⟨result', source'⟩, w'⟩ := p'
  obtain ⟨⟨hresult, hsource⟩, hafter⟩ := htoken
  refine ⟨?_, h.settings, h.registry, h.tokens, hsource, hafter⟩
  cases hresult with
  | error f => exact .inl rfl
  | ok ht => exact .inr ⟨form, _, _, hx, ht, rfl, rfl⟩

theorem OnSessions.step_reload (h : d.OnSessions s s') :
    d.OnResults .reload (s.step .reload).1 (s'.step .reload).1 ∧
      d.OnSessions (s.step .reload).2 (s'.step .reload).2 := by
  cases hload : Registry.load s.service.registry.store with
  | error e =>
    rw [Session.step_reload_of_error hload, Session.step_reload_of_error (h.registry ▸ hload)]
    exact ⟨.inl rfl, h.settings, h.registry, h.tokens, h.source, h.surroundings.forget⟩
  | ok registry =>
    have hafter := (onActs_recordLoad registry _ _ h.surroundings.forget).2
    rw [Session.step_reload_of_ok hload, Session.step_reload_of_ok (h.registry ▸ hload)]
    exact ⟨.inl rfl, h.settings, rfl, h.settings, h.source, hafter⟩

theorem OnSessions.step_setProvider (h : d.OnSessions s s')
    {rules rules' : List (String × List Reply)} (hrules : d.OnRules rules rules')
    (refused : Option (List String)) :
    d.OnSessions (s.step (.setProvider rules refused)).2
      (s'.step (.setProvider rules' refused)).2 := by
  have hforget := h.surroundings.forget
  have hprovider := hforget.provider.replace hrules
  refine ⟨h.settings, h.registry, h.tokens, h.source, ⟨hprovider.rules, ?_⟩, hforget.clock,
    hforget.received, hforget.log⟩
  exact congrArg refused.getD hprovider.refused

theorem OnSessions.step (h : d.OnSessions s s') (hx : d.OnSteps x x') :
    d.OnResults x (s.step x).1 (s'.step x').1 ∧ d.OnSessions (s.step x).2 (s'.step x').2 := by
  cases hx with
  | setProvider refused hrules => exact ⟨.inl rfl, h.step_setProvider hrules refused⟩
  | same =>
    cases hconcern : x.concern with
    | registrations => exact h.step_of_local (Session.local_of_registrations hconcern)
    | notifications =>
      rcases Session.notifications_cases hconcern with ⟨notification, hx⟩ | ⟨a, ha⟩
      · exact h.step_of_notification hx
      · rw [ha, ha]
        exact ⟨.inl rfl, h.settings, h.registry, h.tokens, h.source, h.surroundings.forget⟩
    | tokens =>
      obtain ⟨form, hx⟩ := SessionStep.exists_asks?_of_concern hconcern
      exact h.step_of_asks hx
    | other =>
      rcases Session.other_cases hconcern with hx | ⟨rules, refused, rfl⟩ | rfl
      · exact h.step_of_local hx
      · exact ⟨.inl rfl, h.step_setProvider (onRules_refl rules) refused⟩
      · exact h.step_reload

theorem OnSessions.run (h : d.OnSessions s s') {xs xs' : List SessionStep}
    (hxs : List.Forall₂ d.OnSteps xs xs') : d.OnSessions (s.run xs) (s'.run xs') := by
  induction hxs generalizing s s' with
  | nil => exact h
  | cons hx _ ih => exact ih (h.step hx).2

theorem OnSessions.start {settings settings' : Settings}
    (hsettings : d.OnSources (TokenSource.ofSettings settings) (TokenSource.ofSettings settings'))
    {w w' : Surroundings} (hw : d.OnSurroundings w w') {store : Store}
    (hs : Session.start settings store w = .ok s) :
    ∃ s', Session.start settings' store w' = .ok s' ∧ d.OnSessions s s' := by
  obtain ⟨registry, hload, rfl⟩ := Session.eq_of_start hs
  have hafter := (onActs_recordLoad registry _ _ hw).2
  rw [Session.start, hload]
  exact ⟨_, rfl, hsettings, rfl, hsettings, hsettings, hafter⟩

/-- Other secrets of the same client. -/
def ofSecrets : Disguise where
  credentials c c' := c'.clientId = c.clientId
  token := Eq
  token_refl _ := rfl
  isHeaderValue_eq h := by rw [h]

/-- Other tokens, which can be written into a header if and only if the first ones can. -/
def ofTokens : Disguise where
  credentials := Eq
  token t t' := Sender.isHeaderValue t' = Sender.isHeaderValue t
  token_refl _ := rfl
  isHeaderValue_eq h := h

theorem onSurroundings_of_onProviders {w : Surroundings} {provider : Provider}
    (h : d.OnProviders w.provider provider) :
    d.OnSurroundings w { w with provider := provider } :=
  ⟨h, rfl, List.forall₂_same.mpr fun o _ => .same o, rfl⟩

theorem onSources_ofSettings (hrefl : ∀ c, d.credentials c c) (settings : Settings) :
    d.OnSources (TokenSource.ofSettings settings) (TokenSource.ofSettings settings) := by
  refine ⟨rfl, ?_, .none⟩
  cases (TokenSource.ofSettings settings).credentials with
  | none => exact .none
  | some c => exact .some (hrefl c)

open Environment in
theorem onSources_of_ofEnvironment {raw raw' : String → Option Bytes}
    (hothers : ∀ name, name ≠ "WNS_CLIENT_SECRET" → raw' name = raw name)
    (hsecret : ¬ Lacks raw "WNS_CLIENT_SECRET") (hsecret' : ¬ Lacks raw' "WNS_CLIENT_SECRET")
    {settings : Settings} (hsettings : Settings.ofEnvironment (ofBytes raw) = .ok settings) :
    ∃ settings', Settings.ofEnvironment (ofBytes raw') = .ok settings' ∧
      ofSecrets.OnSources (TokenSource.ofSettings settings) (TokenSource.ofSettings settings') := by
  have hsame : ∀ name, name ≠ "WNS_CLIENT_SECRET" → ofBytes raw' name = ofBytes raw name := by
    intro name hname
    rw [ofBytes, ofBytes, hothers name hname]
  have hsettings' := Settings.ofEnvironment_congr fun name _ => hsame name
  rw [hsettings] at hsettings'
  obtain ⟨secret, hsome⟩ := Option.ne_none_iff_exists'.mp (lacks_iff.not.mp hsecret)
  obtain ⟨secret', hsome'⟩ := Option.ne_none_iff_exists'.mp (lacks_iff.not.mp hsecret')
  refine ⟨_, hsettings', rfl, ?_, .none⟩
  change Option.Rel _ settings.credentials (Settings.credentials _)
  rw [Settings.credentials_of_ofEnvironment hsettings,
    Settings.credentials_of_ofEnvironment hsettings', hsame _ (by decide), hsome, hsome']
  cases (ofBytes raw "WNS_CLIENT_ID").filter (· ≠ "") with
  | none => exact .none
  | some id => exact .some rfl

end Disguise

open Environment in
/-- Sessions that differ in the secret, or in the tokens that are granted but not in whether headers
can hold them, behave alike but where the secret or the token itself is handed on. -/
theorem secrets_do_not_show :
    (∀ (raw raw' : String → Option Bytes) (settings : Settings) (store : Store) (w : Surroundings)
        (s₀ : Session),
      (∀ name, name ≠ "WNS_CLIENT_SECRET" → raw' name = raw name) →
      ¬ Lacks raw "WNS_CLIENT_SECRET" → ¬ Lacks raw' "WNS_CLIENT_SECRET" →
      Settings.ofEnvironment (ofBytes raw) = .ok settings →
      Session.start settings store w = .ok s₀ →
      ∃ settings' s₀', Settings.ofEnvironment (ofBytes raw') = .ok settings' ∧
        Session.start settings' store w = .ok s₀' ∧
        s₀'.surroundings.log = s₀.surroundings.log ∧
        ∀ xs x,
          let p := (s₀.run xs).step x
          let p' := (s₀'.run xs).step x
          p'.1 = p.1 ∧ p'.2.service.registry = p.2.service.registry ∧
          p'.2.surroundings.log = p.2.surroundings.log ∧
          List.Forall₂ Disguise.ofSecrets.OnRequests p.2.surroundings.received
            p'.2.surroundings.received) ∧
    ∀ (settings : Settings) (store : Store) (w : Surroundings) (provider : Provider)
        (s₀ : Session),
      Disguise.ofTokens.OnProviders w.provider provider →
      Session.start settings store w = .ok s₀ →
      ∃ s₀', Session.start settings store { w with provider := provider } = .ok s₀' ∧
        s₀'.surroundings.log = s₀.surroundings.log ∧
        ∀ xs xs' x x', List.Forall₂ Disguise.ofTokens.OnSteps xs xs' →
          Disguise.ofTokens.OnSteps x x' →
          let p := (s₀.run xs).step x
          let p' := (s₀'.run xs').step x'
          (x.asks? = none → p'.1 = p.1) ∧ p'.2.service.registry = p.2.service.registry ∧
          p'.2.surroundings.log = p.2.surroundings.log ∧
          List.Forall₂ Disguise.ofTokens.OnRequests p.2.surroundings.received
            p'.2.surroundings.received := by
  constructor
  · intro raw raw' settings store w s₀ hothers hsecret hsecret' hsettings hs₀
    obtain ⟨settings', hsettings', hsources⟩ :=
      Disguise.onSources_of_ofEnvironment hothers hsecret hsecret' hsettings
    have hprovider : Disguise.ofSecrets.OnProviders w.provider w.provider :=
      ⟨Disguise.onRules_refl _, rfl⟩
    obtain ⟨s₀', hs₀', hrelated⟩ :=
      Disguise.OnSessions.start hsources (Disguise.onSurroundings_of_onProviders hprovider) hs₀
    refine ⟨settings', s₀', hsettings', hs₀', hrelated.surroundings.log, ?_⟩
    intro xs x p p'
    have hxs : List.Forall₂ Disguise.ofSecrets.OnSteps xs xs :=
      List.forall₂_same.mpr fun x _ => .same x
    obtain ⟨hresult, hafter⟩ := (hrelated.run hxs).step (.same x)
    refine ⟨?_, hafter.registry, hafter.surroundings.log, hafter.surroundings.received⟩
    rcases hresult with hsame | ⟨form, t, t', -, rfl, htext, htext'⟩
    · exact hsame
    · exact htext'.trans htext.symm
  · intro settings store w provider s₀ hprovider hs₀
    have hsources := Disguise.onSources_ofSettings (d := Disguise.ofTokens) (fun c => rfl) settings
    obtain ⟨s₀', hs₀', hrelated⟩ :=
      Disguise.OnSessions.start hsources (Disguise.onSurroundings_of_onProviders hprovider) hs₀
    refine ⟨s₀', hs₀', hrelated.surroundings.log, ?_⟩
    intro xs xs' x x' hxs hx p p'
    obtain ⟨hresult, hafter⟩ := (hrelated.run hxs).step hx
    refine ⟨fun hasks => ?_, hafter.registry, hafter.surroundings.log,
      hafter.surroundings.received⟩
    rcases hresult with hsame | ⟨form, t, t', hform, -⟩
    · exact hsame
    · rw [hasks] at hform
      cases hform

open Environment in
/-- A notification is delivered, with another secret or another token as well. -/
theorem secrets_do_not_show_delivered :
    let raw : String → String → Option Bytes := fun secret name =>
      if name = "WNS_CLIENT_ID" then some (Text.encode "id")
      else if name = "WNS_CLIENT_SECRET" then some (Text.encode secret) else none
    let device : Registration := ⟨"dev", "https://wns.example/1", none, none⟩
    let store := Store.memory ⟨Dictionary.ofList [("dev", device)], 0, .succeed⟩
    let grant : String → Reply := fun token => .answer 200
      (Text.encode ("\x7b\"access_token\":\"" ++ token ++ "\",\"expires_in\":3600\x7d")) 0
    let provider : String → Provider := fun token =>
      ⟨[(Settings.defaultTokenUrl, [grant token]), (device.channel, [.answer 200 [] 0])], []⟩
    let w : Surroundings := ⟨provider "tok", fun _ => 0, [], []⟩
    let notification : SessionStep := .send ⟨"hello", none, none, none⟩
    let report := StepResult.report ⟨["dev"], []⟩
    (∃ settings s₀, Settings.ofEnvironment (ofBytes (raw "one")) = .ok settings ∧
      Session.start settings store w = .ok s₀ ∧ (s₀.step notification).1 = report) ∧
    (∃ settings s₀, Settings.ofEnvironment (ofBytes (raw "two")) = .ok settings ∧
      Session.start settings store w = .ok s₀ ∧ (s₀.step notification).1 = report) ∧
    ∃ settings s₀, Settings.ofEnvironment (ofBytes (raw "one")) = .ok settings ∧
      Session.start settings store { w with provider := provider "other" } = .ok s₀ ∧
      (s₀.step notification).1 = report := by
  intro raw device store grant provider w notification report
  let registry : Registry := ⟨Dictionary.ofList [("dev", device)], store⟩
  let settings : Settings := ⟨some "id", some "one", Settings.defaultTokenUrl,
    Settings.defaultRegistrationsFile, Settings.defaultPort⟩
  let s₀ : Session := ⟨settings, Session.serviceOf settings registry,
    TokenSource.ofSettings settings, (registry.recordLoad w).2⟩
  have hsettings : Settings.ofEnvironment (ofBytes (raw "one")) = .ok settings := by decide +kernel
  have hs₀ : Session.start settings store w = .ok s₀ := rfl
  have hreport : (s₀.step notification).1 = report := by decide +kernel
  have hothers : ∀ name, name ≠ "WNS_CLIENT_SECRET" → raw "two" name = raw "one" name := by
    intro name hname
    simp only [raw, if_neg hname]
  have hsecret : ¬ Lacks (raw "one") "WNS_CLIENT_SECRET" := by
    rw [lacks_iff]
    decide +kernel
  have hsecret' : ¬ Lacks (raw "two") "WNS_CLIENT_SECRET" := by
    rw [lacks_iff]
    decide +kernel
  have hbody : ∀ token ∈ ["tok", "other"],
      Grant.ofBytes (Text.encode ("\x7b\"access_token\":\"" ++ token ++
        "\",\"expires_in\":3600\x7d")) = .ok ⟨token, 3600⟩ := by
    decide +kernel
  have hheaders : Sender.isHeaderValue "other" = Sender.isHeaderValue "tok" := by decide +kernel
  have hgrant : Disguise.ofTokens.OnReplies (grant "tok") (grant "other") :=
    .grant 0 rfl (hbody "tok" (by simp)) (hbody "other" (by simp)) ⟨hheaders, rfl⟩
  have hprovider : Disguise.ofTokens.OnProviders w.provider (provider "other") :=
    ⟨.cons ⟨rfl, .cons hgrant .nil⟩ (.cons ⟨rfl, .cons (.same _) .nil⟩ .nil), rfl⟩
  obtain ⟨settings', s₁, hsettings', hs₁, -, hsteps⟩ := secrets_do_not_show.1 _ _ _ _ _ _ hothers
    hsecret hsecret' hsettings hs₀
  obtain ⟨s₂, hs₂, -, hsteps'⟩ := secrets_do_not_show.2 _ _ _ _ _ hprovider hs₀
  refine ⟨⟨settings, s₀, hsettings, hs₀, hreport⟩, ⟨settings', s₁, hsettings', hs₁, ?_⟩,
    settings, s₂, hsettings, hs₂, ?_⟩
  · exact (hsteps [] notification).1.trans hreport
  · exact ((hsteps' [] [] _ _ .nil (.same notification)).1 rfl).trans hreport

/-- A device that is reached with an ordinary token is skipped with one that has a line break. -/
theorem illegal_token_shows :
    let device : Registration := ⟨"dev", "https://wns.example/1", none, none⟩
    let registry : Registry := ⟨Dictionary.ofList [("dev", device)],
      .memory ⟨Dictionary.ofList [("dev", device)], 0, .succeed⟩⟩
    let settings : Settings :=
      ⟨some "id", some "secret", "https://login.example/token", "registrations.conf", 8000⟩
    let source := TokenSource.ofSettings settings
    let body : String → Bytes := fun token =>
      Text.encode ("\x7b\"access_token\":\"" ++ token ++ "\",\"expires_in\":3600\x7d")
    let s : String → Session := fun token => ⟨settings, ⟨registry, source⟩, source,
      ⟨⟨[("https://login.example/token", [.answer 200 (body token) 0]),
        (device.channel, [.answer 200 [] 0])], []⟩, fun _ => 0, [], []⟩⟩
    let notification : SessionStep := .send ⟨"hello", none, none, none⟩
    Grant.ofBytes (body "a\\nb") = .ok ⟨"a\nb", 3600⟩ ∧
      Grant.ofBytes (body "tok") = .ok ⟨"tok", 3600⟩ ∧
      Sender.isHeaderValue "tok" = true ∧
      ((s "a\\nb").step notification).1 = .report ⟨[], ["dev"]⟩ ∧
      ((s "tok").step notification).1 = .report ⟨["dev"], []⟩ := by
  decide +kernel

end ToastRelay
