import ToastRelay.Proofs.Session.Frame
import ToastRelay.Proofs.Token.Failures

/-!
# Without a token

A notification needs a token before anything else. If there is none, the notification fails with the
reason for that, whomever it is meant for: no channel is tried, no target is complained about, and the
service is as before. With a token a notification cannot fail, whatever the channels do; there is a
report, if only of targets that were skipped.
-/

namespace ToastRelay
set_option autoImplicit false

namespace Session

variable (s : Session) (n : Notification)

theorem step_send_of_no_token {f : TokenFault}
    (h : (s.service.tokens.token s.surroundings.forget).1.1 = .error f) :
    ∃ w : Surroundings, w.Quiet ∧
      s.step (.send n) = (.failed (.tokenFetch f.text), { s with surroundings := w }) := by
  -- Whatever a call for a token does, one that fails leaves the source as it is.
  have hcall : s.service.tokens.token s.surroundings.forget = ((.error f, s.service.tokens),
      (s.service.tokens.token s.surroundings.forget).2) := by
    rcases s.service.tokens.token_cases s.surroundings.forget with ⟨k, w, -, -, hcall, -⟩ |
      ⟨-, ⟨g, w, -, hcall, -⟩ | ⟨o, grant, w, hcall, -⟩⟩
    · rw [hcall] at h
      cases h
    · rw [hcall] at h ⊢
      exact congrArg (fun r => ((r, _), w)) h
    · rw [hcall] at h
      cases h
  refine ⟨(s.service.tokens.token s.surroundings.forget).2, s.service.tokens.token_quiet _, ?_⟩
  rw [step_send, Sender.send_of_no_token _ _ hcall]
  rfl

theorem step_send_of_token {token : String}
    (h : (s.service.tokens.token s.surroundings.forget).1.1 = .ok token) :
    ∃ (tokens : TokenSource) (w : Surroundings), w.Quiet ∧
      let xs := Sender.turns (authorization token) n.document w.provider
        (s.service.registry.registrations.channelsFor (n.targets.getD []))
      s.step (.send n) = (.report (.ofTurns xs), { s with
        service := { s.service with tokens := tokens }, surroundings := w.passing xs }) := by
  have hquiet := s.service.tokens.token_quiet s.surroundings
  rcases hcall : s.service.tokens.token s.surroundings.forget with ⟨⟨result, tokens⟩, w⟩
  rw [hcall] at h hquiet
  obtain rfl : result = .ok token := h
  refine ⟨tokens, w, hquiet, ?_⟩
  rw [step_send, Sender.send_of_token_turns _ _ hcall]
  rfl

end Session

/-- A notification fails if and only if there is no token, with just that failure. Then no toast is
received, nobody is complained about and nothing is changed. -/
theorem no_token_no_toast (s : Session) (n : Notification) :
    let result := (s.step (.send n)).1
    let s' := (s.step (.send n)).2
    ((∃ report, result = .report report) ∨ ∃ e, result = .failed e) ∧
    (∀ e, result = .failed e ↔ s.service.tokens.usable? (s.surroundings.clock 0) = none ∧
      ∃ f, s.service.tokens.Fails s.surroundings.provider (s.surroundings.clock 1) f ∧
        e = .tokenFetch f.text) ∧
    ∀ e, result = .failed e → s'.surroundings.received.length ≤ 1 ∧
      (∀ o ∈ s'.surroundings.received, o.notificationType = none) ∧
      (∀ r ∈ s'.surroundings.log, r.level = .debug) ∧ s'.service = s.service := by
  intro result s'
  have hfails : ∀ {f}, (s.service.tokens.token s.surroundings.forget).1.1 = .error f ↔
      s.service.tokens.usable? (s.surroundings.clock 0) = none ∧
        s.service.tokens.Fails s.surroundings.provider (s.surroundings.clock 1) f :=
    TokenSource.token_error_iff
  cases hcall : (s.service.tokens.token s.surroundings.forget).1.1 with
  | error f =>
    obtain ⟨w, hquiet, hstep⟩ := s.step_send_of_no_token n hcall
    have hresult : result = .failed (.tokenFetch f.text) := congrArg Prod.fst hstep
    have hs' : s' = { s with surroundings := w } := congrArg Prod.snd hstep
    rw [hresult, hs']
    refine ⟨Or.inr ⟨_, rfl⟩, fun e => ⟨?_, ?_⟩,
      fun _ _ => ⟨hquiet.requests, hquiet.noToast, hquiet.noComplaint, rfl⟩⟩
    · intro he
      obtain ⟨husable, hf⟩ := hfails.mp hcall
      exact ⟨husable, f, hf, (StepResult.failed.inj he).symm⟩
    · rintro ⟨husable, g, hg, rfl⟩
      obtain rfl : g = f := Except.error.inj ((hfails.mpr ⟨husable, hg⟩).symm.trans hcall)
      rfl
  | ok token =>
    obtain ⟨tokens, w, -, hstep⟩ := s.step_send_of_token n hcall
    have hresult : result = .report _ := congrArg Prod.fst hstep
    rw [hresult]
    refine ⟨Or.inl ⟨_, rfl⟩, fun e => ⟨fun he => (by cases he), ?_⟩, fun e he => (by cases he)⟩
    rintro ⟨husable, f, hf, -⟩
    have herror := hfails.mpr ⟨husable, hf⟩
    rw [hcall] at herror
    cases herror

/-- The provider is too busy to grant a token, though it would take a toast for the device. -/
theorem no_token_no_toast_busy :
    let settings : Settings :=
      ⟨some "id", some "secret", "https://login.example/token", "registrations.conf", 8000⟩
    let source := TokenSource.ofSettings settings
    let provider : Provider :=
      ⟨[("https://login.example/token", [.answer 503 (Text.encode "busy") 0]),
        ("https://wns.example/1", [.answer 200 [] 0])], []⟩
    let session := fun rs : Registrations => (⟨settings, ⟨⟨rs, .memory ⟨rs, 0, .succeed⟩⟩, source⟩,
      source, ⟨provider, fun _ => 0, [], []⟩⟩ : Session)
    let registered : Registrations :=
      Dictionary.ofList [("dev", ⟨"dev", "https://wns.example/1", none, none⟩)]
    let everyone : Notification := ⟨"hello", none, none, none⟩
    let named : Notification := ⟨"hello", none, some ["dev", "ghost"], none⟩
    let error : RelayError :=
      .tokenFetch "token endpoint returned 503 Service Unavailable: busy"
    let nobody := (session Dictionary.empty).step (.send everyone)
    let all := (session registered).step (.send everyone)
    let two := (session registered).step (.send named)
    (nobody.1 = .failed error ∧ nobody.2.service = (session Dictionary.empty).service) ∧
    (all.1 = .failed error ∧ (∀ o ∈ all.2.surroundings.received, o.notificationType = none) ∧
      all.2.service = (session registered).service) ∧
    (two.1 = .failed error ∧ (∀ o ∈ two.2.surroundings.received, o.notificationType = none) ∧
      (∀ r ∈ two.2.surroundings.log, r.level = .debug) ∧
      two.2.service = (session registered).service) := by
  intro settings source provider session registered everyone named error nobody all two
  have hnobody : nobody.1 = .failed error := by decide +kernel
  have hall : all.1 = .failed error := by decide +kernel
  have htwo : two.1 = .failed error := by decide +kernel
  obtain ⟨-, -, hempty⟩ := no_token_no_toast (session Dictionary.empty) everyone
  obtain ⟨-, -, heveryone⟩ := no_token_no_toast (session registered) everyone
  obtain ⟨-, -, hnamed⟩ := no_token_no_toast (session registered) named
  obtain ⟨-, -, -, hservice⟩ := hempty error hnobody
  obtain ⟨-, hreceived, -, hservice'⟩ := heveryone error hall
  exact ⟨⟨hnobody, hservice⟩, ⟨hall, hreceived, hservice'⟩, htwo, (hnamed error htwo).2⟩

end ToastRelay
