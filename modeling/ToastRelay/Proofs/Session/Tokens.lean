import ToastRelay.Proofs.Session.Run
import ToastRelay.Proofs.Token.Calls

/-!
# Tokens in a session

The token that a source keeps is the one of the last grant that it accepted, which can be told from
outside: a call accepts a grant if it succeeds and the provider sent the grant in answer to its
request. So a kept token is used exactly as long as its lifetime allows, and a call that fails
leaves no trace in the session.
-/

namespace ToastRelay
set_option autoImplicit false

/-- What is made of a token by a step that asks the source beside the service for one. -/
def SessionStep.asks? : SessionStep → Option (String → String)
  | .token => some id
  | .authorization => some ToastRelay.authorization
  | _ => none

namespace Session

variable {s : Session} {x : SessionStep} {form : String → String}

theorem step_of_asks (h : x.asks? = some form) (s : Session) :
    s.step x =
      let ((result, source), surroundings) := s.source.token s.surroundings.forget
      (.ofToken (result.map form), { s with source := source, surroundings := surroundings }) := by
  cases x with
  | token =>
    obtain rfl : id = form := Option.some.inj h
    simp only [step, stepFrom, takeToken, act]
    rcases s.source.token s.surroundings.forget with ⟨⟨result, source⟩, surroundings⟩
    cases result <;> rfl
  | authorization =>
    obtain rfl : ToastRelay.authorization = form := Option.some.inj h
    rfl
  | _ => cases h

theorem source_step_of_not_asks (h : x.asks? = none) (s : Session) :
    (s.step x).2.source = s.source := by
  cases x with
  | token => cases h
  | authorization => cases h
  | upsert registration =>
    rw [step_of_change (x := .upsert registration) rfl]
  | remove id =>
    rw [step_of_change (x := .remove id) rfl]
  | reload =>
    rw [step, stepFrom, reload]
    dsimp only
    cases Registry.load s.service.registry.store <;> rfl
  | _ => rfl

/-- The grant that a step accepts for the source beside the service: the one that the provider sends
for the request of the step, if the step succeeds, with the second reading of the clock. -/
def acceptance? (s : Session) (x : SessionStep) : Option Acceptance :=
  match x.asks?, (s.step x).1, (s.step x).2.surroundings.received with
  | some _, .text _, [o] =>
    match TokenSource.grantOf (s.surroundings.provider.reply o.uri.text).received with
    | .ok grant => some ⟨grant, s.surroundings.clock 1⟩
    | .error _ => none
  | _, _, _ => none

def acceptances (s : Session) : List SessionStep → List Acceptance
  | [] => []
  | x :: xs => (s.acceptance? x).toList ++ (s.step x).2.acceptances xs

theorem step_asks_cases (h : x.asks? = some form) (s : Session) :
    let s' := (s.step x).2
    (∃ k, s.source.kept = some k ∧ s.surroundings.clock 0 + Token.margin ≤ k.expiry ∧
      (s.step x).1 = .text (form k.token) ∧ s'.surroundings.received = [] ∧
      s'.source = s.source ∧ s.acceptance? x = none) ∨
    (∀ k, s.source.kept = some k → ¬ s.surroundings.clock 0 + Token.margin ≤ k.expiry) ∧
      ((∃ f : TokenFault, (s.step x).1 = .failed (.tokenFetch f.text) ∧
        s'.surroundings.received.length ≤ 1 ∧ s' = { s with surroundings := s'.surroundings } ∧
        s.acceptance? x = none) ∨
      ∃ o grant, (s.step x).1 = .text (form grant.token) ∧ s'.surroundings.received = [o] ∧
        TokenSource.grantOf (s.surroundings.provider.reply o.uri.text).received = .ok grant ∧
        s'.source = { s.source with
          kept := some (Acceptance.kept ⟨grant, s.surroundings.clock 1⟩) } ∧
        s.acceptance? x = some ⟨grant, s.surroundings.clock 1⟩) := by
  intro s'
  have hstep := step_of_asks h s
  rcases s.source.token_cases s.surroundings.forget with ⟨k, w', hkept, hlate, htoken, hreceived⟩ |
    ⟨hstale, ⟨f, w', requests, htoken, hreceived, hlength⟩ |
      ⟨o, grant, w', htoken, hreceived, hgrant⟩⟩
  · rw [htoken] at hstep
    have hnone : w'.received = [] := hreceived
    refine Or.inl ⟨k, hkept, hlate, by rw [hstep]; rfl, ?_, ?_, ?_⟩
    · change (s.step x).2.surroundings.received = []
      rw [hstep, hnone]
    · change (s.step x).2.source = s.source
      rw [hstep]
    · simp [acceptance?, h, hstep, hnone]
  · rw [htoken] at hstep
    refine Or.inr ⟨hstale, Or.inl ⟨f, by rw [hstep]; rfl, ?_, ?_, ?_⟩⟩
    · change (s.step x).2.surroundings.received.length ≤ 1
      rw [hstep, hreceived]
      simpa [Surroundings.forget] using hlength
    · change (s.step x).2 = { s with surroundings := (s.step x).2.surroundings }
      rw [hstep]
    · simp [acceptance?, h, hstep, Except.map, StepResult.ofToken]
  · rw [htoken] at hstep
    have hone : w'.received = [o] := hreceived
    have hgrant' : TokenSource.grantOf (s.surroundings.provider.reply o.uri.text).received =
        .ok grant := hgrant
    refine Or.inr ⟨hstale, Or.inr ⟨o, grant, by rw [hstep]; rfl, ?_, hgrant', ?_, ?_⟩⟩
    · change (s.step x).2.surroundings.received = [o]
      rw [hstep, hone]
    · change (s.step x).2.source = _
      rw [hstep]
      rfl
    · simp [acceptance?, h, hstep, hone, hgrant', Except.map, StepResult.ofToken]

/-- The source keeps a token if and only if the step accepts the grant of it. -/
theorem source_step (s : Session) (x : SessionStep) :
    (s.step x).2.source =
      { s.source with kept := ((s.acceptance? x).map Acceptance.kept).or s.source.kept } := by
  cases hasks : x.asks? with
  | none =>
    have hnone : s.acceptance? x = none := by simp [acceptance?, hasks]
    rw [hnone, source_step_of_not_asks hasks]
    rfl
  | some form =>
    rcases step_asks_cases hasks s with ⟨k, -, -, -, -, hsource, hnone⟩ |
      ⟨-, ⟨f, -, -, hsame, hnone⟩ | ⟨o, grant, -, -, -, hsource, hsome⟩⟩
    · rw [hnone, hsource]
      rfl
    · rw [hnone, hsame]
      rfl
    · rw [hsome, hsource]
      rfl

theorem source_run (s : Session) (xs : List SessionStep) :
    (s.run xs).source =
      { s.source with
        kept := ((s.acceptances xs).getLast?.map Acceptance.kept).or s.source.kept } := by
  induction xs generalizing s with
  | nil => rfl
  | cons x xs ih =>
    change ((s.step x).2.run xs).source = _
    rw [ih, source_step, acceptances]
    cases s.acceptance? x with
    | none => rfl
    | some a =>
      rw [Option.toList_some, List.singleton_append, List.getLast?_cons]
      cases ((s.step x).2.acceptances xs).getLast? <;> rfl

theorem kept_start {settings : Settings} {store : Store} {surroundings : Surroundings}
    (h : start settings store surroundings = .ok s) : s.source.kept = none := by
  obtain ⟨registry, -, rfl⟩ := eq_of_start h
  rfl

end Session

/-- Whether an accepted grant may be used at an instant: five minutes later its lifetime, of which
thirty days are believed at most, has not ended. -/
def Acceptance.UsableAt (a : Acceptance) (now : Instant) : Prop :=
  now + 300 * Token.second ≤ a.reading + min a.grant.lifetime.toNat 2592000 * Token.second

instance (a : Acceptance) (now : Instant) : Decidable (a.UsableAt now) :=
  inferInstanceAs (Decidable (_ ≤ _))

/-- A call is answered from the last accepted grant if and only if that may still be used, and
otherwise by one request. A call that fails changes nothing. -/
theorem token_cache_is_safe {settings : Settings} {store : Store} {surroundings : Surroundings}
    {s₀ : Session} (h : Session.start settings store surroundings = .ok s₀) (xs : List SessionStep)
    {x : SessionStep} {form : String → String} (hx : x.asks? = some form) :
    let last := (s₀.acceptances xs).getLast?
    let s := s₀.run xs
    let result := (s.step x).1
    let s' := (s.step x).2
    let requests := s'.surroundings.received
    let now := s.surroundings.clock 0
    requests.length ≤ 1 ∧
    ((∃ text, result = .text text) ∧ requests = [] ↔ ∃ a, last = some a ∧ a.UsableAt now) ∧
    (∀ a, last = some a → a.UsableAt now → result = .text (form a.grant.token)) ∧
    ((∀ a, last = some a → ¬ a.UsableAt now) → ∀ text, result = .text text →
      ∃ o grant, requests = [o] ∧ text = form grant.token ∧
        TokenSource.grantOf (s.surroundings.provider.reply o.uri.text).received = .ok grant) ∧
    ((∃ text, result = .text text) ∨ ∃ f : TokenFault, result = .failed (.tokenFetch f.text) ∧
      s' = { s with surroundings := s'.surroundings } ∧
      ∀ w ys, { s' with surroundings := w }.trace ys = { s with surroundings := w }.trace ys) := by
  intro last s result s' requests now
  have hkept : s.source.kept = last.map Acceptance.kept := by
    change (s₀.run xs).source.kept = _
    rw [Session.source_run, Session.kept_start h, Option.or_none]
  -- A kept token is used exactly as long as the grant that it comes from may be used.
  have hmay : ∀ a, last = some a →
      (a.UsableAt now ↔ ∃ k, s.source.kept = some k ∧ now + Token.margin ≤ k.expiry) := by
    intro a ha
    rw [hkept, ha]
    exact ⟨fun hlate => ⟨a.kept, rfl, hlate⟩, fun ⟨k, hk, hlate⟩ => by cases hk; exact hlate⟩
  rcases Session.step_asks_cases hx s with ⟨k, hk, hlate, htext, hnone, -, -⟩ |
    ⟨hstale, hcalled⟩
  · obtain ⟨a, ha, rfl⟩ := Option.map_eq_some_iff.mp (hkept.symm.trans hk)
    have husable : a.UsableAt now := (hmay a ha).mpr ⟨_, hk, hlate⟩
    have hlength : requests.length ≤ 1 := by simp [requests, s', hnone]
    refine ⟨hlength, ⟨fun _ => ⟨a, ha, husable⟩, fun _ => ⟨⟨_, htext⟩, hnone⟩⟩, ?_, ?_,
      Or.inl ⟨_, htext⟩⟩
    · intro a' ha' _
      obtain rfl : a = a' := Option.some.inj (ha.symm.trans ha')
      exact htext
    · intro hno
      exact absurd husable (hno a ha)
  · have hno : ∀ a, last = some a → ¬ a.UsableAt now := by
      intro a ha husable
      obtain ⟨k, hk, hlate⟩ := (hmay a ha).mp husable
      exact hstale k hk hlate
    have hneither : ¬ ∃ a, last = some a ∧ a.UsableAt now := fun ⟨a, ha, husable⟩ =>
      hno a ha husable
    have hcached : ∀ a, last = some a → a.UsableAt now → result = .text (form a.grant.token) :=
      fun a ha husable => absurd husable (hno a ha)
    rcases hcalled with ⟨f, hfailed, hlength, hsame, -⟩ | ⟨o, grant, htext, hone, hgrant, -, -⟩
    · have hnoText : ∀ text, result ≠ .text text := by
        intro text htext
        cases hfailed.symm.trans htext
      refine ⟨hlength, ⟨fun ⟨⟨text, htext⟩, _⟩ => absurd htext (hnoText text),
        fun hlast => absurd hlast hneither⟩, hcached,
        fun _ text htext => absurd htext (hnoText text), Or.inr ⟨f, hfailed, hsame, ?_⟩⟩
      intro w ys
      have hw : { s' with surroundings := w } = { s with surroundings := w } :=
        congrArg (fun t : Session => { t with surroundings := w }) hsame
      rw [hw]
    · have hsent : requests = [o] := hone
      refine ⟨by simp [hsent], ⟨fun ⟨_, hnone⟩ => by simp [hsent] at hnone,
        fun hlast => absurd hlast hneither⟩, hcached, ?_, Or.inl ⟨_, htext⟩⟩
      intro _ text htext'
      exact ⟨o, grant, hsent, (StepResult.text.inj (htext.symm.trans htext')).symm, hgrant⟩

/-- A token of ten minutes is used for five of them. The request after that fails, and the session
forgets it. -/
theorem token_cache_is_safe_expiring :
    let settings : Settings :=
      ⟨some "id", some "secret", "https://login.example/token", "registrations.conf", 8000⟩
    let grant := Reply.answer 200
      (Text.encode "\x7b\"access_token\":\"tok\",\"expires_in\":600\x7d") 0
    let failure := Reply.answer 503 [] 0
    let readings : List Instant := [0, 0, 300, 301]
    let surroundings : Surroundings :=
      ⟨⟨[("https://login.example/token", [grant, failure])], []⟩,
        fun n => readings.getD n 0 * Token.second, [], []⟩
    ∃ s₀, Session.start settings (.memory ⟨Dictionary.empty, 0, .succeed⟩) surroundings = .ok s₀ ∧
      s₀.acceptances [.token] = [⟨⟨"tok", 600⟩, 0⟩] ∧
      ((s₀.run [.token]).step .authorization).1 = .text "Bearer tok" ∧
      ((s₀.run [.token]).step .authorization).2.surroundings.received = [] ∧
      ((s₀.run [.token, .authorization]).step .token).1 =
        .failed (.tokenFetch "token endpoint returned 503 Service Unavailable: ") ∧
      ((s₀.run [.token, .authorization]).step .token).2.surroundings.received.length ≤ 1 ∧
      ((s₀.run [.token, .authorization]).step .token).2.source =
        (s₀.run [.token, .authorization]).source := by
  intro settings grant failure readings surroundings
  let registry : Registry := ⟨Dictionary.empty, .memory ⟨Dictionary.empty, 0, .succeed⟩⟩
  let s₀ : Session := ⟨settings, Session.serviceOf settings registry,
    TokenSource.ofSettings settings, (registry.recordLoad surroundings).2⟩
  have hstart : Session.start settings registry.store surroundings = .ok s₀ := rfl
  have hfirst : s₀.acceptances [.token] = [⟨⟨"tok", 600⟩, 0⟩] := by decide +kernel
  have hfailed : ((s₀.run [.token, .authorization]).step .token).1 =
      .failed (.tokenFetch "token endpoint returned 503 Service Unavailable: ") := by
    decide +kernel
  have hlast : (s₀.acceptances [.token]).getLast? = some ⟨⟨"tok", 600⟩, 0⟩ := by rw [hfirst]; rfl
  have husable : Acceptance.UsableAt ⟨⟨"tok", 600⟩, 0⟩ ((s₀.run [.token]).surroundings.clock 0) := by
    have hnow : (s₀.run [.token]).surroundings.clock 0 = 300 * Token.second := by decide +kernel
    rw [hnow]
    decide
  obtain ⟨-, hcached, htext, -⟩ := token_cache_is_safe hstart [.token] (x := .authorization) rfl
  obtain ⟨hlength, -, -, -, hafter⟩ :=
    token_cache_is_safe hstart [.token, .authorization] (x := .token) rfl
  refine ⟨s₀, hstart, hfirst, htext _ hlast husable, (hcached.mpr ⟨_, hlast, husable⟩).2, hfailed,
    hlength, ?_⟩
  rcases hafter with ⟨text, htext⟩ | ⟨-, -, hsame, -⟩
  · cases hfailed.symm.trans htext
  · rw [hsame]

end ToastRelay
