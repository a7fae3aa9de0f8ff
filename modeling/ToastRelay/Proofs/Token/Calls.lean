import ToastRelay.Token

/-!
# Calls of a token source

A call for a token goes in one of three ways. The kept token may be used, and then nothing is sent.
Otherwise a token is asked for by one request at most, and either the grant in the response is kept
and given, or the call fails and the source stays as it is.
-/

namespace ToastRelay
set_option autoImplicit false

theorem Act.bind_apply {α β : Type} (act : Act α) (f : α → Act β) (w : Surroundings) :
    (act >>= f) w = f (act w).1 (act w).2 := rfl

theorem Surroundings.send_cases (o : Outgoing) (w : Surroundings) :
    (∃ f, send o w = (.error f, w)) ∨
      send o w = ((w.provider.reply o.uri.text).received,
        { w with
          provider := w.provider.after o.uri.text
          received := w.received ++ [o] }) := by
  unfold send
  dsimp only
  split
  · exact Or.inl ⟨_, rfl⟩
  · split
    · exact Or.inl ⟨_, rfl⟩
    · exact Or.inr rfl

/-- A grant that was accepted, with the reading of the clock at which it was. -/
structure Acceptance where
  grant : Grant
  reading : Instant
  deriving DecidableEq

namespace Acceptance

def kept (a : Acceptance) : KeptToken :=
  ⟨a.grant.token, a.reading + Token.believed a.grant.lifetime * Token.second⟩

end Acceptance

namespace TokenSource

theorem request_cases (source : TokenSource) (w : Surroundings) :
    (∃ f, source.request w = (.error f, w)) ∨
      ∃ o : Outgoing, source.request w = (grantOf (w.provider.reply o.uri.text).received,
        { w with
          provider := w.provider.after o.uri.text
          received := w.received ++ [o] }) := by
  rw [request]
  cases source.credentials with
  | none => exact Or.inl ⟨_, rfl⟩
  | some credentials =>
    cases Web.Uri.ofText source.url with
    | error f => exact Or.inl ⟨_, rfl⟩
    | ok uri =>
      have hsend := Surroundings.send_cases
        ⟨uri, "application/x-www-form-urlencoded", none, none, form credentials⟩ w
      simp only [Act.bind_apply]
      rcases hsend with ⟨f, hsend⟩ | hsend
      · rw [hsend]
        exact Or.inl ⟨_, rfl⟩
      · rw [hsend]
        exact Or.inr ⟨_, rfl⟩

/-- A token is asked for by one request at most. The grant that comes back is kept unless the token
would outlive the clock, and whatever else comes back changes nothing. -/
theorem renew_cases (source : TokenSource) (w : Surroundings) :
    (∃ f w' requests, source.renew w = ((.error f, source), w') ∧
      w'.received = w.received ++ requests ∧ requests.length ≤ 1) ∨
    ∃ o grant w', source.renew w = ((.ok grant.token,
        { source with kept := some (Acceptance.kept ⟨grant, w.clock 0⟩) }), w') ∧
      w'.received = w.received ++ [o] ∧
      grantOf (w.provider.reply o.uri.text).received = .ok grant := by
  rw [renew, Act.bind_apply]
  rcases source.request_cases w with ⟨f, hrequest⟩ | ⟨o, hrequest⟩
  · rw [hrequest]
    exact Or.inl ⟨f, w, [], rfl, (List.append_nil _).symm, Nat.zero_le 1⟩
  · rw [hrequest]
    cases hgrant : grantOf (w.provider.reply o.uri.text).received with
    | error f => exact Or.inl ⟨f, _, [o], rfl, rfl, Nat.le_refl 1⟩
    | ok grant =>
      have hexpiry : Token.expiry? (w.clock 0) grant.lifetime = none ∨
          Token.expiry? (w.clock 0) grant.lifetime =
            some (Acceptance.kept ⟨grant, w.clock 0⟩).expiry := by
        rw [Token.expiry?_eq]
        split
        · exact Or.inr rfl
        · exact Or.inl rfl
      simp only [Act.bind_apply, Surroundings.record, Surroundings.now]
      rcases hexpiry with hexpiry | hexpiry
      · rw [hexpiry]
        exact Or.inl ⟨_, _, [o], rfl, rfl, Nat.le_refl 1⟩
      · rw [hexpiry]
        exact Or.inr ⟨o, grant, _, rfl, rfl, hgrant⟩

theorem usable?_eq_some {source : TokenSource} {now : Instant} {token : String} :
    source.usable? now = some token ↔
      ∃ k, source.kept = some k ∧ now + Token.margin ≤ k.expiry ∧ k.token = token := by
  rw [usable?, Option.map_eq_some_iff]
  simp only [Option.filter_eq_some_iff, Token.isUsable, decide_eq_true_eq]
  constructor
  · rintro ⟨k, ⟨hkept, husable⟩, htoken⟩
    exact ⟨k, hkept, husable, htoken⟩
  · rintro ⟨k, hkept, husable, htoken⟩
    exact ⟨k, ⟨hkept, husable⟩, htoken⟩

theorem token_of_usable {source : TokenSource} {w : Surroundings} {token : String}
    (h : source.usable? (w.clock 0) = some token) :
    source.token w = ((.ok token, source), w.now.2) := by
  have husable : source.usable? w.now.1 = some token := h
  rw [TokenSource.token, Act.bind_apply, husable]
  rfl

theorem token_of_not_usable {source : TokenSource} {w : Surroundings}
    (h : source.usable? (w.clock 0) = none) : source.token w = source.renew w.now.2 := by
  have hnone : source.usable? w.now.1 = none := h
  rw [token, Act.bind_apply, hnone]

/-- The ways in which a call can go: the kept token is used, the call fails and changes nothing, or
the grant that came back is kept and its token given. -/
theorem token_cases (source : TokenSource) (w : Surroundings) :
    (∃ k w', source.kept = some k ∧ w.clock 0 + Token.margin ≤ k.expiry ∧
      source.token w = ((.ok k.token, source), w') ∧ w'.received = w.received) ∨
    (∀ k, source.kept = some k → ¬ w.clock 0 + Token.margin ≤ k.expiry) ∧
      ((∃ f w' requests, source.token w = ((.error f, source), w') ∧
        w'.received = w.received ++ requests ∧ requests.length ≤ 1) ∨
      ∃ o grant w', source.token w = ((.ok grant.token,
          { source with kept := some (Acceptance.kept ⟨grant, w.clock 1⟩) }), w') ∧
        w'.received = w.received ++ [o] ∧
        grantOf (w.provider.reply o.uri.text).received = .ok grant) := by
  simp only [token, Act.bind_apply, Surroundings.now]
  cases husable : source.usable? (w.clock 0) with
  | some t =>
    obtain ⟨k, hkept, hlate, rfl⟩ := usable?_eq_some.mp husable
    exact Or.inl ⟨k, _, hkept, hlate, rfl, rfl⟩
  | none =>
    refine Or.inr ⟨fun k hkept hlate => ?_,
      source.renew_cases { w with clock := fun n => w.clock (n + 1) }⟩
    rw [usable?_eq_some.mpr ⟨k, hkept, hlate, rfl⟩] at husable
    cases husable

end TokenSource

end ToastRelay
