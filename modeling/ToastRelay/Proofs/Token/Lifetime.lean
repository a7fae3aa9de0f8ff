import ToastRelay.Proofs.Token.Failures

/-!
# How long a token is used

Every lifetime gives a token an end, as long as there are instants thirty days from now: the lifetime
is cut short before it is added to the clock, and nothing overflows on the way. A longer lifetime
gives no earlier end. The token is used again until five minutes before that end, so one that is
granted for no more than five minutes is not used again once the clock has moved.
-/

namespace ToastRelay
set_option autoImplicit false

namespace Token

theorem end_le_end {seconds longer : Nat} (h : seconds ≤ longer) (now : Instant) :
    now + seconds * second ≤ now + longer * second :=
  Int.add_le_add_left (Int.mul_le_mul_of_nonneg_right (Int.ofNat_le.mpr h) (by decide)) now

theorem believed_mono {lifetime longer : UInt64} (h : lifetime ≤ longer) :
    believed lifetime ≤ believed longer := by
  have hnat : lifetime.toNat ≤ longer.toNat := UInt64.le_iff_toNat_le.mp h
  rw [believed, believed]
  omega

theorem expiry?_eq_some {now : Instant} (h : now + 2592000 * second ≤ latest) (lifetime : UInt64) :
    expiry? now lifetime = some (now + believed lifetime * second) := by
  have hbelieved : believed lifetime ≤ 2592000 := Nat.min_le_right lifetime.toNat 2592000
  rw [expiry?_eq, if_pos (Int.le_trans (end_le_end hbelieved now) h)]

end Token

namespace TokenSource

/-- A call gives this token without asking for it. -/
def Reuses (source : TokenSource) (w : Surroundings) (token : String) : Prop :=
  (source.token w).1.1 = .ok token ∧ (source.token w).2.received = w.received

variable {source : TokenSource} {w : Surroundings} {token : String}

theorem reuses_iff : source.Reuses w token ↔
    ∃ k, source.kept = some k ∧ w.clock 0 + Token.margin ≤ k.expiry ∧ k.token = token := by
  constructor
  · rintro ⟨hresult, hreceived⟩
    rcases source.token_cases w with ⟨k, w', hkept, hlate, hcall, -⟩ |
      ⟨-, ⟨f, w', requests, hcall, -⟩ | ⟨o, grant, w', hcall, hasked, -⟩⟩
    · rw [hcall] at hresult
      exact ⟨k, hkept, hlate, Except.ok.inj hresult⟩
    · rw [hcall] at hresult
      cases hresult
    · -- A token that is asked for takes a request.
      rw [hcall] at hreceived
      simp [hasked] at hreceived
  · intro h
    rw [Reuses, token_of_usable (usable?_eq_some.mpr h)]
    exact ⟨rfl, rfl⟩

theorem reuses_kept_iff {k : KeptToken} :
    { source with kept := some k }.Reuses w token ↔
      w.clock 0 + Token.margin ≤ k.expiry ∧ k.token = token := by
  rw [reuses_iff]
  constructor
  · rintro ⟨k', hkept, h⟩
    obtain rfl : k = k' := Option.some.inj hkept
    exact h
  · intro h
    exact ⟨k, rfl, h⟩

theorem token_of_grant {lifetime : UInt64} (hnone : source.usable? (w.clock 0) = none)
    (hgrant : (source.request w.now.2).1 = .ok ⟨token, lifetime⟩)
    (h : w.clock 1 + 2592000 * Token.second ≤ Token.latest) :
    (source.token w).1 = (.ok token, { source with
      kept := some ⟨token, w.clock 1 + Token.believed lifetime * Token.second⟩ }) := by
  have hexpiry : Token.expiry? (w.now.2.clock 0) lifetime =
      some (w.clock 1 + Token.believed lifetime * Token.second) := Token.expiry?_eq_some h lifetime
  rw [token_of_not_usable hnone, renew_of_grant hgrant, hexpiry]

end TokenSource

/-- A lifetime of 64 bits gives an end without overflow, which grows with the lifetime, and the
token is reused until five minutes before it and not later. -/
theorem token_lifetime_is_safe {now : Instant}
    (h : now + 2592000 * Token.second ≤ Token.latest) (lifetime : UInt64) :
    let life : Int := min lifetime.toNat 2592000
    ((Token.signed? lifetime).getD Int64.maxValue).toInt =
      min (lifetime.toNat : Int) Int64.maxValue.toInt ∧
    (Token.seconds lifetime).toInt = life ∧
    1000 * (Token.seconds lifetime).toInt.natAbs ≤ Int64.maxValue.toInt ∧
    Token.expiry? now lifetime = some (now + life * Token.second) ∧
    (∀ longer, lifetime ≤ longer → ∃ later, Token.expiry? now longer = some later ∧
      now + life * Token.second ≤ later) ∧
    ∀ (source : TokenSource) (w : Surroundings) (token : String),
      source.usable? (w.clock 0) = none → (source.request w.now.2).1 = .ok ⟨token, lifetime⟩ →
      w.clock 1 = now →
      let source' := (source.token w).1.2
      (source.token w).1.1 = .ok token ∧
      (∀ v : Surroundings, v.clock 0 + 300 * Token.second ≤ Token.latest →
        (source'.Reuses v token ↔
          v.clock 0 - now ≤ life * Token.second - 300 * Token.second)) ∧
      (lifetime ≤ 300 → ∀ (v : Surroundings) (t : String), now < v.clock 0 →
        ¬ source'.Reuses v t) := by
  intro life
  have hlife : life = Token.believed lifetime := by
    rw [Token.believed, Token.longestLifetime]
    omega
  rw [hlife]
  refine ⟨Token.toInt_getD_signed? lifetime, Token.toInt_seconds lifetime,
    Token.seconds_fits lifetime, Token.expiry?_eq_some h lifetime, ?_, ?_⟩
  · intro longer hlonger
    exact ⟨_, Token.expiry?_eq_some h longer, Token.end_le_end (Token.believed_mono hlonger) now⟩
  · rintro source w token hnone hgrant rfl source'
    have hcall := TokenSource.token_of_grant hnone hgrant h
    have hsource : source' = { source with
        kept := some ⟨token, w.clock 1 + Token.believed lifetime * Token.second⟩ } :=
      congrArg Prod.snd hcall
    rw [hsource]
    refine ⟨congrArg Prod.fst hcall, ?_, ?_⟩
    · intro v _
      have hshift : ∀ later margin granted span : Int,
          later + margin ≤ granted + span ↔ later - granted ≤ span - margin := by omega
      rw [TokenSource.reuses_kept_iff, and_iff_left rfl]
      exact hshift _ _ _ _
    · intro hshort v t hlater hreuses
      have hbelieved : Token.believed lifetime ≤ 300 :=
        Nat.le_trans (Nat.min_le_left _ _) (UInt64.le_iff_toNat_le.mp hshort)
      have husable := (TokenSource.reuses_kept_iff.mp hreuses).1
      have hnotLater : v.clock 0 ≤ w.clock 1 :=
        Int.le_of_add_le_add_right (Int.le_trans husable (Token.end_le_end hbelieved _))
      exact Int.not_lt.mpr hnotLater hlater

/-- The longest lifetime is used until five minutes before the end, and one of five minutes not even
a nanosecond later. -/
theorem token_lifetime_is_safe_latest :
    let now : Instant := Token.latest - 2592000 * Token.second
    let grant := fun lifetime => Reply.answer 200
      (Text.encode ("\x7b\"access_token\":\"tok\",\"expires_in\":" ++ lifetime ++ "\x7d")) 0
    let granting := fun lifetime => (⟨⟨[("https://login.example/token", [grant lifetime])], []⟩,
      fun _ => now, [], []⟩ : Surroundings)
    let reading := fun instant => (⟨⟨[], []⟩, fun _ => instant, [], []⟩ : Surroundings)
    let source : TokenSource := ⟨"https://login.example/token", some ⟨"id", "secret"⟩, none⟩
    let after := fun lifetime => (source.token (granting lifetime)).1.2
    now + 2592000 * Token.second ≤ Token.latest ∧
    Token.expiry? now 18446744073709551615 = some Token.latest ∧
    (after "18446744073709551615").Reuses (reading (Token.latest - 300 * Token.second)) "tok" ∧
    ¬ (after "300").Reuses (reading (now + 1)) "tok" := by
  intro now grant granting reading source after
  have hlate : now + 2592000 * Token.second ≤ Token.latest := by decide
  obtain ⟨-, -, -, hexpiry, -, hlongest⟩ := token_lifetime_is_safe hlate 18446744073709551615
  obtain ⟨-, -, -, -, -, hshortest⟩ := token_lifetime_is_safe hlate 300
  refine ⟨hlate, hexpiry.trans (by decide), ?_, ?_⟩
  · obtain ⟨-, hreuses, -⟩ := hlongest source (granting "18446744073709551615") "tok" rfl
      (by decide +kernel) rfl
    exact (hreuses (reading (Token.latest - 300 * Token.second)) (by decide)).mpr (by decide)
  · obtain ⟨-, -, hnever⟩ := hshortest source (granting "300") "tok" rfl (by decide +kernel) rfl
    exact hnever (by decide) (reading (now + 1)) "tok" (by decide)

end ToastRelay
