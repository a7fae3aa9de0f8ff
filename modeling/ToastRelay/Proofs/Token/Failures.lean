import ToastRelay.Proofs.Sender.Turns

/-!
# Why there is no token

Whether a token is granted hangs on the credentials, the address, what the provider does with the
request and the clock, and each way of failing has its own fault. A call for a token complains of
nothing: the one record that it may write is that a token was granted.
-/

namespace ToastRelay
set_option autoImplicit false

theorem Token.expiry?_eq_none {now : Instant} {lifetime : UInt64} :
    expiry? now lifetime = none ↔ latest < now + believed lifetime * second := by
  rw [expiry?_eq, ite_eq_right_iff]
  simp only [reduceCtorEq, imp_false]
  exact Int.not_le

theorem Provider.answer_cases (p : Provider) (o : Outgoing) :
    ((o.uri.scheme = none ∨ o.uri.authority = []) ∧ p.answer o = .error .notAbsolute) ∨
    (o.uri.scheme ≠ none ∧ o.uri.authority ≠ [] ∧ String.ofList o.uri.authority ∈ p.refused ∧
      p.answer o = .error .refused) ∨
    (p.connects o.uri = true ∧ p.answer o = (p.reply o.uri.text).received) := by
  rw [answer]
  split
  · next h =>
    refine Or.inl ⟨?_, rfl⟩
    simpa using h
  · next habsolute =>
    have hparts : o.uri.scheme ≠ none ∧ o.uri.authority ≠ [] := by simpa using habsolute
    split
    · next h => exact Or.inr (Or.inl ⟨hparts.1, hparts.2, by simpa using h, rfl⟩)
    · next h =>
      refine Or.inr (Or.inr ⟨?_, rfl⟩)
      simpa [connects, Option.isSome_iff_ne_none, hparts] using h

theorem Provider.answer_of_connects {p : Provider} {o : Outgoing}
    (h : p.connects o.uri = true) : p.answer o = (p.reply o.uri.text).received := by
  rcases p.answer_cases o with ⟨hrelative, -⟩ | ⟨-, -, hrefused, -⟩ | ⟨-, hanswer⟩
  · simp only [connects, Bool.and_eq_true, Bool.not_eq_true', List.isEmpty_eq_false_iff] at h
    rcases hrelative with hscheme | hauthority
    · rw [hscheme] at h
      exact absurd h.1.1 (by simp)
    · exact absurd hauthority h.1.2
  · simp [connects, hrefused] at h
  · exact hanswer

namespace TokenSource

structure HasAddress (source : TokenSource) (uri : Web.Uri) : Prop where
  credentials : source.credentials.isSome = true
  address : Web.Uri.ofText source.url = .ok uri

/-- The provider takes the connection over which a token is asked for, and this comes back. -/
def Hears (source : TokenSource) (p : Provider) (answer : Except ClientFault Response) : Prop :=
  ∃ uri, source.HasAddress uri ∧ p.connects uri = true ∧ (p.reply uri.text).received = answer

/-- The ways in which asking for a token fails at a provider, if the clock is read at `reading` once
the token is granted. -/
inductive Fails (source : TokenSource) (p : Provider) (reading : Instant) : TokenFault → Prop where
  | noCredentials : source.credentials = none → Fails source p reading .noCredentials
  | badAddress {f : Web.UriFault} : source.credentials.isSome = true →
      Web.Uri.ofText source.url = .error f → Fails source p reading (.badUrl f)
  | relative {uri : Web.Uri} : source.HasAddress uri → uri.scheme = none ∨ uri.authority = [] →
      Fails source p reading (.noResponse .notAbsolute)
  | connectionRefused {uri : Web.Uri} : source.HasAddress uri → uri.scheme ≠ none →
      uri.authority ≠ [] → String.ofList uri.authority ∈ p.refused →
      Fails source p reading (.noResponse .refused)
  /-- The connection is closed, or what comes back is no response. -/
  | noResponse {f : ClientFault} : source.Hears p (.error f) → Fails source p reading (.noResponse f)
  | brokenBody {status : Nat} : source.Hears p (.ok ⟨status, none⟩) →
      Fails source p reading .brokenResponse
  | refused {status : Nat} {body : Bytes} : source.Hears p (.ok ⟨status, some body⟩) →
      ¬ Web.isSuccess status = true → Fails source p reading (.refused status body)
  | malformed {status : Nat} {body : Bytes} {e : ReadError} :
      source.Hears p (.ok ⟨status, some body⟩) → Web.isSuccess status = true →
      Grant.ofBytes body = .error e → Fails source p reading (.notUnderstood e)
  | tooLate {status : Nat} {body : Bytes} {grant : Grant} :
      source.Hears p (.ok ⟨status, some body⟩) → Web.isSuccess status = true →
      Grant.ofBytes body = .ok grant →
      Token.latest < reading + Token.believed grant.lifetime * Token.second →
      Fails source p reading (.lifetimeOutOfRange grant.lifetime)

variable {source : TokenSource} {w : Surroundings} {uri : Web.Uri}

theorem request_of_address (h : source.HasAddress uri) (w : Surroundings) :
    ∃ o : Outgoing, o.uri = uri ∧ (source.request w).1 = grantOf (w.provider.answer o) := by
  obtain ⟨credentials, hcredentials⟩ := Option.isSome_iff_exists.mp h.credentials
  let o : Outgoing := ⟨uri, "application/x-www-form-urlencoded", none, none, form credentials⟩
  refine ⟨o, rfl, ?_⟩
  rw [request, hcredentials, h.address]
  exact congrArg grantOf (Surroundings.send_answer o w).1

theorem request_of_hears {answer : Except ClientFault Response}
    (h : source.Hears w.provider answer) : (source.request w).1 = grantOf answer := by
  obtain ⟨uri, haddress, hconnects, rfl⟩ := h
  obtain ⟨o, rfl, hrequest⟩ := request_of_address haddress w
  rw [hrequest, Provider.answer_of_connects hconnects]

theorem fails_of_grantOf {answer : Except ClientFault Response} {f : TokenFault} {p : Provider}
    (hhears : source.Hears p answer) (h : grantOf answer = .error f) (reading : Instant) :
    source.Fails p reading f := by
  rcases answer with g | ⟨status, body | body⟩
  · obtain rfl : .noResponse g = f := Except.error.inj h
    exact .noResponse hhears
  · obtain rfl : .brokenResponse = f := Except.error.inj h
    exact .brokenBody hhears
  · rw [grantOf] at h
    split at h
    · next hsuccess =>
      cases hgrant : Grant.ofBytes body with
      | error e =>
        rw [hgrant] at h
        obtain rfl : .notUnderstood e = f := Except.error.inj h
        exact .malformed hhears hsuccess hgrant
      | ok grant =>
        rw [hgrant] at h
        cases h
    · next hfailure =>
      obtain rfl : .refused status body = f := Except.error.inj h
      exact .refused hhears hfailure

theorem grantOf_eq_ok {answer : Except ClientFault Response} {grant : Grant} :
    grantOf answer = .ok grant ↔ ∃ status body, answer = .ok ⟨status, some body⟩ ∧
      Web.isSuccess status = true ∧ Grant.ofBytes body = .ok grant := by
  constructor
  · intro h
    rcases answer with g | ⟨status, body | body⟩
    · cases h
    · cases h
    · rw [grantOf] at h
      split at h
      · next hsuccess =>
        refine ⟨status, body, rfl, hsuccess, ?_⟩
        cases hgrant : Grant.ofBytes body with
        | error e =>
          rw [hgrant] at h
          cases h
        | ok grant' =>
          rw [hgrant] at h
          obtain rfl : grant' = grant := Except.ok.inj h
          rfl
      · cases h
  · rintro ⟨status, body, rfl, hsuccess, hgrant⟩
    rw [grantOf, if_pos hsuccess, hgrant]

theorem request_unheard_or_heard (source : TokenSource) (w : Surroundings) :
    (∃ f, (source.request w).1 = .error f ∧ ∀ reading, source.Fails w.provider reading f) ∨
      ∃ answer, source.Hears w.provider answer ∧ (source.request w).1 = grantOf answer := by
  cases hcredentials : source.credentials with
  | none =>
    refine Or.inl ⟨.noCredentials, ?_, fun _ => .noCredentials hcredentials⟩
    rw [request, hcredentials]
    rfl
  | some credentials =>
    have hsome : source.credentials.isSome = true := by rw [hcredentials]; rfl
    cases huri : Web.Uri.ofText source.url with
    | error g =>
      refine Or.inl ⟨.badUrl g, ?_, fun _ => .badAddress hsome huri⟩
      rw [request, hcredentials, huri]
      rfl
    | ok uri =>
      have haddress : source.HasAddress uri := ⟨hsome, huri⟩
      obtain ⟨o, rfl, hrequest⟩ := request_of_address haddress w
      rw [hrequest]
      rcases w.provider.answer_cases o with ⟨hrelative, hanswer⟩ | ⟨hscheme, hauthority, hrefused,
        hanswer⟩ | ⟨hconnects, hanswer⟩
      · rw [hanswer]
        exact Or.inl ⟨_, rfl, fun _ => .relative haddress hrelative⟩
      · rw [hanswer]
        exact Or.inl ⟨_, rfl, fun _ => .connectionRefused haddress hscheme hauthority hrefused⟩
      · rw [hanswer]
        exact Or.inr ⟨_, ⟨o.uri, haddress, hconnects, rfl⟩, rfl⟩

theorem renew_of_error {f : TokenFault} (h : (source.request w).1 = .error f) :
    (source.renew w).1.1 = .error f := by
  rw [renew, Act.bind_apply, h]
  rfl

theorem renew_of_grant {grant : Grant} (h : (source.request w).1 = .ok grant) :
    (source.renew w).1 = match Token.expiry? (w.clock 0) grant.lifetime with
      | none => (.error (.lifetimeOutOfRange grant.lifetime), source)
      | some expiry => (.ok grant.token, { source with kept := some ⟨grant.token, expiry⟩ }) := by
  obtain ⟨asked, hasked, -⟩ := source.request_receiving w
  rw [renew, Act.bind_apply, h, hasked]
  simp only [Act.bind_apply, Surroundings.record, Surroundings.now, Surroundings.receiving]
  cases Token.expiry? (w.clock 0) grant.lifetime with
  | none => rfl
  | some expiry => rfl

theorem renew_error_iff {f : TokenFault} :
    (source.renew w).1.1 = .error f ↔ source.Fails w.provider (w.clock 0) f := by
  constructor
  · intro h
    rcases source.request_unheard_or_heard w with ⟨g, hrequest, hfails⟩ | ⟨answer, hhears, hrequest⟩
    · rw [renew_of_error hrequest] at h
      obtain rfl : g = f := Except.error.inj h
      exact hfails _
    · cases hgrant : grantOf answer with
      | error g =>
        rw [renew_of_error (hrequest.trans hgrant)] at h
        obtain rfl : g = f := Except.error.inj h
        exact fails_of_grantOf hhears hgrant _
      | ok grant =>
        obtain ⟨status, body, rfl, hsuccess, hbody⟩ := grantOf_eq_ok.mp hgrant
        rw [renew_of_grant (hrequest.trans hgrant)] at h
        split at h
        · next hexpiry =>
          obtain rfl : .lifetimeOutOfRange grant.lifetime = f := Except.error.inj h
          exact .tooLate hhears hsuccess hbody (Token.expiry?_eq_none.mp hexpiry)
        · cases h
  · intro h
    cases h with
    | noCredentials hcredentials =>
      apply renew_of_error
      rw [request, hcredentials]
      rfl
    | badAddress hsome huri =>
      obtain ⟨credentials, hcredentials⟩ := Option.isSome_iff_exists.mp hsome
      apply renew_of_error
      rw [request, hcredentials, huri]
      rfl
    | relative haddress hrelative =>
      obtain ⟨o, rfl, hrequest⟩ := request_of_address haddress w
      apply renew_of_error
      rw [hrequest, Provider.answer, if_pos (by simpa using hrelative)]
      rfl
    | connectionRefused haddress hscheme hauthority hrefused =>
      obtain ⟨o, rfl, hrequest⟩ := request_of_address haddress w
      apply renew_of_error
      rw [hrequest, Provider.answer, if_neg (by simp [hscheme, hauthority]),
        if_pos (by simpa using hrefused)]
      rfl
    | noResponse hhears => exact renew_of_error (request_of_hears hhears)
    | brokenBody hhears => exact renew_of_error (request_of_hears hhears)
    | refused hhears hfailure =>
      apply renew_of_error
      rw [request_of_hears hhears, grantOf, if_neg hfailure]
    | malformed hhears hsuccess hbody =>
      apply renew_of_error
      rw [request_of_hears hhears, grantOf, if_pos hsuccess, hbody]
    | tooLate hhears hsuccess hbody hlate =>
      have hgrant := grantOf_eq_ok.mpr ⟨_, _, rfl, hsuccess, hbody⟩
      rw [renew_of_grant ((request_of_hears hhears).trans hgrant), Token.expiry?_eq_none.mpr hlate]

theorem token_error_iff {f : TokenFault} : (source.token w).1.1 = .error f ↔
    source.usable? (w.clock 0) = none ∧ source.Fails w.provider (w.clock 1) f := by
  cases husable : source.usable? (w.clock 0) with
  | some token =>
    rw [token_of_usable husable]
    constructor
    · intro h
      cases h
    · rintro ⟨h, -⟩
      cases h
  | none =>
    rw [token_of_not_usable husable, renew_error_iff]
    exact (and_iff_right rfl).symm

def renewal (lifetime : UInt64) : LogRecord :=
  ⟨.debug, .sender, "refreshed WNS access token, valid for " ++ toString lifetime.toNat ++ "s"⟩

theorem log_renew (source : TokenSource) (w : Surroundings) :
    ∃ told, (source.renew w).2.log = w.log ++ told ∧
      (told = [] ∨ ∃ lifetime, told = [renewal lifetime]) := by
  obtain ⟨asked, hasked, -⟩ := source.request_receiving w
  rw [renew, Act.bind_apply, hasked]
  cases (source.request w).1 with
  | error f => exact ⟨[], (List.append_nil _).symm, Or.inl rfl⟩
  | ok grant =>
    simp only [Act.bind_apply]
    cases Token.expiry? _ grant.lifetime with
    | none => exact ⟨_, rfl, Or.inr ⟨grant.lifetime, rfl⟩⟩
    | some expiry => exact ⟨_, rfl, Or.inr ⟨grant.lifetime, rfl⟩⟩

theorem log_token (source : TokenSource) (w : Surroundings) :
    ∃ told, (source.token w).2.log = w.log ++ told ∧
      (told = [] ∨ ∃ lifetime, told = [renewal lifetime]) := by
  cases husable : source.usable? (w.clock 0) with
  | some token =>
    rw [token_of_usable husable]
    exact ⟨[], (List.append_nil _).symm, Or.inl rfl⟩
  | none =>
    rw [token_of_not_usable husable]
    exact source.log_renew w.now.2

end TokenSource

/-- Surroundings in which one request at most was received, which was no toast, and in which nobody
complained. -/
structure Surroundings.Quiet (w : Surroundings) : Prop where
  requests : w.received.length ≤ 1
  noToast : ∀ o ∈ w.received, o.notificationType = none
  noComplaint : ∀ r ∈ w.log, r.level = .debug

theorem TokenSource.token_quiet (source : TokenSource) (w : Surroundings) :
    (source.token w.forget).2.Quiet := by
  obtain ⟨asked, clock, log, hasked, hlength, hkind⟩ := source.token_receiving w.forget
  obtain ⟨told, htold, hrenewal⟩ := source.log_token w.forget
  refine ⟨?_, ?_, ?_⟩
  · rw [hasked]
    exact hlength
  · rw [hasked]
    exact hkind
  · rw [htold]
    rcases hrenewal with rfl | ⟨lifetime, rfl⟩
    · simp [Surroundings.forget]
    · simp [Surroundings.forget, renewal]

end ToastRelay
