import ToastRelay.Proofs.Sender.Turns

/-!
# What a report accounts for

A notification that gets a token is accounted for target by target: each of them is reported exactly
once, in its order, as delivered or as skipped, and for each of them the provider receives at most
one toast.
-/

namespace ToastRelay
set_option autoImplicit false

/-- The report splits the targets in their order: delivered are those whose toast was received and
answered with success. -/
theorem send_accounts_for_targets {rs : Registrations} {n : Notification}
    {source source' : TokenSource} {w w' : Surroundings} {report : SendReport}
    (h : Sender.send rs n source w = ((.ok report, source'), w')) :
    let named := n.targets.getD []
    let document := Toast.document (n.title.getD Toast.defaultTitle) n.message n.extras
    ∃ (token : String) (asked : List Outgoing) (xs : List Posting),
      (source.token w).1 = (.ok token, source') ∧
      asked.length ≤ 1 ∧ (∀ o ∈ asked, o.notificationType = none) ∧
      xs.map (·.target) = (if named.isEmpty then rs.keys else named) ∧
      report.delivered = (xs.filter (·.delivered)).map (·.target) ∧
      report.skipped = (xs.filter (!·.delivered)).map (·.target) ∧
      w'.received = w.received ++ asked ++ xs.filterMap (·.toast?) ∧
      ∀ earlier x later, xs = earlier ++ x :: later →
        let provider := w.provider.afterAll (asked ++ earlier.filterMap (·.toast?))
        (∀ o, x.toast? = some o ↔ ∃ registration uri,
          rs.get? x.target = some registration ∧
          Web.Uri.absolute? registration.channel = some uri ∧
          provider.refused.contains (String.ofList uri.authority) = false ∧
          Sender.isHeaderValue ("Bearer " ++ token) = true ∧
          o = ⟨uri, "text/xml", some ("Bearer " ++ token), some "wns/toast", document⟩) ∧
        (x.delivered = true ↔ ∃ o response, x.toast? = some o ∧
          (provider.reply o.uri.text).received = .ok response ∧
          200 ≤ response.status ∧ response.status ≤ 299) := by
  intro named document
  obtain ⟨asked, clock, log, hafter, hlength, hkind⟩ := source.token_receiving w
  set w₁ : Surroundings := { w.receiving asked with clock := clock, log := log } with hw₁
  cases hresult : (source.token w).1 with
  | mk result source₁ =>
  have htoken : source.token w = ((result, source₁), w₁) := Prod.ext hresult hafter
  cases result with
  | error f =>
    rw [Sender.send_of_no_token rs n htoken] at h
    cases h
  | ok token =>
    obtain ⟨log', hsend⟩ := Sender.send_of_token rs n htoken
    set xs := Sender.postings (authorization token) n.document w₁.provider (rs.channelsFor named)
      with hxs
    rw [hsend] at h
    cases h
    refine ⟨token, asked, xs, rfl, hlength, hkind, ?_, rfl, rfl, ?_, ?_⟩
    · rw [hxs, Sender.map_target_postings, Registrations.map_fst_channelsFor]
    · rfl
    · intro earlier x later hsplit provider
      obtain ⟨t, ht, hx⟩ := Sender.exists_of_postings_eq (hxs.symm.trans hsplit)
      have hprovider : w₁.provider.afterAll (earlier.filterMap (·.toast?)) = provider :=
        (Provider.afterAll_append _ _ _).symm
      rw [hprovider, Registrations.snd_of_mem_channelsFor ht] at hx
      subst hx
      exact ⟨fun o => Sender.toast?_posting_eq_some, Sender.delivered_posting_iff⟩

/-- A device that is named twice takes the first toast only, and all other positions are skipped in
their order. -/
theorem send_accounts_for_targets_mixed :
    let grant := Reply.answer 200
      (Text.encode "\x7b\"access_token\":\"tok\",\"expires_in\":3600\x7d") 0
    let provider : Provider :=
      ⟨[("https://login.example/token", [grant]),
        ("https://wns.example/a", [.answer 201 [] 0, .close]),
        ("https://wns.example/b", [.answer 410 [] 0])], []⟩
    let w : Surroundings := ⟨provider, fun _ => 0, [], []⟩
    let source : TokenSource := ⟨"https://login.example/token", some ⟨"id", "secret"⟩, none⟩
    let rs : Registrations := Dictionary.ofList
      [("a", ⟨"a", "https://wns.example/a", none, none⟩),
        ("b", ⟨"b", "https://wns.example/b", none, none⟩)]
    let n : Notification := ⟨"hello", none, some ["a", "ghost", "b", "a"], none⟩
    (Sender.send rs n source w).1.1.toOption = some ⟨["a"], ["ghost", "b", "a"]⟩ ∧
    ∃ (asked : List Outgoing) (xs : List Posting),
      xs.map (·.target) = ["a", "ghost", "b", "a"] ∧
      (xs.filter (·.delivered)).map (·.target) = ["a"] ∧
      (xs.filter (!·.delivered)).map (·.target) = ["ghost", "b", "a"] ∧
      asked.length ≤ 1 ∧
      (Sender.send rs n source w).2.received = asked ++ xs.filterMap (·.toast?) := by
  intro grant provider w source rs n
  have hreport : (Sender.send rs n source w).1.1.toOption = some ⟨["a"], ["ghost", "b", "a"]⟩ := by
    decide +kernel
  refine ⟨hreport, ?_⟩
  cases hresult : Sender.send rs n source w with
  | mk result w' =>
  obtain ⟨result, source'⟩ := result
  rw [hresult] at hreport
  cases result with
  | error f => cases hreport
  | ok report =>
    obtain rfl : report = ⟨["a"], ["ghost", "b", "a"]⟩ := Option.some.inj hreport
    obtain ⟨token, asked, xs, -, hlength, -, htargets, hdelivered, hskipped, hreceived, -⟩ :=
      send_accounts_for_targets hresult
    exact ⟨asked, xs, htargets, hdelivered.symm, hskipped.symm, hlength, hreceived⟩

end ToastRelay
