import ToastRelay.Proofs.Sender.Turns

/-!
# Batches

While the kept token may be used, a notification for two lists of targets is one for the first list
and then one for the second: the provider cannot tell the difference, nor can the log or the reports.
So a target knows of the others only what the provider makes of them.
-/

namespace ToastRelay
set_option autoImplicit false

theorem Registrations.channelsFor_append (rs : Registrations) {xs ys : List String} (hxs : xs ≠ [])
    (hys : ys ≠ []) : rs.channelsFor (xs ++ ys) = rs.channelsFor xs ++ rs.channelsFor ys := by
  have hnotAll : ∀ {targets : List String}, targets ≠ [] → ¬ targets.isEmpty = true := by simp
  rw [channelsFor, channelsFor, channelsFor, if_neg (hnotAll hxs), if_neg (hnotAll hys),
    if_neg (hnotAll (List.append_ne_nil_of_left_ne_nil hxs ys)), List.map_append]

theorem Sender.send_of_usable {source : TokenSource} {k : KeptToken} (hkept : source.kept = some k)
    (rs : Registrations) (n : Notification) {w : Surroundings}
    (h : Token.isUsable k.expiry (w.clock 0) = true) :
    let xs := turns (ToastRelay.authorization k.token) n.document w.provider
      (rs.channelsFor (n.targets.getD []))
    send rs n source w = ((.ok (.ofTurns xs), source), w.now.2.passing xs) := by
  have husable : source.usable? (w.clock 0) = some k.token :=
    TokenSource.usable?_eq_some.mpr ⟨k, hkept, of_decide_eq_true h, rfl⟩
  exact send_of_token_turns rs n (TokenSource.token_of_usable husable)

/-- With a kept token, a notification for `xs ++ ys` is one for `xs` and then one for `ys`, with
their reports put together. -/
theorem batch_is_sequence (rs : Registrations) (n : Notification) {xs ys : List String}
    (hxs : xs ≠ []) (hys : ys ≠ []) {source : TokenSource} {k : KeptToken}
    (hkept : source.kept = some k) {w : Surroundings} {clock : Nat → Instant}
    (hbatch : Token.isUsable k.expiry (clock 0) = true)
    (hfirst : Token.isUsable k.expiry (w.clock 0) = true)
    (hsecond : Token.isUsable k.expiry (w.clock 1) = true) :
    let sendTo := fun targets => Sender.send rs { n with targets := some targets }
    let batch := sendTo (xs ++ ys) source { w with clock := clock }
    let first := sendTo xs source w
    let second := sendTo ys first.1.2 first.2
    ∃ (report report' : SendReport) (requests : List Outgoing) (records : List LogRecord),
      first.1.1 = .ok report ∧ second.1.1 = .ok report' ∧
      batch.1.1 = .ok ⟨report.delivered ++ report'.delivered, report.skipped ++ report'.skipped⟩ ∧
      batch.2.received = second.2.received ∧ batch.2.log = second.2.log ∧
      batch.2.provider = second.2.provider ∧ batch.1.2 = second.1.2 ∧
      second.2.received = first.2.received ++ requests ∧ second.2.log = first.2.log ++ records ∧
      ∀ v : Surroundings, v.provider = first.2.provider →
        Token.isUsable k.expiry (v.clock 0) = true →
        let alone := sendTo ys source v
        alone.1.1 = .ok report' ∧ alone.2.received = v.received ++ requests ∧
        alone.2.log = v.log ++ records ∧ alone.2.provider = second.2.provider := by
  intro sendTo batch first second
  let turnsOf := Sender.turns (authorization k.token) n.document
  have hsendTo : ∀ targets {v : Surroundings}, Token.isUsable k.expiry (v.clock 0) = true →
      sendTo targets source v =
        ((.ok (.ofTurns (turnsOf v.provider (rs.channelsFor targets))), source),
          v.now.2.passing (turnsOf v.provider (rs.channelsFor targets))) :=
    fun targets v h => Sender.send_of_usable hkept rs { n with targets := some targets } h
  set before := turnsOf w.provider (rs.channelsFor xs) with hbefore
  set behind := turnsOf (w.provider.afterAll (before.filterMap (·.toast?))) (rs.channelsFor ys)
    with hbehind
  have hwhole : turnsOf w.provider (rs.channelsFor (xs ++ ys)) = before ++ behind := by
    rw [rs.channelsFor_append hxs hys]
    exact Sender.turns_append _ _ _ _ _
  have hfirst' : first = ((.ok (.ofTurns before), source), w.now.2.passing before) :=
    hsendTo xs hfirst
  have hafter : first.2.provider = w.provider.afterAll (before.filterMap (·.toast?)) := by
    rw [hfirst', Surroundings.provider_passing]
    rfl
  -- Of the first list, the targets of the second one meet the provider that it leaves.
  have hmore : ∀ {v : Surroundings}, v.provider = first.2.provider →
      Token.isUsable k.expiry (v.clock 0) = true →
      sendTo ys source v = ((.ok (.ofTurns behind), source), v.now.2.passing behind) := by
    intro v hv husable
    rw [hsendTo ys husable, hv, hafter]
  have hsecond' : second = ((.ok (.ofTurns behind), source), first.2.now.2.passing behind) := by
    have hclock : first.2.clock 0 = w.clock 1 := by rw [hfirst']; rfl
    have hsource : first.1.2 = source := by rw [hfirst']
    change sendTo ys first.1.2 first.2 = _
    rw [hsource]
    exact hmore rfl (hclock ▸ hsecond)
  have hbatch' : batch = ((.ok (.ofTurns (before ++ behind)), source),
      (({ w with clock := clock } : Surroundings).now.2.passing before).passing behind) := by
    rw [← Surroundings.passing_append, ← hwhole]
    exact hsendTo (xs ++ ys) hbatch
  refine ⟨.ofTurns before, .ofTurns behind, behind.filterMap (·.toast?), behind.flatMap (·.records),
    by rw [hfirst'], by rw [hsecond'], by rw [hbatch', SendReport.ofTurns_append], ?_, ?_, ?_,
    by rw [hbatch', hsecond'], by rw [hsecond']; rfl, by rw [hsecond']; rfl, ?_⟩
  · rw [hbatch', hsecond', hfirst']
    rfl
  · rw [hbatch', hsecond', hfirst']
    rfl
  · rw [hbatch', hsecond', hfirst']
    rfl
  · intro v hv husable alone
    have halone : alone = ((.ok (.ofTurns behind), source), v.now.2.passing behind) :=
      hmore hv husable
    rw [halone, hsecond']
    refine ⟨rfl, rfl, rfl, ?_⟩
    rw [Surroundings.provider_passing, Surroundings.provider_passing]
    exact congrArg (fun p : Provider => p.afterAll (behind.filterMap (·.toast?))) hv

/-- A device that stands in both lists takes the toast of the first one and then hangs up. The other
targets are unknown or answer that they are gone. -/
theorem batch_is_sequence_repeated :
    let provider : Provider :=
      ⟨[("https://wns.example/a", [.answer 201 [] 0, .close]),
        ("https://wns.example/b", [.answer 410 [] 0])], []⟩
    let readings : List Instant := [0, 300]
    let w : Surroundings := ⟨provider, fun n => readings.getD n 0 * Token.second, [], []⟩
    let source : TokenSource :=
      ⟨"https://login.example/token", none, some ⟨"tok", 600 * Token.second⟩⟩
    let rs : Registrations := Dictionary.ofList
      [("a", ⟨"a", "https://wns.example/a", none, none⟩),
        ("b", ⟨"b", "https://wns.example/b", none, none⟩)]
    let n : Notification := ⟨"hello", none, none, none⟩
    let sendTo := fun targets => Sender.send rs { n with targets := some targets }
    let batch := sendTo (["a", "ghost"] ++ ["b", "a"]) source { w with clock := fun _ => 0 }
    let first := sendTo ["a", "ghost"] source w
    let second := sendTo ["b", "a"] first.1.2 first.2
    Token.isUsable 600000000000 0 = true ∧ Token.isUsable 600000000000 300000000000 = true ∧
      first.1.1.toOption = some ⟨["a"], ["ghost"]⟩ ∧
      second.1.1.toOption = some ⟨[], ["b", "a"]⟩ ∧
      batch.1.1.toOption = some ⟨["a"], ["ghost", "b", "a"]⟩ ∧
      batch.2.received = second.2.received ∧ batch.2.log = second.2.log ∧
      batch.2.provider = second.2.provider := by
  intro provider readings w source rs n sendTo batch first second
  have hfirst : first.1.1.toOption = some ⟨["a"], ["ghost"]⟩ := by decide +kernel
  have hsecond : second.1.1.toOption = some ⟨[], ["b", "a"]⟩ := by decide +kernel
  have hbatch : batch.1.1.toOption = some ⟨["a"], ["ghost", "b", "a"]⟩ := by decide +kernel
  -- The reports are known, and what follows holds of all registrations.
  clear_value rs
  obtain ⟨report, report', -, -, -, -, -, hreceived, hlog, hprovider, -⟩ :=
    @batch_is_sequence rs n ["a", "ghost"] ["b", "a"] (by simp) (by simp) source _ rfl w
      (fun _ => 0) (by decide) (by decide) (by decide)
  exact ⟨by decide, by decide, hfirst, hsecond, hbatch, hreceived, hlog, hprovider⟩

end ToastRelay
