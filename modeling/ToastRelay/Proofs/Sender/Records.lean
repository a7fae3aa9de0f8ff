import ToastRelay.Proofs.Token.Failures

/-!
# What is logged of a notification

A turn goes in one of a few ways, and what it leaves in the log tells which. If there is a request
for the target, it is announced; if the target is skipped, it is complained about, with the reason.
So the complaints in the log are those about the skipped targets, one for each, in their order.
-/

namespace ToastRelay
set_option autoImplicit false

namespace Sender

/-- The toast for a channel can be made a request for that target. -/
structure Builds (authorization channel : String) (uri : Web.Uri) : Prop where
  address : Web.Uri.ofText channel = .ok uri
  header : isHeaderValue authorization = true

inductive NotBuilt (authorization channel : String) : DeliveryFault → Prop where
  | badUrl {f : Web.UriFault} : Web.Uri.ofText channel = .error f →
      NotBuilt authorization channel (.badUrl f)
  | badToken {uri : Web.Uri} : Web.Uri.ofText channel = .ok uri →
      ¬ isHeaderValue authorization = true → NotBuilt authorization channel .badToken

end Sender

/-- Why a request for a target does not get to a provider. -/
inductive Provider.Misses (p : Provider) (uri : Web.Uri) : DeliveryFault → Prop where
  | relative : uri.scheme = none ∨ uri.authority = [] → Misses p uri (.noResponse .notAbsolute)
  | refused : uri.scheme ≠ none → uri.authority ≠ [] → String.ofList uri.authority ∈ p.refused →
      Misses p uri (.noResponse .refused)

/-- Why a provider that gets a request for a target does not take the toast. -/
inductive Provider.Rejects (p : Provider) (uri : Web.Uri) : DeliveryFault → Prop where
  | noResponse {f : ClientFault} : (p.reply uri.text).received = .error f →
      Rejects p uri (.noResponse f)
  | refused {response : Response} : (p.reply uri.text).received = .ok response →
      ¬ Web.isSuccess response.status = true → Rejects p uri (.refused response.status)

open Sender

/-- The ways in which the turn of a target with that channel, if it has one, goes at a provider. -/
inductive Turn.Goes (p : Provider) (authorization document : String) :
    Option String → Turn → Prop where
  | unknown {target : String} : Goes p authorization document none
      ⟨⟨target, none, false⟩, [complaint (.unknownTarget target)]⟩
  | notBuilt {target channel : String} {f : DeliveryFault} : NotBuilt authorization channel f →
      Goes p authorization document (some channel)
        ⟨⟨target, none, false⟩, [complaint (.delivery channel f.text)]⟩
  | missed {target channel : String} {uri : Web.Uri} {f : DeliveryFault} :
      Builds authorization channel uri → p.Misses uri f →
      Goes p authorization document (some channel) ⟨⟨target, none, false⟩,
        [announcement channel, complaint (.delivery channel f.text)]⟩
  | rejected {target channel : String} {uri : Web.Uri} {f : DeliveryFault} :
      Builds authorization channel uri → p.connects uri = true → p.Rejects uri f →
      Goes p authorization document (some channel)
        ⟨⟨target, some (toastTo uri authorization document), false⟩,
          [announcement channel, complaint (.delivery channel f.text)]⟩
  | delivered {target channel : String} {uri : Web.Uri} {response : Response} :
      Builds authorization channel uri → p.connects uri = true →
      (p.reply uri.text).received = .ok response → Web.isSuccess response.status = true →
      Goes p authorization document (some channel)
        ⟨⟨target, some (toastTo uri authorization document), true⟩, [announcement channel]⟩

/-- A record complains of a target with that channel, if it has one. -/
inductive LogRecord.Blames (target : String) : Option String → LogRecord → Prop where
  | unknown : Blames target none (complaint (.unknownTarget target))
  | notDelivered {channel : String} (f : DeliveryFault) :
      Blames target (some channel) (complaint (.delivery channel f.text))

namespace Turn.Goes
variable {x : Turn} {p : Provider} {authorization document : String} {channel? : Option String}

theorem no_complaint (h : x.Goes p authorization document channel?) (hdelivered : x.delivered = true) :
    ∀ r ∈ x.records, r.level ≠ .error := by
  cases h with
  | delivered => simp [announcement]
  | _ => cases hdelivered

theorem one_complaint (h : x.Goes p authorization document channel?)
    (hskipped : x.delivered = false) : ∃ r, x.records.filter (·.level = .error) = [r] ∧
      r.Blames x.target channel? := by
  cases h with
  | unknown => exact ⟨_, rfl, .unknown⟩
  | notBuilt => exact ⟨_, rfl, .notDelivered _⟩
  | missed => exact ⟨_, rfl, .notDelivered _⟩
  | rejected => exact ⟨_, rfl, .notDelivered _⟩
  | delivered => cases hskipped

theorem announced {channel : String} {uri : Web.Uri}
    (h : x.Goes p authorization document (some channel)) (hbuilds : Builds authorization channel uri) :
    ∃ outcome, x.records = announcement channel :: outcome ∧ ∀ r ∈ outcome, r.level = .error := by
  cases h with
  | notBuilt hnot =>
    cases hnot with
    | badUrl herror => cases herror.symm.trans hbuilds.address
    | badToken _ hheader => exact absurd hbuilds.header hheader
  | missed => exact ⟨_, rfl, by simp [complaint]⟩
  | rejected => exact ⟨_, rfl, by simp [complaint]⟩
  | delivered => exact ⟨_, rfl, by simp⟩

end Turn.Goes

namespace Sender
variable {authorization document channel : String}

theorem requestFor_cases (authorization document channel : String) :
    (∃ f, requestFor channel authorization document = .error f ∧ NotBuilt authorization channel f) ∨
      ∃ uri, requestFor channel authorization document = .ok (toastTo uri authorization document) ∧
        Builds authorization channel uri := by
  rw [requestFor]
  cases huri : Web.Uri.ofText channel with
  | error f => exact Or.inl ⟨_, rfl, .badUrl huri⟩
  | ok uri =>
    dsimp only
    split
    · next hheader => exact Or.inr ⟨uri, rfl, huri, hheader⟩
    · next hheader => exact Or.inl ⟨_, rfl, .badToken huri hheader⟩

theorem outcomeOf_cases (p : Provider) (uri : Web.Uri) :
    (∃ f, outcomeOf (p.reply uri.text).received = .error f ∧ p.Rejects uri f) ∨
      outcomeOf (p.reply uri.text).received = .ok () ∧ ∃ response,
        (p.reply uri.text).received = .ok response ∧ Web.isSuccess response.status = true := by
  cases hreceived : (p.reply uri.text).received with
  | error f => exact Or.inl ⟨_, rfl, .noResponse hreceived⟩
  | ok response =>
    rw [outcomeOf]
    split
    · next hsuccess => exact Or.inr ⟨rfl, response, rfl, hsuccess⟩
    · next hfailure => exact Or.inl ⟨_, rfl, .refused hreceived hfailure⟩

theorem goes_turn (p : Provider) (authorization document target : String)
    (channel? : Option String) : (turn p authorization document target channel?).Goes p
      authorization document channel? := by
  cases channel? with
  | none => exact .unknown
  | some channel =>
    rw [turn, posting, records, Option.bind_some, reaching?]
    rcases requestFor_cases authorization document channel with ⟨f, hrequest, hnot⟩ |
      ⟨uri, hrequest, hbuilds⟩
    · rw [hrequest]
      exact .notBuilt hnot
    · rw [hrequest]
      dsimp only
      cases hconnects : p.connects (toastTo uri authorization document).uri with
      | true =>
        rw [Provider.answer_of_connects hconnects, if_pos rfl, Option.any_some, ← toBool_outcomeOf]
        rcases outcomeOf_cases p uri with ⟨f, houtcome, hrejects⟩ |
          ⟨houtcome, response, hresponse, hsuccess⟩
        · rw [toastTo, houtcome]
          exact .rejected hbuilds hconnects hrejects
        · rw [toastTo, houtcome]
          exact .delivered hbuilds hconnects hresponse hsuccess
      | false =>
        rw [if_neg Bool.false_ne_true, Option.any_none]
        rcases p.answer_cases (toastTo uri authorization document) with ⟨hrelative, hanswer⟩ |
          ⟨hscheme, hauthority, hrefused, hanswer⟩ | ⟨htrue, -⟩
        · rw [hanswer]
          exact .missed hbuilds (.relative hrelative)
        · rw [hanswer]
          exact .missed hbuilds (.refused hscheme hauthority hrefused)
        · cases hconnects.symm.trans htrue

theorem goes_of_turns_eq {rs : Registrations} {targets : List String} {p : Provider}
    {earlier later : List Turn} {x : Turn}
    (h : turns authorization document p (rs.channelsFor targets) = earlier ++ x :: later) :
    x.Goes (p.afterAll (earlier.filterMap (·.toast?))) authorization document
      ((rs.get? x.target).map (·.channel)) := by
  obtain ⟨t, ht, rfl⟩ := exists_of_turns_eq h
  have hchannel : t.2 = (rs.get? t.1).map (·.channel) := Registrations.snd_of_mem_channelsFor ht
  change Turn.Goes _ _ _ ((rs.get? t.1).map (·.channel)) _
  rw [hchannel]
  exact goes_turn _ _ _ _ _

end Sender

theorem forall₂_complaints {channel? : String → Option String} {authorization document : String}
    {xs : List Turn} (h : ∀ x ∈ xs, ∃ p, x.Goes p authorization document (channel? x.target)) :
    List.Forall₂ (fun x r => r ∈ x.records ∧ r.Blames x.target (channel? x.target))
      (xs.filter (!·.delivered)) ((xs.flatMap (·.records)).filter (·.level = .error)) := by
  induction xs with
  | nil => exact .nil
  | cons x xs ih =>
    obtain ⟨⟨p, hgoes⟩, hmore⟩ := List.forall_mem_cons.mp h
    rw [List.flatMap_cons, List.filter_append]
    cases hdelivered : x.delivered with
    | true =>
      have hnone : x.records.filter (·.level = .error) = [] :=
        List.filter_eq_nil_iff.mpr (by simpa using hgoes.no_complaint hdelivered)
      rw [List.filter_cons_of_neg (by simp [hdelivered]), hnone]
      exact ih hmore
    | false =>
      obtain ⟨r, hone, hblames⟩ := hgoes.one_complaint hdelivered
      have hmem : r ∈ x.records := (List.mem_filter.mp (hone ▸ List.mem_singleton_self r)).1
      rw [List.filter_cons_of_pos (by simp [hdelivered]), hone]
      exact .cons ⟨hmem, hblames⟩ (ih hmore)

/-- The complaints in the log are those about the skipped targets, one for each and in their order.
A target with a request is announced once, before its own outcome. -/
theorem skipped_targets_are_logged {rs : Registrations} {n : Notification}
    {source source' : TokenSource} {w w' : Surroundings} {report : SendReport}
    (h : Sender.send rs n source w = ((.ok report, source'), w')) :
    let named := n.targets.getD []
    let channel? := fun target => (rs.get? target).map (·.channel)
    let provider := (source.token w).2.provider
    ∃ (token : String) (told : List LogRecord) (xs : List Turn),
      (source.token w).1 = (.ok token, source') ∧
      (told = [] ∨ ∃ lifetime, told = [TokenSource.renewal lifetime]) ∧
      w'.log = w.log ++ (told ++ xs.flatMap (·.records)) ∧
      xs.map (·.target) = (if named.isEmpty then rs.keys else named) ∧
      report.delivered = (xs.filter (·.delivered)).map (·.target) ∧
      report.skipped = (xs.filter (!·.delivered)).map (·.target) ∧
      List.Forall₂ (fun x r => r ∈ x.records ∧ r.Blames x.target (channel? x.target))
        (xs.filter (!·.delivered))
        ((told ++ xs.flatMap (·.records)).filter (·.level = .error)) ∧
      ∀ earlier x later, xs = earlier ++ x :: later →
        x.Goes (provider.afterAll (earlier.filterMap (·.toast?))) ("Bearer " ++ token) n.document
          (channel? x.target) ∧
        (x.delivered = true → ∀ r ∈ x.records, r.level ≠ .error) ∧
        ∀ channel uri, channel? x.target = some channel →
          Sender.Builds ("Bearer " ++ token) channel uri →
          ∃ outcome, x.records = Sender.announcement channel :: outcome ∧
            ∀ r ∈ outcome, r.level = .error := by
  intro named channel? provider
  obtain ⟨told, hlog, htold⟩ := source.log_token w
  rcases hcall : source.token w with ⟨⟨result, source₁⟩, w₁⟩
  have hprovider : provider = w₁.provider := congrArg (fun r => r.2.provider) hcall
  rw [hcall] at hlog
  cases result with
  | error f =>
    rw [Sender.send_of_no_token rs n hcall] at h
    cases h
  | ok token =>
    have hsend := Sender.send_of_token_turns rs n hcall
    set xs := Sender.turns (authorization token) n.document w₁.provider (rs.channelsFor named)
      with hxs
    rw [hsend] at h
    cases h
    have hgoes : ∀ earlier x later, xs = earlier ++ x :: later →
        x.Goes (provider.afterAll (earlier.filterMap (·.toast?))) (authorization token) n.document
          (channel? x.target) := by
      intro earlier x later hsplit
      rw [hprovider]
      exact Sender.goes_of_turns_eq (hxs.symm.trans hsplit)
    refine ⟨token, told, xs, rfl, htold, ?_, ?_,
      congrArg SendReport.delivered (SendReport.ofTurns_eq xs),
      congrArg SendReport.skipped (SendReport.ofTurns_eq xs), ?_, ?_⟩
    · change w₁.log ++ xs.flatMap (·.records) = _
      rw [hlog, List.append_assoc]
    · rw [hxs, Sender.map_target_turns, Registrations.map_fst_channelsFor]
    · have hnone : told.filter (·.level = .error) = [] := by
        rcases htold with rfl | ⟨lifetime, rfl⟩
        · rfl
        · rfl
      rw [List.filter_append, hnone, List.nil_append]
      apply forall₂_complaints
      intro x hx
      obtain ⟨earlier, later, hsplit⟩ := List.append_of_mem hx
      exact ⟨_, hgoes earlier x later hsplit⟩
    · intro earlier x later hsplit
      have hx := hgoes earlier x later hsplit
      exact ⟨hx, hx.no_complaint, fun channel uri hchannel hbuilds =>
        (hchannel ▸ hx).announced hbuilds⟩

/-- A device takes its toast and hangs up when it is named again; each of the others is skipped for
a reason of its own. -/
theorem skipped_targets_are_logged_mixed :
    let grant := Reply.answer 200
      (Text.encode "\x7b\"access_token\":\"tok\",\"expires_in\":3600\x7d") 0
    let provider : Provider :=
      ⟨[("https://login.example/token", [grant]),
        ("https://wns.example/a", [.answer 201 [] 0, .close]),
        ("https://wns.example/b", [.answer 410 [] 0])], ["down.example"]⟩
    let w : Surroundings := ⟨provider, fun _ => 0, [], []⟩
    let source : TokenSource := ⟨"https://login.example/token", some ⟨"id", "secret"⟩, none⟩
    let rs : Registrations := Dictionary.ofList
      [("a", ⟨"a", "https://wns.example/a", none, none⟩),
        ("b", ⟨"b", "https://wns.example/b", none, none⟩),
        ("down", ⟨"down", "https://down.example/1", none, none⟩),
        ("space", ⟨"space", "https://wns.example/a b", none, none⟩)]
    let n : Notification :=
      ⟨"hello", none, some ["a", "ghost", "space", "b", "down", "a"], none⟩
    let log := (Sender.send rs n source w).2.log
    (Sender.send rs n source w).1.1.toOption = some ⟨["a"], ["ghost", "space", "b", "down", "a"]⟩ ∧
    log.map (·.text) =
      ["refreshed WNS access token, valid for 3600s",
        "posting toast to https://wns.example/a",
        "ghost is not a valid Windows push notification target",
        "failed to deliver notification to https://wns.example/a b: invalid uri character",
        "posting toast to https://wns.example/b",
        "failed to deliver notification to https://wns.example/b: provider returned 410 Gone",
        "posting toast to https://down.example/1",
        "failed to deliver notification to https://down.example/1: " ++
          "error trying to connect: connection refused",
        "posting toast to https://wns.example/a",
        "failed to deliver notification to https://wns.example/a: " ++
          "connection closed before message completed"] ∧
    ∃ (told : List LogRecord) (xs : List Turn), log = told ++ xs.flatMap (·.records) ∧
      xs.map (·.target) = ["a", "ghost", "space", "b", "down", "a"] ∧
      (xs.filter (!·.delivered)).map (·.target) = ["ghost", "space", "b", "down", "a"] ∧
      List.Forall₂ (fun x r => r ∈ x.records ∧
          r.Blames x.target ((rs.get? x.target).map (·.channel)))
        (xs.filter (!·.delivered)) (log.filter (·.level = .error)) := by
  intro grant provider w source rs n log
  have hreport : (Sender.send rs n source w).1.1.toOption =
      some ⟨["a"], ["ghost", "space", "b", "down", "a"]⟩ := by decide +kernel
  refine ⟨hreport, by decide +kernel, ?_⟩
  cases hresult : Sender.send rs n source w with
  | mk result w' =>
  obtain ⟨result, source'⟩ := result
  rw [hresult] at hreport
  have hw' : log = w'.log := congrArg (fun r => r.2.log) hresult
  cases result with
  | error f => cases hreport
  | ok report =>
    obtain rfl : report = ⟨["a"], ["ghost", "space", "b", "down", "a"]⟩ := Option.some.inj hreport
    obtain ⟨token, told, xs, -, -, hlog, htargets, -, hskipped, hcomplaints, -⟩ :=
      skipped_targets_are_logged hresult
    rw [hw', hlog]
    exact ⟨told, xs, rfl, htargets, hskipped.symm, hcomplaints⟩

end ToastRelay
