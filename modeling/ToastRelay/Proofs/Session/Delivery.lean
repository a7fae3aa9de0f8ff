import ToastRelay.Proofs.Registration.Schema
import ToastRelay.Proofs.Sender.Postings
import ToastRelay.Proofs.Session.Answers
import ToastRelay.Proofs.Web.Plain

/-!
# What becomes of accepted channels

A channel is accepted by the lenient reading of addresses, kept as it was given, and sent to by the
strict reading. So a device that was registered gets its toasts if and only if its channel is an
absolute target as it stands, which every accepted address in plain form is. All other channels are
skipped without a request.
-/

namespace ToastRelay
set_option autoImplicit false

namespace Session

variable {s : Session} {notification : Notification} {registration : Registration}
  {token : String} {source : TokenSource} {w : Surroundings}

theorem step_send_eq_post (htargets : notification.targets = some [registration.id])
    (hget : s.service.registry.get? registration.id = some registration)
    (htoken : s.service.tokens.token s.surroundings.forget = ((.ok token, source), w))
    {result : Except DeliveryFault Unit} {w' : Surroundings}
    (hpost : Sender.post registration.channel (ToastRelay.authorization token)
      notification.document w = (result, w')) :
    (s.step (.send notification)).1 =
        .report (SendReport.empty.add registration.id result.toBool) ∧
      (s.step (.send notification)).2.surroundings.received = w'.received := by
  obtain ⟨v, hsend, hreceived⟩ := Sender.send_eq_post htargets hget htoken hpost
  have hservice : s.service.send notification s.surroundings.forget =
      ((.ok (SendReport.empty.add registration.id result.toBool),
        { s.service with tokens := source }), v) := by
    simp only [Service.send, Act.bind_apply, hsend]
    rfl
  rw [step, stepFrom, send, act]
  dsimp only
  rw [hservice]
  exact ⟨rfl, hreceived⟩

end Session

/-- With a legal token and a provider that takes it, a toast reaches a registered device if and only
if its channel is an absolute target, as all addresses in plain form are. -/
theorem registered_device_is_reached {s : Session} {req : HttpRequest}
    (hpath : Service.path? req.target = some Service.registrationPath)
    (h : (s.step (.request req)).1 =
      .response (Answer.message 200 "Push notification subscriber registered.")) :
    ∃ v registration, Json.ofBytes req.body = .ok v ∧
      Registration.ofRequest v = .ok registration ∧
      (s.step (.request req)).2.service.registry.get? registration.id = some registration ∧
      (∀ a : Web.PlainAddress, registration.channel = a.text →
        a.text.utf8ByteSize ≤ Web.Uri.longest → (Web.Uri.absolute? registration.channel).isSome) ∧
      ∀ (xs : List SessionStep) (notification : Notification) (token : String)
        (source : TokenSource) (w : Surroundings),
        let t := (s.step (.request req)).2.run xs
        let sent := t.step (.send notification)
        t.service.registry.get? registration.id = some registration →
        notification.targets = some [registration.id] →
        t.service.tokens.token t.surroundings.forget = ((.ok token, source), w) →
        Sender.isHeaderValue (ToastRelay.authorization token) = true →
        (∀ uri, Web.Uri.absolute? registration.channel = some uri → w.provider.Takes uri) →
        match Web.Uri.absolute? registration.channel with
        | some uri => sent.1 = .report ⟨[registration.id], []⟩ ∧
          sent.2.surroundings.received = w.received ++
            [Sender.toastTo uri (ToastRelay.authorization token) notification.document]
        | none => sent.1 = .report ⟨[], [registration.id]⟩ ∧
          sent.2.surroundings.received = w.received := by
  obtain ⟨registration, store, hchange, -, hregistry⟩ := Session.device_registered hpath h
  obtain ⟨-, v, hvalue, hrequest⟩ := (HttpRequest.change?_eq_enter hpath).mp hchange
  refine ⟨v, registration, (HttpRequest.value?_eq_some.mp hvalue).2, hrequest, ?_, ?_, ?_⟩
  · rw [hregistry]
    change (s.service.registry.registrations.insert registration.id registration).get?
      registration.id = some registration
    rw [Dictionary.get?_insert, if_pos rfl]
  · intro a ha hshort
    have hweb := Registration.isWebAddress_of_ofRequest hrequest
    rw [ha] at hweb ⊢
    exact a.isSome_absolute? hweb hshort
  · intro xs notification token source w t sent hget htargets htoken hvalue htakes
    cases huri : Web.Uri.absolute? registration.channel with
    | some uri =>
      obtain ⟨w', hpost, hreceived⟩ :=
        Sender.post_of_absolute huri hvalue (htakes uri huri) notification.document
      obtain ⟨hresult, hsent⟩ := Session.step_send_eq_post htargets hget htoken hpost
      exact ⟨hresult, hsent.trans hreceived⟩
    | none =>
      obtain ⟨f, w', hpost, hreceived⟩ := Sender.post_of_not_absolute huri notification.document w
      obtain ⟨hresult, hsent⟩ := Session.step_send_eq_post htargets hget htoken hpost
      exact ⟨hresult, hsent.trans hreceived⟩

def Session.takingToasts : Session :=
  let settings : Settings :=
    ⟨some "id", some "secret", "https://login.example/token", "registrations.conf", 8000⟩
  let grant := Reply.answer 200
    (Text.encode "\x7b\"access_token\":\"tok\",\"expires_in\":3600\x7d") 0
  let provider : Provider :=
    ⟨[("https://login.example/token", [grant]),
      ("https://wns.example:8443/1?token=a%20b", [.answer 200 [] 0]),
      ("https://wns.example/a%20b", [.answer 200 [] 0])], []⟩
  let registry : Registry := ⟨Dictionary.empty, .memory ⟨Dictionary.empty, 0, .succeed⟩⟩
  ⟨settings, serviceOf settings registry, TokenSource.ofSettings settings,
    (registry.recordLoad ⟨provider, fun _ => 0, [], []⟩).2⟩

theorem Session.step_takingToasts {req : HttpRequest} {device : Registration}
    (h : req.change? = some (.enter device)) :
    let s := takingToasts
    let t := (s.step (.request req)).2
    (s.step (.request req)).1 =
      .response (Answer.message 200 "Push notification subscriber registered.") ∧
    t.service.registry.get? device.id = some device ∧
    t.service.tokens.token t.surroundings.forget =
      ((.ok "tok", (s.service.tokens.token s.surroundings.forget).1.2),
        (s.service.tokens.token s.surroundings.forget).2) := by
  intro s t
  have hstep := step_of_change (x := .request req) h s
  have hgranted : (s.service.tokens.token s.surroundings.forget).1.1.toOption = some "tok" := by
    decide +kernel
  have htoken := toOption_eq_some_iff.mp hgranted
  refine ⟨by rw [hstep]; rfl, ?_, ?_⟩
  · change (s.step (.request req)).2.service.registry.get? device.id = some device
    rw [hstep]
    change (Dictionary.empty.insert device.id device).get? device.id = some device
    rw [Dictionary.get?_insert, if_pos rfl]
  · change (s.step (.request req)).2.service.tokens.token
      (s.step (.request req)).2.surroundings.forget = _
    rw [hstep]
    exact Prod.ext (Prod.ext htoken rfl) rfl

/-- A device with a port and a query in its channel gets its toast. -/
theorem registered_device_is_reached_plain :
    let channel := "HTTPS://wns.example:8443/1?token=a%20b#here"
    let req : HttpRequest := ⟨"POST", "/api/notify.windows", Text.encode
      "\x7b\"channel\":\"HTTPS://wns.example:8443/1?token=a%20b#here\",\"id\":\"dev\"\x7d"⟩
    let notification : Notification := ⟨"hello", none, some ["dev"], none⟩
    let s := Session.takingToasts
    (s.step (.request req)).1 =
      .response (Answer.message 200 "Push notification subscriber registered.") ∧
    (Web.Uri.absolute? channel).isSome ∧
    ((s.step (.request req)).2.step (.send notification)).1 = .report ⟨["dev"], []⟩ := by
  intro channel req notification s
  let device : Registration := ⟨"dev", channel, none, none⟩
  let a : Web.PlainAddress :=
    { scheme := "HTTPS".toList
      scheme_web := by decide
      user := none
      user_plain := by simp
      user_colons := by simp
      host := "wns.example:8443".toList
      host_plain := List.all_iff_forall_prop.mp (by decide)
      host_ne_nil := by decide
      path := "/1".toList
      path_plain := List.all_iff_forall_prop.mp (by decide)
      path_rooted := by decide
      query := some "token=a%20b".toList
      query_plain := by
        rintro q ⟨⟩
        exact List.all_iff_forall_prop.mp (by decide)
      fragment := some "here".toList }
  have hpath : Service.path? req.target = some Service.registrationPath := by decide +kernel
  have hdevice : ((Json.ofBytes req.body).toOption.bind fun v =>
      (Registration.ofRequest v).toOption) = some device := by decide +kernel
  obtain ⟨hregistered, -, htoken⟩ := Session.step_takingToasts
    (HttpRequest.change?_of_body hpath rfl (by decide +kernel) hdevice)
  obtain ⟨v, registration, hv, hrequest, hkept, hplain, hsend⟩ :=
    registered_device_is_reached hpath hregistered
  obtain rfl : registration = device := by
    rw [hv] at hdevice
    change (Registration.ofRequest v).toOption = some device at hdevice
    rw [hrequest] at hdevice
    exact Option.some.inj hdevice
  have habsolute : Web.Uri.absolute? channel = some ⟨some "https".toList,
      "wns.example:8443".toList, "/1".toList, some "token=a%20b".toList⟩ := by decide +kernel
  have htakes : ∀ uri, Web.Uri.absolute? channel = some uri →
      (s.service.tokens.token s.surroundings.forget).2.provider.Takes uri := by
    intro uri huri
    obtain rfl := Option.some.inj (habsolute.symm.trans huri)
    exact ⟨by decide +kernel, ⟨200, some []⟩, by decide +kernel, rfl⟩
  have hsent := hsend [] notification "tok" _ _ hkept rfl htoken (by decide +kernel) htakes
  rw [habsolute] at hsent
  exact ⟨hregistered, hplain a (by decide +kernel) (by decide +kernel), hsent.1⟩

/-- A blank in a path is accepted, but no request can be sent there, whatever the provider does. -/
theorem accepted_channel_is_skipped :
    let channel := "https://wns.example/a b"
    let req : HttpRequest := ⟨"POST", "/api/notify.windows", Text.encode
      "\x7b\"channel\":\"https://wns.example/a b\",\"id\":\"dev\"\x7d"⟩
    let notification : Notification := ⟨"hello", none, some ["dev"], none⟩
    let s := Session.takingToasts
    let t := (s.step (.request req)).2
    (s.step (.request req)).1 =
      .response (Answer.message 200 "Push notification subscriber registered.") ∧
    t.service.registry.get? "dev" = some ⟨"dev", channel, none, none⟩ ∧
    (t.service.tokens.token t.surroundings.forget).1.1 = .ok "tok" ∧
    Sender.isHeaderValue (ToastRelay.authorization "tok") = true ∧
    (t.step (.send notification)).1 = .report ⟨[], ["dev"]⟩ ∧
    ∀ authorization document w, ∃ f w',
      Sender.post channel authorization document w = (.error f, w') := by
  intro channel req notification s t
  let device : Registration := ⟨"dev", channel, none, none⟩
  have hpath : Service.path? req.target = some Service.registrationPath := by decide +kernel
  have hdevice : ((Json.ofBytes req.body).toOption.bind fun v =>
      (Registration.ofRequest v).toOption) = some device := by decide +kernel
  obtain ⟨hregistered, hkept, htoken⟩ := Session.step_takingToasts
    (HttpRequest.change?_of_body hpath rfl (by decide +kernel) hdevice)
  have habsolute : Web.Uri.absolute? channel = none := by decide +kernel
  refine ⟨hregistered, hkept, congrArg (·.1.1) htoken, by decide +kernel, ?_, ?_⟩
  · obtain ⟨f, w', hpost, -⟩ := Sender.post_of_not_absolute habsolute notification.document _
    exact (Session.step_send_eq_post rfl hkept htoken hpost).1
  · intro authorization document w
    obtain ⟨f, w', hpost, -⟩ := Sender.post_of_not_absolute habsolute document w
    exact ⟨f, w', hpost⟩

end ToastRelay
