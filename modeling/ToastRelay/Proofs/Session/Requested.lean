import ToastRelay.Proofs.Endpoint.Description
import ToastRelay.Proofs.Json.Compact
import ToastRelay.Proofs.Session.Frame

/-!
# Requested notifications

To ask for a notification by a request is to send it: the provider receives the same, and the session
goes on in the same state. The response says what became of the notification, and the texts in it can
be read back whatever they are. A request that is refused sends nothing.
-/

namespace ToastRelay
set_option autoImplicit false

namespace Answer

theorem isTextual_texts (ss : List String) (depth : Nat) : (texts ss).IsTextual (depth + 2) :=
  .array fun v hv => by
    obtain ⟨s, -, rfl⟩ := List.mem_map.mp hv
    exact .string s

theorem ofBytes_json {members : List (String × Json)} (hascending : Ascending members)
    (htextual : ∀ e ∈ members, e.2.IsTextual 127) (status : Nat) :
    Json.ofBytes (Text.encode (json status members).body) = .ok (.object members) :=
  Json.ofBytes_compact (.object hascending htextual)

theorem ofBytes_sent (report : SendReport) :
    Json.ofBytes (Text.encode (sent report).response.body) = .ok (.object
      [("delivered", texts report.delivered), ("message", .string "Notification sent."),
        ("skipped", texts report.skipped)]) := by
  apply ofBytes_json
  · have hnames : ["delivered", "message", "skipped"].Pairwise (· < ·) := by decide
    exact (List.pairwise_map (f := Prod.fst)).mp hnames
  · simp only [List.forall_mem_cons]
    exact ⟨isTextual_texts _ 125, .string _, isTextual_texts _ 125, by simp⟩

theorem ofBytes_message (status : Nat) (text : String) :
    Json.ofBytes (Text.encode (message status text).body) =
      .ok (.object [("message", .string text)]) := by
  apply ofBytes_json
  · exact List.pairwise_singleton _ _
  · exact List.forall_mem_singleton.mpr (.string text)

theorem status_ofSend (result : Except TokenFault SendReport) :
    (ofSend result).response.status = 200 ∨ (ofSend result).response.status = 502 := by
  cases result with
  | ok report => exact Or.inl rfl
  | error f => exact Or.inr rfl

end Answer

def Session.noting (s : Session) (r : LogRecord) : Session :=
  { s with surroundings := s.surroundings.recordAll [r] }

/-- A request for a notification sends it, and differs from sending it in what it tells. -/
theorem Session.step_of_requested {req : HttpRequest} {n : Notification}
    (h : req.notification? = some n) (s : Session) :
    ∃ result s', s.step (.send n) = (.ofReport result, s') ∧
      s.step (.request req) = (.response (Answer.ofSend result).response,
        { s' with surroundings := s'.surroundings.recordAll (requestedSendRecords result) }) := by
  rcases hsend : Sender.send s.service.registry.registrations n s.service.tokens
    s.surroundings.forget with ⟨⟨result, tokens⟩, w⟩
  refine ⟨result, { s with
    service := { s.service with tokens := tokens }, surroundings := w }, ?_, ?_⟩
  · rw [step_send, hsend]
  · rw [step_of_notification (x := .request req) h, hsend]
    rfl

/-- A request that describes a notification sends just that notification, and its answer is the
report or the error. -/
theorem send_endpoint_is_send (s : Session) {req : HttpRequest}
    (hpath : Service.path? req.target = some Service.sendPath) :
    let requested := s.step (.request req)
    (∀ n v, req.method = "POST" → req.body.length ≤ Service.longestBody →
      Json.ofBytes req.body = .ok v → n.DescribedBy v →
      let sent := s.step (.send n)
      ∃ response, requested.1 = .response response ∧
        ((∃ report, sent.1 = .report report ∧ requested.2 = sent.2 ∧ response.status = 200 ∧
          Json.ofBytes (Text.encode response.body) = .ok (.object
            [("delivered", .array (report.delivered.map .string)),
              ("message", .string "Notification sent."),
              ("skipped", .array (report.skipped.map .string))])) ∨
        ∃ f : TokenFault, let e := RelayError.tokenFetch f.text
          sent.1 = .failed e ∧ requested.2 = sent.2.noting ⟨.error, .server, e.text⟩ ∧
          response.status = 502 ∧ Json.ofBytes (Text.encode response.body) =
            .ok (.object [("message", .string e.text)]))) ∧
    ∀ response, requested.1 = .response response → response.status = 400 ∨ response.status = 413 →
      requested.2.surroundings.received = [] := by
  intro requested
  constructor
  · intro n v hpost hlength hbody hdescribed sent
    have hvalue : req.value? = some v := by
      rw [HttpRequest.value?, if_neg (Nat.not_lt.mpr hlength), hbody]
      rfl
    have hnotification : req.notification? = some n :=
      HttpRequest.notification?_eq_some.mpr ⟨hpath, hpost, v, hvalue,
        Notification.ofRequest_of_describedBy hdescribed (Json.ascends_of_ofBytes hbody)⟩
    obtain ⟨result, s', hsent, hrequested⟩ := Session.step_of_requested hnotification s
    have hsent' : sent = _ := hsent
    have hrequested' : requested = _ := hrequested
    rw [hsent', hrequested']
    refine ⟨_, rfl, ?_⟩
    cases result with
    | ok report =>
      refine Or.inl ⟨report, rfl, ?_, rfl, Answer.ofBytes_sent report⟩
      rw [requestedSendRecords, Surroundings.recordAll_nil]
    | error f => exact Or.inr ⟨f, rfl, rfl, rfl, Answer.ofBytes_message _ _⟩
  · intro response hresponse hstatus
    cases hnotification : req.notification? with
    | some n =>
      -- What asks for a notification is answered with neither of these.
      obtain ⟨result, s', -, hrequested⟩ := Session.step_of_requested hnotification s
      rw [show requested = _ from hrequested] at hresponse
      obtain rfl := StepResult.response.inj hresponse
      have hanswered := Answer.status_ofSend result
      omega
    | none =>
      obtain ⟨a, ha⟩ :=
        Session.step_of_refused (HttpRequest.change?_of_sendPath hpath) hnotification
      rw [show requested = _ from ha s]
      rfl

/-- A device whose identifier has quotation marks is asked for alone, and is found in the answer. -/
theorem send_endpoint_is_send_quoted :
    let settings : Settings :=
      ⟨some "id", some "secret", "https://login.example/token", "registrations.conf", 8000⟩
    let source : TokenSource := ⟨settings.tokenUrl, settings.credentials,
      some ⟨"tok", 600 * Token.second⟩⟩
    let rs : Registrations := Dictionary.ofList
      [("\"a\"", ⟨"\"a\"", "https://wns.example/1", none, none⟩)]
    let s : Session := ⟨settings, ⟨⟨rs, .memory ⟨rs, 0, .succeed⟩⟩, source⟩, source,
      ⟨⟨[("https://wns.example/1", [.answer 200 [] 0])], []⟩, fun _ => 0, [], []⟩⟩
    let v : Json := .object [("message", .string "hello"), ("target", .string "\"a\"")]
    let req : HttpRequest := ⟨"POST", "/api/notify.windows/send", Text.encode v.compact⟩
    let n : Notification := ⟨"hello", none, some ["\"a\""], none⟩
    Service.path? req.target = some Service.sendPath ∧ Json.ofBytes req.body = .ok v ∧
      n.DescribedBy v ∧ (s.step (.send n)).1 = .report ⟨["\"a\""], []⟩ ∧
      ∃ response, (s.step (.request req)).1 = .response response ∧ response.status = 200 ∧
        Json.ofBytes (Text.encode response.body) = .ok (.object
          [("delivered", .array [.string "\"a\""]), ("message", .string "Notification sent."),
            ("skipped", .array [])]) := by
  intro settings source rs s v req n
  have hpath : Service.path? req.target = some Service.sendPath := by decide +kernel
  have hlength : req.body.length ≤ Service.longestBody := by decide +kernel
  have hnames : ["message", "target"].Pairwise (· < ·) := by decide
  have hbody : Json.ofBytes req.body = .ok v := Json.ofBytes_compact
    (.object ((List.pairwise_map (f := Prod.fst)).mp hnames) (by simp [Json.IsTextual.string]))
  have hdescribed : n.DescribedBy v :=
    ⟨⟨_, rfl⟩, rfl, .missing, .given (.one _), .missing⟩
  have hreport : (s.step (.send n)).1 = .report ⟨["\"a\""], []⟩ := by decide +kernel
  obtain ⟨response, hresponse, hcases⟩ :=
    (send_endpoint_is_send s hpath).1 n v rfl hlength hbody hdescribed
  rcases hcases with ⟨report, hreport', -, hstatus, hdecoded⟩ | ⟨f, hfailed, -⟩
  · rw [hreport] at hreport'
    obtain rfl := StepResult.report.inj hreport'
    exact ⟨hpath, hbody, hdescribed, hreport, response, hresponse, hstatus, hdecoded⟩
  · rw [hreport] at hfailed
    cases hfailed

end ToastRelay
