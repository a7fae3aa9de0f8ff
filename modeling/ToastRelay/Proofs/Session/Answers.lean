import ToastRelay.Proofs.Registry.Carriers
import ToastRelay.Proofs.Session.Run

/-!
# What the answers to a device say

A device that registers or unregisters learns from the answer what became of its request. Each of
the three messages of success stands for one thing that was done or found, and every other answer
says that the registrations and what the store holds are as they were.
-/

namespace ToastRelay
set_option autoImplicit false

theorem toOption_eq_some_iff {ε α : Type} {x : Except ε α} {a : α} :
    x.toOption = some a ↔ x = .ok a := by
  cases x <;> simp [Except.toOption]

namespace HttpRequest

variable {req : HttpRequest}

theorem value?_eq_some {v : Json} :
    req.value? = some v ↔
      req.body.length ≤ Service.longestBody ∧ Json.ofBytes req.body = .ok v := by
  rw [value?]
  split
  · next hlength =>
    simp only [reduceCtorEq, false_iff, not_and]
    omega
  · next hlength =>
    rw [toOption_eq_some_iff, and_iff_right (Nat.le_of_not_lt hlength)]

section Path
variable (hpath : Service.path? req.target = some Service.registrationPath)
include hpath

theorem change?_eq_enter {registration : Registration} :
    req.change? = some (.enter registration) ↔ req.method = "POST" ∧
      ∃ v, req.value? = some v ∧ Registration.ofRequest v = .ok registration := by
  rw [change?, if_pos hpath]
  split
  · next hpost =>
    rw [Option.map_eq_some_iff]
    constructor
    · rintro ⟨registration', hvalue, heq⟩
      obtain rfl : registration' = registration := Change.enter.inj heq
      obtain ⟨v, hv, hrequest⟩ := Option.bind_eq_some_iff.mp hvalue
      exact ⟨hpost, v, hv, toOption_eq_some_iff.mp hrequest⟩
    · rintro ⟨-, v, hv, hrequest⟩
      rw [← toOption_eq_some_iff] at hrequest
      exact ⟨registration, Option.bind_eq_some_iff.mpr ⟨v, hv, hrequest⟩, rfl⟩
  · next hpost =>
    constructor
    · intro h
      split at h
      · obtain ⟨id, -, hid⟩ := Option.map_eq_some_iff.mp h
        cases hid
      · cases h
    · rintro ⟨h, -⟩
      exact absurd h hpost

theorem change?_of_body {registration : Registration} (hpost : req.method = "POST")
    (hlength : req.body.length ≤ Service.longestBody)
    (hbody : ((Json.ofBytes req.body).toOption.bind fun v =>
      (Registration.ofRequest v).toOption) = some registration) :
    req.change? = some (.enter registration) := by
  rw [change?, if_pos hpath, if_pos hpost, value?, if_neg (Nat.not_lt.mpr hlength), hbody]
  rfl

theorem change?_eq_remove {id : String} :
    req.change? = some (.remove id) ↔ req.method = "DELETE" ∧
      ∃ v, req.value? = some v ∧ v.member? "id" = some (.string id) := by
  have hstring : ∀ v : Json, (v.member? "id").bind Json.string? = some id ↔
      v.member? "id" = some (.string id) := by
    intro v
    rw [Option.bind_eq_some_iff]
    constructor
    · rintro ⟨value, hvalue, hid⟩
      cases value <;> cases hid
      exact hvalue
    · intro hvalue
      exact ⟨_, hvalue, rfl⟩
  rw [change?, if_pos hpath]
  split
  · next hpost =>
    constructor
    · intro h
      obtain ⟨registration, -, hregistration⟩ := Option.map_eq_some_iff.mp h
      cases hregistration
    · rintro ⟨hdelete, -⟩
      rw [hpost] at hdelete
      exact absurd hdelete (by decide)
  · next hpost =>
    split
    · next hdelete =>
      rw [Option.map_eq_some_iff]
      constructor
      · rintro ⟨id', hvalue, heq⟩
        obtain rfl : id' = id := Change.remove.inj heq
        obtain ⟨v, hv, hid⟩ := Option.bind_eq_some_iff.mp hvalue
        exact ⟨hdelete, v, hv, (hstring v).mp hid⟩
      · rintro ⟨-, v, hv, hid⟩
        exact ⟨id, Option.bind_eq_some_iff.mpr ⟨v, hv, (hstring v).mpr hid⟩, rfl⟩
    · next hdelete =>
      constructor
      · intro h
        cases h
      · rintro ⟨h, -⟩
        exact absurd h hdelete

end Path

end HttpRequest

namespace Answer

theorem response_ne :
    registered.response ≠ unregistered.response ∧ registered.response ≠ notRegistered.response ∧
      unregistered.response ≠ notRegistered.response := by
  decide +kernel

end Answer

namespace Session

variable {req : HttpRequest}

theorem step_device_cases (s : Session)
    (hpath : Service.path? req.target = some Service.registrationPath) :
    let r := s.service.registry
    let r' := (s.step (.request req)).2.service.registry
    ∃ a : Answer, (s.step (.request req)).1 = .response a.response ∧
      ((∃ registration store, req.change? = some (.enter registration) ∧
          r.store.save (r.registrations.insert registration.id registration) = (.ok (), store) ∧
          a = .registered ∧ r' = ⟨r.registrations.insert registration.id registration, store⟩) ∨
        (∃ id e store, req.change? = some (.remove id) ∧
          Registry.entryWithId? r.registrations id = some e ∧
          r.store.save (r.registrations.erase e.1) = (.ok (), store) ∧
          a = .unregistered ∧ r' = ⟨r.registrations.erase e.1, store⟩) ∨
        (req.method = "DELETE" ∧ a = .notRegistered ∧ r' = r ∧ ∃ v, req.value? = some v ∧
          ∀ id, v.member? "id" = some (.string id) → r.registrations.carriers id = []) ∨
        (a = .notSaved ∧ r'.registrations = r.registrations ∧ r'.store.load = r.store.load ∧
          ∀ registration store, req.change? = some (.enter registration) →
            r.store.save (r.registrations.insert registration.id registration) ≠ (.ok (), store)) ∨
        (req.change? = none ∧ a.response.status ∈ [400, 405, 413] ∧ r' = r)) := by
  intro r r'
  have hr' : r' = r.after (.request req) := registry_step s (.request req)
  cases hchange : req.change? with
  | none =>
    obtain ⟨a, ha, hcases⟩ := Service.answer_device_of_no_change hpath hchange
    rw [Registry.after_request hchange] at hr'
    have hresult : (s.step (.request req)).1 = .response a.response := by
      rw [step, stepFrom, request, act]
      dsimp only
      rw [ha]
      rfl
    refine ⟨a, hresult, ?_⟩
    rcases hcases with hstatus | ⟨rfl, hdelete, v, hv, hid⟩
    · exact Or.inr (Or.inr (Or.inr (Or.inr ⟨rfl, hstatus, hr'⟩)))
    · refine Or.inr (Or.inr (Or.inl ⟨hdelete, rfl, hr', v, hv, fun id hmember => ?_⟩))
      rw [hmember] at hid
      cases hid
  | some c =>
    have hc : (SessionStep.request req).change? = some c := hchange
    rw [Registry.after_of_change hc] at hr'
    refine ⟨(r.make c).1.answer, result_step hc s, ?_⟩
    rcases r.make_cases c with ⟨hplan, hmake⟩ | ⟨outcome, next, store, hplan, hsave, hmake⟩ |
      ⟨outcome, next, f, store, hplan, hsave, hmake⟩
    · rw [hmake] at hr' ⊢
      cases c with
      | enter registration => cases hplan
      | remove id =>
        obtain ⟨hdelete, v, hv, hmember⟩ := (HttpRequest.change?_eq_remove hpath).mp hchange
        refine Or.inr (Or.inr (Or.inl ⟨hdelete, rfl, hr', v, hv, fun id' hmember' => ?_⟩))
        obtain rfl : id = id' := by simpa using hmember.symm.trans hmember'
        exact Registrations.plan_remove_eq_none_iff.mp hplan
    · rw [hmake] at hr' ⊢
      cases c with
      | enter registration =>
        obtain ⟨rfl, rfl⟩ := Prod.mk.inj (Option.some.inj hplan)
        exact Or.inl ⟨registration, store, rfl, hsave, rfl, hr'⟩
      | remove id =>
        obtain ⟨key, registration, hentry, rfl, rfl⟩ := Change.plan_remove hplan
        exact Or.inr (Or.inl ⟨id, (key, registration), store, rfl, hentry, hsave, rfl, hr'⟩)
    · rw [hmake] at hr' ⊢
      refine Or.inr (Or.inr (Or.inr (Or.inl ⟨rfl, by rw [hr'], ?_, ?_⟩)))
      · rw [hr']
        exact Store.load_of_not_saved hsave
      · intro registration store' hregistration hsaved
        obtain rfl : c = .enter registration := Option.some.inj hregistration
        obtain ⟨-, rfl⟩ := Prod.mk.inj (Option.some.inj hplan)
        rw [hsave] at hsaved
        cases hsaved

section Responses
variable (hpath : Service.path? req.target = some Service.registrationPath)
include hpath

/-- A device that is told that it is registered has had itself saved among the registrations. -/
theorem device_registered {s : Session}
    (h : (s.step (.request req)).1 = .response Answer.registered.response) :
    ∃ registration store, req.change? = some (.enter registration) ∧
      s.service.registry.store.save
        (s.service.registry.registrations.insert registration.id registration) = (.ok (), store) ∧
      (s.step (.request req)).2.service.registry =
        ⟨s.service.registry.registrations.insert registration.id registration, store⟩ := by
  obtain ⟨a, ha, hcases⟩ := s.step_device_cases hpath
  have hresponse : a.response = Answer.registered.response :=
    StepResult.response.inj (ha.symm.trans h)
  rcases hcases with ⟨registration, store, hchange, hsave, -, hr'⟩ | ⟨_, _, _, _, _, _, rfl, _⟩ |
    ⟨_, rfl, _⟩ | ⟨rfl, _⟩ | ⟨_, hstatus, _⟩
  · exact ⟨registration, store, hchange, hsave, hr'⟩
  · exact absurd hresponse.symm Answer.response_ne.1
  · exact absurd hresponse.symm Answer.response_ne.2.1
  · exact absurd hresponse (by decide)
  · rw [hresponse] at hstatus
    exact absurd hstatus (by decide)

theorem device_unregistered {s : Session}
    (h : (s.step (.request req)).1 = .response Answer.unregistered.response) :
    ∃ id e store, req.change? = some (.remove id) ∧
      Registry.entryWithId? s.service.registry.registrations id = some e ∧
      s.service.registry.store.save (s.service.registry.registrations.erase e.1) =
        (.ok (), store) ∧
      (s.step (.request req)).2.service.registry =
        ⟨s.service.registry.registrations.erase e.1, store⟩ := by
  obtain ⟨a, ha, hcases⟩ := s.step_device_cases hpath
  have hresponse : a.response = Answer.unregistered.response :=
    StepResult.response.inj (ha.symm.trans h)
  rcases hcases with ⟨_, _, _, _, rfl, _⟩ | ⟨id, e, store, hchange, hentry, hsave, -, hr'⟩ |
    ⟨_, rfl, _⟩ | ⟨rfl, _⟩ | ⟨_, hstatus, _⟩
  · exact absurd hresponse Answer.response_ne.1
  · exact ⟨id, e, store, hchange, hentry, hsave, hr'⟩
  · exact absurd hresponse.symm Answer.response_ne.2.2
  · exact absurd hresponse (by decide)
  · rw [hresponse] at hstatus
    exact absurd hstatus (by decide)

theorem device_notRegistered {s : Session}
    (h : (s.step (.request req)).1 = .response Answer.notRegistered.response) :
    req.method = "DELETE" ∧
      (s.step (.request req)).2.service.registry = s.service.registry ∧
      ∃ v, req.value? = some v ∧ ∀ id, v.member? "id" = some (.string id) →
        s.service.registry.registrations.carriers id = [] := by
  obtain ⟨a, ha, hcases⟩ := s.step_device_cases hpath
  have hresponse : a.response = Answer.notRegistered.response :=
    StepResult.response.inj (ha.symm.trans h)
  rcases hcases with ⟨_, _, _, _, rfl, _⟩ | ⟨_, _, _, _, _, _, rfl, _⟩ |
    ⟨hdelete, -, hr', hnone⟩ | ⟨rfl, _⟩ | ⟨_, hstatus, _⟩
  · exact absurd hresponse Answer.response_ne.2.1
  · exact absurd hresponse Answer.response_ne.2.2
  · exact ⟨hdelete, hr', hnone⟩
  · exact absurd hresponse (by decide)
  · rw [hresponse] at hstatus
    exact absurd hstatus (by decide)

theorem response_of_saved {s : Session} {registration : Registration} {store : Store}
    (hchange : req.change? = some (.enter registration))
    (hsave : s.service.registry.store.save
      (s.service.registry.registrations.insert registration.id registration) = (.ok (), store)) :
    (s.step (.request req)).1 = .response Answer.registered.response := by
  obtain ⟨a, ha, hcases⟩ := s.step_device_cases hpath
  obtain ⟨hpost, -⟩ := (HttpRequest.change?_eq_enter hpath).mp hchange
  rcases hcases with ⟨_, _, _, _, rfl, _⟩ | ⟨_, _, _, hremove, _⟩ | ⟨hdelete, _⟩ |
    ⟨_, _, _, hunsaved⟩ | ⟨hnone, _⟩
  · exact ha
  · cases hchange.symm.trans hremove
  · exact absurd (hpost.symm.trans hdelete) (by decide)
  · exact absurd hsave (hunsaved registration store hchange)
  · cases hchange.symm.trans hnone

/-- A device that is told neither that it is registered nor that it is unregistered has changed
nothing. -/
theorem device_unchanged {s : Session} {response : HttpResponse}
    (h : (s.step (.request req)).1 = .response response)
    (hne : response ≠ Answer.registered.response) (hne' : response ≠ Answer.unregistered.response) :
    let r := s.service.registry
    let r' := (s.step (.request req)).2.service.registry
    r'.registrations = r.registrations ∧ r'.store.load = r.store.load ∧
      (response = Answer.notRegistered.response ∨ response.status ∈ [400, 404, 405, 413, 500]) := by
  intro r r'
  obtain ⟨a, ha, hcases⟩ := s.step_device_cases hpath
  obtain rfl : a.response = response := StepResult.response.inj (ha.symm.trans h)
  rcases hcases with ⟨_, _, _, _, rfl, _⟩ | ⟨_, _, _, _, _, _, rfl, _⟩ | ⟨_, rfl, hr', _⟩ |
    ⟨rfl, hkept, hload, _⟩ | ⟨_, hstatus, hr'⟩
  · exact absurd rfl hne
  · exact absurd rfl hne'
  · have hsame : r' = r := hr'
    rw [hsame]
    exact ⟨rfl, rfl, Or.inl rfl⟩
  · exact ⟨hkept, hload, Or.inr (by decide)⟩
  · have hsame : r' = r := hr'
    rw [hsame]
    refine ⟨rfl, rfl, Or.inr ?_⟩
    simp only [List.mem_cons] at hstatus ⊢
    tauto

end Responses

end Session

/-- A device is told that it was registered if and only if it was, and that it was unregistered or
not found only if that is so. Every other answer leaves everything as it was. -/
theorem device_answer_tells_truth (s : Session) {req : HttpRequest}
    (hpath : Service.path? req.target = some Service.registrationPath) :
    let registered := Answer.message 200 "Push notification subscriber registered."
    let unregistered := Answer.message 200 "Push notification subscriber unregistered."
    let notFound := Answer.message 200 "Registration not found."
    let r := s.service.registry
    let r' := (s.step (.request req)).2.service.registry
    ∃ response, (s.step (.request req)).1 = .response response ∧
      (response = registered ↔ req.method = "POST" ∧ req.body.length ≤ Service.longestBody ∧
        ∃ v registration store, Json.ofBytes req.body = .ok v ∧
          Registration.ofRequest v = .ok registration ∧
          r.store.save (r.registrations.insert registration.id registration) = (.ok (), store)) ∧
      (∀ v registration, Json.ofBytes req.body = .ok v →
        Registration.ofRequest v = .ok registration → response = registered →
        r'.registrations = r.registrations.insert registration.id registration ∧
        r'.store.load = .ok r'.registrations) ∧
      (response = unregistered → req.method = "DELETE" ∧
        ∃ v id e, Json.ofBytes req.body = .ok v ∧ v.member? "id" = some (.string id) ∧
          e ∈ r.registrations.entries ∧ e.2.id = id ∧
          (∀ e', e' ∈ r'.registrations.entries ↔ e' ∈ r.registrations.entries ∧ e' ≠ e) ∧
          r.store.save r'.registrations = (.ok (), r'.store)) ∧
      (response = notFound → req.method = "DELETE" ∧ r' = r ∧
        ∃ v, Json.ofBytes req.body = .ok v ∧
          ∀ id, v.member? "id" = some (.string id) →
            ∀ e ∈ r.registrations.entries, e.2.id ≠ id) ∧
      (response ≠ registered → response ≠ unregistered →
        r'.registrations = r.registrations ∧ r'.store.load = r.store.load ∧
        (response = notFound ∨ response.status ∈ [400, 404, 405, 413, 500])) := by
  intro registered unregistered notFound r r'
  obtain ⟨a, ha, -⟩ := s.step_device_cases hpath
  have hvalue : ∀ {v}, req.value? = some v ↔
      req.body.length ≤ Service.longestBody ∧ Json.ofBytes req.body = .ok v :=
    HttpRequest.value?_eq_some
  refine ⟨a.response, ha, ⟨?_, ?_⟩, ?_, ?_, ?_, Session.device_unchanged hpath ha⟩
  · intro h
    rw [h] at ha
    obtain ⟨registration, store, hchange, hsave, -⟩ := Session.device_registered hpath ha
    obtain ⟨hpost, v, hv, hrequest⟩ := (HttpRequest.change?_eq_enter hpath).mp hchange
    obtain ⟨hlength, hbytes⟩ := hvalue.mp hv
    exact ⟨hpost, hlength, v, registration, store, hbytes, hrequest, hsave⟩
  · rintro ⟨hpost, hlength, v, registration, store, hbytes, hrequest, hsave⟩
    have hchange := (HttpRequest.change?_eq_enter hpath).mpr
      ⟨hpost, v, hvalue.mpr ⟨hlength, hbytes⟩, hrequest⟩
    exact StepResult.response.inj (ha.symm.trans (Session.response_of_saved hpath hchange hsave))
  · intro v registration hbytes hrequest h
    rw [h] at ha
    obtain ⟨registration', store, hchange, hsave, hr'⟩ := Session.device_registered hpath ha
    obtain ⟨-, v', hv', hrequest'⟩ := (HttpRequest.change?_eq_enter hpath).mp hchange
    obtain rfl : v' = v := Except.ok.inj ((hvalue.mp hv').2.symm.trans hbytes)
    obtain rfl : registration' = registration := Except.ok.inj (hrequest'.symm.trans hrequest)
    have hafter : r' = ⟨r.registrations.insert registration'.id registration', store⟩ := hr'
    rw [hafter]
    exact ⟨rfl, Store.load_of_saved hsave⟩
  · intro h
    rw [h] at ha
    obtain ⟨id, e, store, hchange, hentry, hsave, hr'⟩ := Session.device_unregistered hpath ha
    obtain ⟨hdelete, v, hv, hmember⟩ := (HttpRequest.change?_eq_remove hpath).mp hchange
    obtain ⟨hmem, hid⟩ := Registry.mem_of_entryWithId? hentry
    have hafter : r' = ⟨r.registrations.erase e.1, store⟩ := hr'
    rw [hafter]
    refine ⟨hdelete, v, id, e, (hvalue.mp hv).2, hmember, hmem, hid, fun e' => ?_, hsave⟩
    rw [Dictionary.mem_erase_iff]
    constructor
    · rintro ⟨hkey, hmem'⟩
      exact ⟨hmem', fun heq => hkey (congrArg Prod.fst heq)⟩
    · rintro ⟨hmem', hne⟩
      exact ⟨fun hkey => hne (Dictionary.eq_of_mem hmem' hmem hkey), hmem'⟩
  · intro h
    rw [h] at ha
    obtain ⟨hdelete, hr', v, hv, hnone⟩ := Session.device_notRegistered hpath ha
    refine ⟨hdelete, hr', v, (hvalue.mp hv).2, fun id hid => ?_⟩
    exact Registrations.carriers_eq_nil_iff.mp (hnone id hid)

/-- A device that posts itself is told so and is kept. -/
theorem device_answer_tells_truth_posted :
    let req : HttpRequest := ⟨"POST", "/api/notify.windows", Text.encode
      "\x7b\"channel\": \"https://wns.example/1\", \"id\": \"dev\", \"expiry\": 7\x7d"⟩
    let device : Registration := ⟨"dev", "https://wns.example/1", some 7, none⟩
    Service.path? req.target = some Service.registrationPath ∧
    ∀ settings surroundings, ∃ s,
      Session.start settings (.memory ⟨Dictionary.empty, 0, .succeed⟩) surroundings = .ok s ∧
      (s.step (.request req)).1 =
        .response (Answer.message 200 "Push notification subscriber registered.") ∧
      (s.step (.request req)).2.service.registry.registrations =
        Dictionary.empty.insert "dev" device := by
  intro req device
  have hpath : Service.path? req.target = some Service.registrationPath := by decide +kernel
  have hrequest : ((Json.ofBytes req.body).toOption.bind fun v =>
      (Registration.ofRequest v).toOption) = some device := by decide +kernel
  obtain ⟨v, hv, hdevice⟩ := Option.bind_eq_some_iff.mp hrequest
  rw [toOption_eq_some_iff] at hv hdevice
  refine ⟨hpath, fun settings surroundings => ?_⟩
  have hload : (Store.memory ⟨Dictionary.empty, 0, .succeed⟩).load = .ok Dictionary.empty := rfl
  obtain ⟨s, hs, hservice⟩ := Session.start_of_load hload settings surroundings
  obtain ⟨response, hresponse, hiff, hafter, -⟩ := device_answer_tells_truth s hpath
  obtain ⟨store, hsave⟩ : ∃ store, s.service.registry.store.save
      (s.service.registry.registrations.insert device.id device) = (.ok (), store) := by
    rw [hservice]
    exact ⟨_, rfl⟩
  have hregistered : response = Answer.message 200 "Push notification subscriber registered." :=
    hiff.mpr ⟨rfl, by decide +kernel, v, device, store, hv, hdevice, hsave⟩
  refine ⟨s, hs, by rw [hresponse, hregistered], ?_⟩
  have hsaved := (hafter v device hv hdevice hregistered).1
  rw [hservice] at hsaved
  exact hsaved

end ToastRelay
